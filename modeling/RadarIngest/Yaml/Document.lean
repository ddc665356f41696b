import RadarIngest.Yaml.Parser

/-!
**YAML documents as lists of nodes.**

A reader of typed values does not work on the parser directly: it first collects the events of
one document into a list of `RadarIngest.Yaml.Node`s and then reads from that list.  Anchors are
numbered as they are defined, and an alias becomes the number of its anchor; the position of the
node each number stands for is kept in `RadarIngest.Yaml.Document.aliases`.

A syntax error does not discard the document: the nodes before it are kept together with the
error, and the error is reported only when a reader needs a node past them.  So a document whose
first wrong value comes before its first syntax error reports the wrong value.

A text without any node is one document with a single `Node.empty`.

Main definitions:

* `RadarIngest.Yaml.Failure` and `RadarIngest.Yaml.Failure.message` — every way reading a
  document can fail;
* `RadarIngest.Yaml.Node`, `RadarIngest.Yaml.Document`;
* `RadarIngest.Yaml.Loader.nextDocument`.
-/

set_option autoImplicit false

namespace RadarIngest

namespace Yaml

/-- Why reading a document failed. -/
inductive Failure where
  /-- The text is not YAML. -/
  | malformed (e : SyntaxError)
  /-- A value does not fit the type read; the position and the path of the value are filled in
  by the innermost reader that knows them. -/
  | invalid (text : String) (place : Option (Mark × String))
  /-- The nodes ran out. -/
  | endOfStream
  | moreThanOneDocument
  | unknownAnchor (mark : Mark)
  | recursionLimit (mark : Mark)
  | repetitionLimit
  deriving Repr

/-- The text of a failure. -/
def Failure.message : Failure → String
  | .malformed e => e.message
  | .invalid text none => text
  | .invalid text (some (mark, path)) =>
    (if path != "." then path ++ ": " else "") ++ text ++
      (if mark.isStart then "" else " at " ++ mark.text)
  | .endOfStream => "EOF while parsing a value"
  | .moreThanOneDocument =>
    "deserializing from YAML containing more than one document is not supported"
  | .unknownAnchor mark => "unknown anchor" ++ (if mark.isStart then "" else " at " ++ mark.text)
  | .recursionLimit mark =>
    "recursion limit exceeded" ++ (if mark.isStart then "" else " at " ++ mark.text)
  | .repetitionLimit => "repetition limit exceeded"

/-- A node of a document as a reader sees it. -/
inductive Node where
  /-- A use of the anchor with this number. -/
  | alias (id : Nat)
  | scalar (value : String) (style : ScalarStyle) (tag : Option Tag)
  | sequenceStart (tag : Option Tag)
  | sequenceEnd
  | mappingStart (tag : Option Tag)
  | mappingEnd
  /-- The content of a text without any node. -/
  | empty
  deriving Repr

/-- The nodes of one document, with positions, the error that cut it short if any, and where
the node of each anchor number is. -/
structure Document where
  nodes : Array (Node × Mark) := #[]
  error : Option Failure := none
  aliases : Array Nat := #[]
  deriving Repr

/-- Reads the documents of a text one after the other. -/
structure Loader where
  /-- The parser, until the stream has ended. -/
  parser : Option Parser
  /-- The syntax error that stopped the parser; the parser reports it again when asked. -/
  failed : Option SyntaxError := none
  count : Nat := 0

namespace Loader

/-- A loader at the start of a text. -/
def ofString (s : String) : Loader := { parser := some (Parser.ofString s) }

/-- Points anchor number `id` at a node position; a number given out before is pointed anew. -/
def pointAnchor (aliases : Array Nat) (id pos : Nat) : Array Nat :=
  if id < aliases.size then aliases.setIfInBounds id pos else aliases.push pos

/-- Defines an anchor for the node about to be added.  Its number is the count of distinct anchor
names so far, and that number now stands for the new node.  A name defined again therefore takes
the number that the next new name will also take: both then stand for whichever of their nodes
came last, and the name's earlier number keeps its old node but is no longer reachable. -/
def define (anchors : List (String × Nat)) (d : Document) : Option String →
    List (String × Nat) × Document
  | none => (anchors, d)
  | some name =>
    let id := anchors.length
    let anchors := if anchors.any (·.1 == name) then
        anchors.map fun (n, i) => if n == name then (n, id) else (n, i)
      else anchors ++ [(name, id)]
    (anchors, { d with aliases := pointAnchor d.aliases id d.nodes.size })

/-- The result of one round of collecting a document. -/
inductive Round where
  | more (anchors : List (String × Nat)) (d : Document) (p : Parser)
  | done (d : Option Document) (l : Loader)

/-- Adds the next event to a document. -/
def round (l : Loader) (first : Bool) (anchors : List (String × Nat)) (d : Document)
    (p : Parser) : Round :=
  match p.next with
  | .error e => .done (some { d with error := some (.malformed e) }) { l with parser := some p, failed := some e }
  | .ok (none, _) => .done none { l with parser := none }
  | .ok (some ev, p) =>
    let add (n : Node) (d : Document) : Document := { d with nodes := d.nodes.push (n, ev.start) }
    match ev.kind with
    | .streamStart | .documentStart => .more anchors d p
    | .streamEnd =>
      let l := { l with parser := none }
      if first then
        .done (some (if d.nodes.isEmpty then add .empty d else d)) l
      else .done none l
    | .documentEnd => .done (some d) { l with parser := some p }
    | .alias name =>
      match anchors.lookup name with
      | some id => .more anchors (add (.alias id) d) p
      | none => .done (some { d with error := some (.unknownAnchor ev.start) }) { l with parser := some p }
    | .scalar anchor tag value style =>
      let (anchors, d) := define anchors d anchor
      .more anchors (add (.scalar value style tag) d) p
    | .sequenceStart anchor tag =>
      let (anchors, d) := define anchors d anchor
      .more anchors (add (.sequenceStart tag) d) p
    | .sequenceEnd => .more anchors (add .sequenceEnd d) p
    | .mappingStart anchor tag =>
      let (anchors, d) := define anchors d anchor
      .more anchors (add (.mappingStart tag) d) p
    | .mappingEnd => .more anchors (add .mappingEnd d) p

/-- Collects events into a document until it ends. -/
def collect (l : Loader) (first : Bool) : Nat → List (String × Nat) → Document → Parser →
    Option Document × Loader
  | 0, _, d, p => (some { d with error := some .endOfStream }, { l with parser := some p })
  | fuel + 1, anchors, d, p =>
    match round l first anchors d p with
    | .more anchors d p => collect l first fuel anchors d p
    | .done d l => (d, l)

/-- The next document of the text, if there is one more. -/
def nextDocument (l : Loader) : Option Document × Loader :=
  match l.failed with
  | some e => (some { error := some (.malformed e) }, l)
  | none =>
    match l.parser with
    | none => (none, l)
    | some p =>
      let first := l.count == 0
      let l := { l with count := l.count + 1 }
      collect l first (8 * p.scanner.text.size + 64) [] {} p

end Loader

end Yaml

end RadarIngest
