import RadarIngest.Binary32
import RadarIngest.Yaml.Document
import RadarIngest.Yaml.Scalar

/-!
**Typed values read from a YAML document.**

A reader walks the nodes of a `RadarIngest.Yaml.Document` with a cursor.  Readers of scalars,
of enumeration variants and of structures are provided; an alias is followed to the node of its
anchor with a cursor of its own, after which reading goes on after the alias.

A number is read straight from the text of a plain scalar, whatever its tag, or of a literal
block scalar tagged with the number's own tag; only a node that does not give a number that way
is resolved (`RadarIngest.Yaml.resolve`), to say in the refusal what the node stands for.

A reader that fails says what was wrong without saying where; the position of the node being
read and its path from the root (`frames`, `geometry.rx_antennas`) are added by the innermost
reader that knows them, and a failure that already has a place keeps it.

Main definitions:

* `RadarIngest.Yaml.Path`, `RadarIngest.Yaml.Reader`;
* `RadarIngest.Yaml.Reader.word`, `RadarIngest.Yaml.Reader.single` (through
  `RadarIngest.Yaml.Reader.number`),
  `RadarIngest.Yaml.Reader.variant`, `RadarIngest.Yaml.Reader.record`;
* `RadarIngest.Yaml.decode` — reads the single document of a text.
-/

set_option autoImplicit false

namespace RadarIngest

namespace Yaml

/-- Where a value sits in the document. -/
inductive Path where
  | root
  | key (parent : Path) (name : String)
  | alias (parent : Path)
  /-- The value of a key that is not a plain name. -/
  | unknown (parent : Path)

/-- The path as messages show it: keys joined by dots, the root alone as `.`. -/
def Path.text : Path → String
  | .root => "."
  | .key parent name => parentText parent ++ name
  | .alias parent => parent.text
  | .unknown parent => parentText parent ++ "?"
where
  /-- The path of a parent followed by a dot, nothing for the root. -/
  parentText : Path → String
    | .root => ""
    | p => p.text ++ "."

/-- A cursor into a document and the number of alias jumps made so far. -/
structure Cursor where
  pos : Nat := 0
  jumps : Nat := 0

/-- Reading steps. -/
abbrev Reader := ReaderT Document (StateT Cursor (Except Failure))

namespace Reader

/-- Stops with a failure whose place is still to be filled in. -/
def refuse {α : Type} (e : DecodeError) : Reader α := throw (.invalid e.message none)

/-- Fills in the place of a failure that has none. -/
def place (mark : Mark) (path : Path) : Failure → Failure
  | .invalid text none => .invalid text (some (mark, path.text))
  | e => e

/-- Runs a reader, giving its failures the place of the node it reads. -/
def within {α : Type} (mark : Mark) (path : Path) (r : Reader α) : Reader α :=
  tryCatch r fun e => throw (place mark path e)

/-- The next node, without taking it; past the last one, the document's error. -/
def peek : Reader (Node × Mark) := do
  let d ← read
  match d.nodes[(← get).pos]? with
  | some n => pure n
  | none => throw (d.error.getD .endOfStream)

/-- Takes the next node. -/
def next : Reader (Node × Mark) := do
  let n ← peek
  modify fun c => { c with pos := c.pos + 1 }
  pure n

/-- Reads the node of anchor `id` with a cursor of its own, then goes on where it was. -/
def follow {α : Type} (id : Nat) (r : Reader α) : Reader α := do
  let d ← read
  let c ← get
  let jumps := c.jumps + 1
  if jumps > d.nodes.size * 100 then throw .repetitionLimit
  set ({ pos := d.aliases.getD id 0, jumps } : Cursor)
  let a ← r
  modify fun c' => { c' with pos := c.pos }
  pure a

/-- The description of a node that is not what was expected. -/
def unexpected (n : Node) (expected : String) : DecodeError :=
  match n with
  | .scalar value style tag =>
    match resolve value style tag with
    | .unit => .invalidType .unit expected
    | .bool b => .invalidType (.bool b) expected
    | .unsigned n => .invalidType (.unsigned n) expected
    | .signed n => .invalidType (.signed n) expected
    | .wideUnsigned n => .invalidType (.other s!"integer `{n}` as u128") expected
    | .wideSigned n => .invalidType (.other s!"integer `{n}` as i128") expected
    | .float bits => .invalidType (.float (Float.ofBits bits)) expected
    | .str s => .invalidType (.str s) expected
    | .rejected found e => .invalidValue found e
  | .sequenceStart _ => .invalidType .seq expected
  | _ => .invalidType .map expected

/-- Stops on a node of the wrong kind; the empty document has run out of nodes. -/
def wrongNode {α : Type} (n : Node) (expected : String) : Reader α :=
  match n with
  | .empty => throw .endOfStream
  | n => refuse (unexpected n expected)

/-! ### Scalars -/

/-- Whether a scalar's text is read directly as a number of the kind `kind` (`int`, `float`):
a plain scalar always is, whatever its tag, and a literal block scalar is when its tag is that
kind's own. -/
def readsAsNumber (kind : String) (style : ScalarStyle) (tag : Option Tag) : Bool :=
  match style with
  | .plain => true
  | .literal => tag == some (coreTag kind)
  | _ => false

/-- Reads a number of the kind `kind` from the text of a scalar that
`RadarIngest.Yaml.Reader.readsAsNumber` admits.  Any other node, or a text that is not such a
number, is refused by what it stands for: a quoted `5` read as a word is the string `"5"`, a
plain `-5` is the integer `-5`, a `!!int "5"` is the integer `5`. -/
def number {α : Type} (path : Path) (kind : String) (parse : String → Option α)
    (expected : String) : Nat → Reader α
  | 0 => throw .repetitionLimit
  | fuel + 1 => do
    let (n, mark) ← next
    within mark path do
      match n with
      | .alias id => follow id (number (.alias path) kind parse expected fuel)
      | .scalar value style tag =>
        if readsAsNumber kind style tag then
          match parse value with
          | some a => pure a
          | none => wrongNode n expected
        else wrongNode n expected
      | n => wrongNode n expected

/-- A machine word of 64 bits: decimal, or with a radix prefix, with an optional plus. -/
def wordText? (value : String) : Option Nat := unsignedInt? value (Nat.pow 2 64 - 1)

/-- A single precision value: the text read as the nearest binary64 value, which is then
rounded to single precision.  Leading zeros are allowed here, and a radix prefix is not. -/
def singleText? (value : String) : Option Binary32 :=
  (float? value).map fun bits => Binary32.ofDouble (Float.ofBits bits)

/-- Reads a machine word, named `expected` in messages (`usize`, `u64`). -/
def word (expected : String) (path : Path) : Reader Nat := number path "int" wordText? expected 2

/-- Reads a single precision value. -/
def single (path : Path) : Reader Binary32 := number path "float" singleText? "f32" 2

/-! ### Strings and enumerations -/

/-- Reads the text of a scalar, whatever it stands for. -/
def text (path : Path) (expected : String) : Nat → Reader String
  | 0 => throw .repetitionLimit
  | fuel + 1 => do
    let (n, mark) ← next
    within mark path do
      match n with
      | .alias id => follow id (text (.alias path) expected fuel)
      | .scalar value _ _ => pure value
      | n => wrongNode n expected

/-- The variant named by a tag `!name`; a tag that does not start with `!` or is not valid UTF-8
names none, and its node is read as if it had no tag. -/
def tagName? : Option Tag → Option String
  | some t =>
    match t.bytes with
    | 0x21 :: rest => Tag.text? (if rest.isEmpty then t else ⟨rest⟩)
    | _ => none
  | none => none

/-- Reads a unit variant of an enumeration: a scalar naming it, or a node tagged `!name` whose
content is empty. -/
def variant (variants : List String) (path : Path) : Nat → Reader String
  | 0 => throw .repetitionLimit
  | fuel + 1 => do
    let (n, mark) ← peek
    match n with
    | .alias id =>
      let _ ← next
      within mark path (follow id (variant variants (.alias path) fuel))
    | .scalar value style tag =>
      match tagName? tag with
      | some name =>
        if !variants.contains name then refuse (.unknownVariant name variants)
        let _ ← next
        within mark path do
          if style == .plain && (value.isEmpty || isNull value) then pure name
          else refuse (.invalidValue (.str value) "null")
      | none =>
        let name ← text path "variant identifier" 1
        within mark path do
          if variants.contains name then pure name else refuse (.unknownVariant name variants)
    | .mappingStart tag | .sequenceStart tag =>
      match tagName? tag with
      | some name =>
        if !variants.contains name then refuse (.unknownVariant name variants)
        let _ ← next
        within mark path (refuse (unexpected n "unit"))
      | none =>
        within mark path (refuse (unexpected n "a YAML tag starting with '!'"))
    | .empty => throw .endOfStream
    | _ => throw .endOfStream

/-! ### Structures -/

/-- Skips one node and everything inside it. -/
def skipNode : Nat → Nat → Reader Unit
  | 0, _ => pure ()
  | fuel + 1, depth => do
    let (n, _) ← next
    let depth := match n with
      | .sequenceStart _ | .mappingStart _ => depth + 1
      | .sequenceEnd | .mappingEnd => depth - 1
      | _ => depth
    if depth == 0 then pure () else skipNode fuel depth

/-- The index of a key among the field names, or none for a key to ignore. -/
def fieldKey (names : List String) (path : Path) : Nat → Reader (Option Nat)
  | 0 => throw .repetitionLimit
  | fuel + 1 => do
    let (n, mark) ← next
    within mark path do
      match n with
      | .alias id => follow id (fieldKey names (.alias path) fuel)
      | .scalar value _ _ => pure (names.idxOf? value)
      | n => wrongNode n "field identifier"

/-- The members of a mapping: for each key, `field` reads the value of a known field into the
accumulator; unknown keys are skipped with their values, and a field given twice is refused. -/
def members {α : Type} (names : List String) (path : Path) (field : Nat → Path → α → Reader α) :
    Nat → α → List Nat → Reader (α × List Nat)
  | 0, acc, seen => pure (acc, seen)
  | fuel + 1, acc, seen => do
    let d ← read
    let (n, _) ← peek
    match n with
    | .mappingEnd | .empty => pure (acc, seen)
    | _ =>
      let valuePath := match n with
        | .scalar value _ _ => Path.key path value
        | _ => Path.unknown path
      match ← fieldKey names path 2 with
      | some i =>
        if seen.contains i then refuse (.duplicateField (names.getD i ""))
        let acc ← field i valuePath acc
        members names path field fuel acc (i :: seen)
      | none =>
        skipNode (d.nodes.size + 1) 0
        members names path field fuel acc seen

/-- Reads a structure written as a mapping.  An empty plain scalar, or an empty document, is a
structure without fields.  `finish` builds the value from the accumulator and the fields seen. -/
def record {α β : Type} (expecting : String) (names : List String) (path : Path) (init : α)
    (field : Nat → Path → α → Reader α) (finish : α → List Nat → Except DecodeError β) :
    Nat → Reader β
  | 0 => throw .repetitionLimit
  | fuel + 1 => do
    let d ← read
    let (n, mark) ← next
    within mark path do
      match n with
      | .alias id => follow id (record expecting names (.alias path) init field finish fuel)
      | .mappingStart _ =>
        let (acc, seen) ← members names path field (d.nodes.size + 1) init []
        let b ← match finish acc seen with
          | .ok b => pure b
          | .error e => refuse e
        let _ ← next
        pure b
      | .empty => ofFinish (finish init [])
      | .scalar "" .plain _ => ofFinish (finish init [])
      | n => wrongNode n expecting
where
  /-- The value built, or its refusal. -/
  ofFinish (r : Except DecodeError β) : Reader β :=
    match r with
    | .ok b => pure b
    | .error e => refuse e

end Reader

/-- Reads the single document of a text.  A reading failure is reported before a syntax error
that comes after the nodes read; a second document is refused. -/
def decode {α : Type} (text : String) (r : Reader α) : Except Failure α :=
  let (doc, loader) := (Loader.ofString text).nextDocument
  match doc with
  | none => .error .endOfStream
  | some doc =>
    match (r.run doc).run' {} with
    | .error e => .error e
    | .ok a =>
      match doc.error with
      | some e => .error e
      | none =>
        match loader.nextDocument.1 with
        | none => .ok a
        | some _ => .error .moreThanOneDocument

end Yaml

end RadarIngest
