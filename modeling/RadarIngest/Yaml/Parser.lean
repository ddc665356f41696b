import RadarIngest.Yaml.Scanner

/-!
**The YAML parser: tokens to events.**

The parser is a state machine with a stack of states to return to.  Each call of
`RadarIngest.Yaml.Parser.next` produces one event: the start or end of the stream, of a
document, of a sequence or of a mapping, a scalar or an alias.  Keys and values that are left
out become empty plain scalars, so that every mapping has as many values as keys.

Tags are resolved here: a handle is replaced by the prefix a `%TAG` directive gives it, or by the
default prefixes of `!` and `!!`.

Main definitions:

* `RadarIngest.Yaml.Event`, `RadarIngest.Yaml.EventKind`;
* `RadarIngest.Yaml.Parser`, `RadarIngest.Yaml.Parser.next`.
-/

set_option autoImplicit false

namespace RadarIngest

namespace Yaml

/-- The kinds of event. -/
inductive EventKind where
  | streamStart
  | streamEnd
  | documentStart
  | documentEnd
  | alias (name : String)
  | scalar (anchor : Option String) (tag : Option Tag) (value : String) (style : ScalarStyle)
  | sequenceStart (anchor : Option String) (tag : Option Tag)
  | sequenceEnd
  | mappingStart (anchor : Option String) (tag : Option Tag)
  | mappingEnd
  deriving Repr

/-- An event with the position where it starts. -/
structure Event where
  kind : EventKind
  start : Mark
  deriving Repr

/-- What the parser expects next. -/
inductive ParseState where
  | streamStart
  | implicitDocumentStart
  | documentStart
  | documentContent
  | documentEnd
  | blockNode
  | blockNodeOrIndentlessSequence
  | flowNode
  | blockSequenceFirstEntry
  | blockSequenceEntry
  | indentlessSequenceEntry
  | blockMappingFirstKey
  | blockMappingKey
  | blockMappingValue
  | flowSequenceFirstEntry
  | flowSequenceEntry
  | flowSequenceEntryMappingKey
  | flowSequenceEntryMappingValue
  | flowSequenceEntryMappingEnd
  | flowMappingFirstKey
  | flowMappingKey
  | flowMappingValue
  | flowMappingEmptyValue
  | finished
  deriving DecidableEq, Repr

/-- The state of the parser. -/
structure Parser where
  scanner : Scanner
  state : ParseState := .streamStart
  states : List ParseState := []
  /-- Where the collections being read started, innermost first. -/
  marks : List Mark := []
  /-- The tag handles of the current document and their prefixes. -/
  tagDirectives : List (String × Tag) := []

namespace Parser

/-- A parser at the start of a text. -/
def ofString (s : String) : Parser := { scanner := Scanner.ofString s }

/-- Parsing steps. -/
abbrev M := StateT Parser (Except SyntaxError)

/-- Runs a scanning step on the parser's scanner. -/
def scan {α : Type} (m : Scanner.M α) : M α := do
  let p ← get
  match m.run p.scanner with
  | .ok (a, s) =>
    set { p with scanner := s }
    pure a
  | .error e => throw e

/-- The next token. -/
def peekToken : M Token := scan Scanner.peek

/-- Takes the next token. -/
def skipToken : M Unit := scan Scanner.skipToken

/-- Continues with `state`. -/
def goto (state : ParseState) : M Unit := modify fun p => { p with state }

/-- Remembers `state` to return to after the node being read. -/
def pushState (state : ParseState) : M Unit := modify fun p => { p with states := state :: p.states }

/-- Returns to the state remembered last. -/
def popState : M Unit :=
  modify fun p =>
    match p.states with
    | s :: rest => { p with state := s, states := rest }
    | [] => { p with state := .finished }

/-- Remembers where a collection starts. -/
def pushMark (m : Mark) : M Unit := modify fun p => { p with marks := m :: p.marks }

/-- Forgets where the innermost collection starts, and tells where that was. -/
def popMark : M Mark := do
  let p ← get
  match p.marks with
  | m :: rest =>
    set { p with marks := rest }
    pure m
  | [] => pure {}

/-- Stops with a problem at a position. -/
def failAt {α : Type} (problem : String) (mark : Mark) : M α :=
  throw { problem, problemMark := mark }

/-- Stops with a problem at a position, found while reading what began at `start`. -/
def failWithin {α : Type} (context : String) (start : Mark) (problem : String) (mark : Mark) : M α :=
  throw { problem, problemMark := mark, context := some (context, start) }

/-- An empty plain scalar at a position. -/
def emptyScalar (mark : Mark) : Event := ⟨.scalar none none "" .plain, mark⟩

/-! ### Documents -/

/-- Records a tag directive; the defaults give way to directives of the document. -/
def addTagDirective (handle : String) (pre : Tag) (allowDuplicates : Bool) (mark : Mark) :
    M Unit := do
  let p ← get
  if p.tagDirectives.any (·.1 == handle) then
    if !allowDuplicates then failAt "found duplicate %TAG directive" mark
  else set { p with tagDirectives := p.tagDirectives ++ [(handle, pre)] }

/-- Reads the directives before a document, then adds the default tag handles. -/
def processDirectives : Nat → Bool → M Unit
  | 0, _ => pure ()
  | fuel + 1, seenVersion => do
    let t ← peekToken
    match t.kind with
    | .versionDirective major minor =>
      if seenVersion then failAt "found duplicate %YAML directive" t.start
      if major != 1 || (minor != 1 && minor != 2) then failAt "found incompatible YAML document" t.start
      skipToken
      processDirectives fuel true
    | .tagDirective handle pre =>
      addTagDirective handle pre false t.start
      skipToken
      processDirectives fuel seenVersion
    | _ =>
      addTagDirective "!" (Tag.ofString "!") true t.start
      addTagDirective "!!" (Tag.ofString "tag:yaml.org,2002:") true t.start

/-- Skips document end markers before an explicit document. -/
def skipDocumentEnds : Nat → M Token
  | 0 => peekToken
  | fuel + 1 => do
    let t ← peekToken
    match t.kind with
    | .documentEnd =>
      skipToken
      skipDocumentEnds fuel
    | _ => pure t

/-- The start of a document, or the end of the stream. -/
def documentStart (implicit : Bool) (fuel : Nat) : M Event := do
  let t ← if implicit then peekToken else skipDocumentEnds fuel
  match t.kind with
  | .streamEnd =>
    goto .finished
    skipToken
    pure ⟨.streamEnd, t.start⟩
  | .versionDirective _ _ | .tagDirective _ _ | .documentStart =>
    processDirectives fuel false
    let t' ← peekToken
    match t'.kind with
    | .documentStart =>
      pushState .documentEnd
      goto .documentContent
      skipToken
      pure ⟨.documentStart, t.start⟩
    | _ => failAt "did not find expected <document start>" t'.start
  | _ =>
    if implicit then
      processDirectives fuel false
      pushState .documentEnd
      goto .blockNode
      pure ⟨.documentStart, t.start⟩
    else
      processDirectives fuel false
      let t' ← peekToken
      match t'.kind with
      | .documentStart =>
        pushState .documentEnd
        goto .documentContent
        skipToken
        pure ⟨.documentStart, t.start⟩
      | _ => failAt "did not find expected <document start>" t'.start

/-- The end of a document, explicit or not. -/
def documentEnd : M Event := do
  let t ← peekToken
  match t.kind with
  | .documentEnd => skipToken
  | _ => pure ()
  modify fun p => { p with tagDirectives := [], state := .documentStart }
  pure ⟨.documentEnd, t.start⟩

/-! ### Nodes -/

/-- The full tag of a handle and suffix. -/
def resolveTag (handle : String) (suffix : Tag) (start tagMark : Mark) : M Tag := do
  if handle.isEmpty then pure suffix
  else
    match (← get).tagDirectives.find? (·.1 == handle) with
    | some (_, pre) => pure (pre.append suffix)
    | none => failWithin "while parsing a node" start "found undefined tag handle" tagMark

/-- The anchor and tag properties before a node, and the token after them. -/
def properties : M (Option String × Option (String × Tag × Mark) × Token) := do
  let t ← peekToken
  match t.kind with
  | .anchor a =>
    skipToken
    let t ← peekToken
    match t.kind with
    | .tag h s =>
      skipToken
      pure (some a, some (h, s, t.start), ← peekToken)
    | _ => pure (some a, none, t)
  | .tag h s =>
    skipToken
    let t' ← peekToken
    match t'.kind with
    | .anchor a =>
      skipToken
      pure (some a, some (h, s, t.start), ← peekToken)
    | _ => pure (none, some (h, s, t.start), t')
  | _ => pure (none, none, t)

/-- A node: an alias, a scalar, or the start of a collection. -/
def parseNode (block indentless : Bool) : M Event := do
  let first ← peekToken
  match first.kind with
  | .alias name =>
    popState
    skipToken
    pure ⟨.alias name, first.start⟩
  | _ =>
    let start := first.start
    let (anchor, tagParts, t) ← properties
    let tag ← match tagParts with
      | some (h, s, tagMark) => some <$> resolveTag h s start tagMark
      | none => pure none
    match t.kind with
    | .blockEntry =>
      if indentless then
        goto .indentlessSequenceEntry
        pure ⟨.sequenceStart anchor tag, start⟩
      else other start anchor tag t
    | .scalar value style =>
      popState
      skipToken
      pure ⟨.scalar anchor tag value style, start⟩
    | .flowSequenceStart =>
      goto .flowSequenceFirstEntry
      pure ⟨.sequenceStart anchor tag, start⟩
    | .flowMappingStart =>
      goto .flowMappingFirstKey
      pure ⟨.mappingStart anchor tag, start⟩
    | .blockSequenceStart =>
      if block then
        goto .blockSequenceFirstEntry
        pure ⟨.sequenceStart anchor tag, start⟩
      else other start anchor tag t
    | .blockMappingStart =>
      if block then
        goto .blockMappingFirstKey
        pure ⟨.mappingStart anchor tag, start⟩
      else other start anchor tag t
    | _ => other start anchor tag t
where
  /-- A node with only properties is an empty scalar; without them it is missing. -/
  other (start : Mark) (anchor : Option String) (tag : Option Tag) (t : Token) : M Event := do
    if anchor.isSome || tag.isSome then
      popState
      pure ⟨.scalar anchor tag "" .plain, start⟩
    else
      failWithin (if block then "while parsing a block node" else "while parsing a flow node") start
        "did not find expected node content" t.start

/-! ### Block collections -/

/-- Takes the start token of a collection, remembering where it is. -/
def enterCollection : M Unit := do
  let t ← peekToken
  pushMark t.start
  skipToken

/-- An entry of a block sequence, or its end. -/
def blockSequenceEntry (first : Bool) : M Event := do
  if first then enterCollection
  let t ← peekToken
  match t.kind with
  | .blockEntry =>
    skipToken
    let t' ← peekToken
    match t'.kind with
    | .blockEntry | .blockEnd =>
      goto .blockSequenceEntry
      pure (emptyScalar t.stop)
    | _ =>
      pushState .blockSequenceEntry
      parseNode true false
  | .blockEnd =>
    popState
    let _ ← popMark
    skipToken
    pure ⟨.sequenceEnd, t.start⟩
  | _ =>
    let m ← popMark
    failWithin "while parsing a block collection" m "did not find expected '-' indicator" t.start

/-- An entry of a sequence written without indentation as a mapping value, or its end. -/
def indentlessSequenceEntry : M Event := do
  let t ← peekToken
  match t.kind with
  | .blockEntry =>
    skipToken
    let t' ← peekToken
    match t'.kind with
    | .blockEntry | .key | .value | .blockEnd =>
      goto .indentlessSequenceEntry
      pure (emptyScalar t.stop)
    | _ =>
      pushState .indentlessSequenceEntry
      parseNode true false
  | _ =>
    popState
    pure ⟨.sequenceEnd, t.start⟩

/-- A key of a block mapping, or its end. -/
def blockMappingKey (first : Bool) : M Event := do
  if first then enterCollection
  let t ← peekToken
  match t.kind with
  | .key =>
    skipToken
    let t' ← peekToken
    match t'.kind with
    | .key | .value | .blockEnd =>
      goto .blockMappingValue
      pure (emptyScalar t.stop)
    | _ =>
      pushState .blockMappingValue
      parseNode true true
  | .blockEnd =>
    popState
    let _ ← popMark
    skipToken
    pure ⟨.mappingEnd, t.start⟩
  | _ =>
    let m ← popMark
    failWithin "while parsing a block mapping" m "did not find expected key" t.start

/-- A value of a block mapping; a missing value is empty. -/
def blockMappingValue : M Event := do
  let t ← peekToken
  match t.kind with
  | .value =>
    skipToken
    let t' ← peekToken
    match t'.kind with
    | .key | .value | .blockEnd =>
      goto .blockMappingKey
      pure (emptyScalar t.stop)
    | _ =>
      pushState .blockMappingKey
      parseNode true true
  | _ =>
    goto .blockMappingKey
    pure (emptyScalar t.start)

/-! ### Flow collections -/

/-- An entry of a flow sequence, or its end. -/
def flowSequenceEntry (first : Bool) : M Event := do
  if first then enterCollection
  let t ← peekToken
  let t ← match t.kind with
    | .flowSequenceEnd => pure t
    | _ =>
      if first then pure t
      else match t.kind with
        | .flowEntry =>
          skipToken
          peekToken
        | _ =>
          let m ← popMark
          failWithin "while parsing a flow sequence" m "did not find expected ',' or ']'" t.start
  match t.kind with
  | .key =>
    goto .flowSequenceEntryMappingKey
    skipToken
    pure ⟨.mappingStart none none, t.start⟩
  | .flowSequenceEnd =>
    popState
    let _ ← popMark
    skipToken
    pure ⟨.sequenceEnd, t.start⟩
  | _ =>
    pushState .flowSequenceEntry
    parseNode false false

/-- The key of a single-pair mapping inside a flow sequence. -/
def flowSequenceEntryMappingKey : M Event := do
  let t ← peekToken
  match t.kind with
  | .value | .flowEntry | .flowSequenceEnd =>
    goto .flowSequenceEntryMappingValue
    pure (emptyScalar t.start)
  | _ =>
    pushState .flowSequenceEntryMappingValue
    parseNode false false

/-- The value of a single-pair mapping inside a flow sequence. -/
def flowSequenceEntryMappingValue : M Event := do
  let t ← peekToken
  match t.kind with
  | .value =>
    skipToken
    let t' ← peekToken
    match t'.kind with
    | .flowEntry | .flowSequenceEnd =>
      goto .flowSequenceEntryMappingEnd
      pure (emptyScalar t'.start)
    | _ =>
      pushState .flowSequenceEntryMappingEnd
      parseNode false false
  | _ =>
    goto .flowSequenceEntryMappingEnd
    pure (emptyScalar t.start)

/-- The end of a single-pair mapping inside a flow sequence. -/
def flowSequenceEntryMappingEnd : M Event := do
  let t ← peekToken
  goto .flowSequenceEntry
  pure ⟨.mappingEnd, t.start⟩

/-- A key of a flow mapping, or its end. -/
def flowMappingKey (first : Bool) : M Event := do
  if first then enterCollection
  let t ← peekToken
  let t ← match t.kind with
    | .flowMappingEnd => pure t
    | _ =>
      if first then pure t
      else match t.kind with
        | .flowEntry =>
          skipToken
          peekToken
        | _ =>
          let m ← popMark
          failWithin "while parsing a flow mapping" m "did not find expected ',' or '\x7d'" t.start
  match t.kind with
  | .key =>
    skipToken
    let t' ← peekToken
    match t'.kind with
    | .value | .flowEntry | .flowMappingEnd =>
      goto .flowMappingValue
      pure (emptyScalar t'.start)
    | _ =>
      pushState .flowMappingValue
      parseNode false false
  | .flowMappingEnd =>
    popState
    let _ ← popMark
    skipToken
    pure ⟨.mappingEnd, t.start⟩
  | _ =>
    pushState .flowMappingEmptyValue
    parseNode false false

/-- A value of a flow mapping; a key without `:` has an empty value. -/
def flowMappingValue (empty : Bool) : M Event := do
  let t ← peekToken
  if empty then
    goto .flowMappingKey
    pure (emptyScalar t.start)
  else
    match t.kind with
    | .value =>
      skipToken
      let t' ← peekToken
      match t'.kind with
      | .flowEntry | .flowMappingEnd =>
        goto .flowMappingKey
        pure (emptyScalar t'.start)
      | _ =>
        pushState .flowMappingKey
        parseNode false false
    | _ =>
      goto .flowMappingKey
      pure (emptyScalar t.start)

/-! ### The next event -/

/-- The next event; after the end of the stream there is none. -/
def step : M (Option Event) := do
  let p ← get
  let fuel := p.scanner.text.size + 8
  match p.state with
  | .streamStart =>
    let t ← peekToken
    match t.kind with
    | .streamStart =>
      goto .implicitDocumentStart
      skipToken
      pure (some ⟨.streamStart, t.start⟩)
    | _ => failAt "did not find expected <stream-start>" t.start
  | .implicitDocumentStart => some <$> documentStart true fuel
  | .documentStart => some <$> documentStart false fuel
  | .documentContent =>
    let t ← peekToken
    match t.kind with
    | .versionDirective _ _ | .tagDirective _ _ | .documentStart | .documentEnd | .streamEnd =>
      popState
      pure (some (emptyScalar t.start))
    | _ => some <$> parseNode true false
  | .documentEnd => some <$> documentEnd
  | .blockNode => some <$> parseNode true false
  | .blockNodeOrIndentlessSequence => some <$> parseNode true true
  | .flowNode => some <$> parseNode false false
  | .blockSequenceFirstEntry => some <$> blockSequenceEntry true
  | .blockSequenceEntry => some <$> blockSequenceEntry false
  | .indentlessSequenceEntry => some <$> indentlessSequenceEntry
  | .blockMappingFirstKey => some <$> blockMappingKey true
  | .blockMappingKey => some <$> blockMappingKey false
  | .blockMappingValue => some <$> blockMappingValue
  | .flowSequenceFirstEntry => some <$> flowSequenceEntry true
  | .flowSequenceEntry => some <$> flowSequenceEntry false
  | .flowSequenceEntryMappingKey => some <$> flowSequenceEntryMappingKey
  | .flowSequenceEntryMappingValue => some <$> flowSequenceEntryMappingValue
  | .flowSequenceEntryMappingEnd => some <$> flowSequenceEntryMappingEnd
  | .flowMappingFirstKey => some <$> flowMappingKey true
  | .flowMappingKey => some <$> flowMappingKey false
  | .flowMappingValue => some <$> flowMappingValue false
  | .flowMappingEmptyValue => some <$> flowMappingValue true
  | .finished => pure none

/-- The next event and the parser after it, or the syntax error that stops the parser. -/
def next (p : Parser) : Except SyntaxError (Option Event × Parser) := step.run p

end Parser

end Yaml

end RadarIngest
