import RadarIngest.Yaml.Syntax

/-!
**The YAML scanner: characters to tokens.**

The scanner reads the text one token at a time, on demand.  Most of its work is deciding where
block collections begin and end, and which scalars are mapping keys:

* block collections are delimited by indentation: a deeper column opens one
  (`RadarIngest.Yaml.Scanner.rollIndent`), a shallower one closes every collection above it
  (`RadarIngest.Yaml.Scanner.unrollIndent`);
* a *simple key* is a node followed on the same line by `:`.  When such a node starts, the
  scanner remembers the position of its first token (`RadarIngest.Yaml.SimpleKey`); when the
  `:` arrives, it goes back and inserts the key token, and if needed the start of a block
  mapping, before that first token.  A token that might still turn out to be a key cannot be
  handed to the parser, which is why `RadarIngest.Yaml.Scanner.fetchMore` reads ahead until no
  pending key can claim the token at the head of the queue.

How far the scanner has read when an error is found decides which events the parser could
produce first, and so which of two errors a reader of the document reports; the scanner is
therefore exactly as lazy as that contract requires.

Every loop is bounded by the number of characters still unread, which each of its rounds
consumes, so all functions here are total.

Main definitions:

* `RadarIngest.Yaml.Scanner` — the state; `RadarIngest.Yaml.Scanner.ofString`;
* `RadarIngest.Yaml.Scanner.peek`, `RadarIngest.Yaml.Scanner.skipToken` — the parser's view.
-/

set_option autoImplicit false

namespace RadarIngest

namespace Yaml

/-- A place where a simple key may start: the token number of its first token and its
position.  A key is *required* when it starts at the indentation column of a block mapping, so
that anything else there is an error. -/
structure SimpleKey where
  possible : Bool := false
  required : Bool := false
  tokenNumber : Nat := 0
  mark : Mark := {}

/-- The state of the scanner. -/
structure Scanner where
  text : Array Char
  pos : Nat := 0
  mark : Mark := {}
  /-- Tokens scanned but not yet taken by the parser. -/
  queue : List Token := []
  /-- How many tokens the parser has taken. -/
  parsed : Nat := 0
  /-- Whether the head of the queue may be handed out as it is. -/
  available : Bool := false
  started : Bool := false
  finished : Bool := false
  indent : Int := -1
  indents : List Int := []
  keyAllowed : Bool := false
  /-- One pending simple key per flow level, the innermost last. -/
  keys : Array SimpleKey := #[]
  flowLevel : Nat := 0
  /-- The byte offset of the first character that YAML text may not contain. -/
  badChar : Option Nat := none

namespace Scanner

/-- The byte offset of the first character that may not appear in YAML text. -/
def firstBad (offset : Nat) : List Char → Option Nat
  | [] => none
  | c :: cs => if isAllowed c then firstBad (offset + c.utf8Size) cs else some offset

/-- A scanner at the start of a text. -/
def ofString (s : String) : Scanner :=
  { text := s.toList.toArray, badChar := firstBad 0 s.toList }

/-- Scanning steps: they change the scanner or stop with a syntax error. -/
abbrev M := StateT Scanner (Except SyntaxError)

/-! ### Reading characters -/

/-- The character `k` places ahead; past the end, the end character. -/
def peekAt (k : Nat) : M Char := do
  let s ← get
  pure (s.text.getD (s.pos + k) endChar)

/-- The current character. -/
def current : M Char := peekAt 0

/-- A bound on the rounds of any loop that consumes a character each round. -/
def budget : M Nat := do
  let s ← get
  pure (s.text.size - s.pos + 1)

/-- The current position. -/
def here : M Mark := do
  pure (← get).mark

/-- Moves past one character on the same line. -/
def skip : M Unit := do
  let c ← current
  modify fun s => { s with pos := s.pos + 1, mark := s.mark.next c }

/-- Moves past a line break; a carriage return followed by a line feed is one break. -/
def skipLine : M Unit := do
  let c ← current
  let d ← peekAt 1
  if c = '\r' && d = '\n' then
    modify fun s => { s with pos := s.pos + 2, mark := s.mark.newline 2 }
  else if isBreak c then
    modify fun s => { s with pos := s.pos + 1, mark := s.mark.newline c.utf8Size }

/-- Appends the current character to a buffer and moves past it. -/
def readChar (buf : String) : M String := do
  let c ← current
  skip
  pure (buf.push c)

/-- Appends a line break to a buffer and moves past it.  Line and paragraph separators are kept;
every other break becomes a line feed. -/
def readBreak (buf : String) : M String := do
  let c ← current
  let d ← peekAt 1
  if c = '\r' && d = '\n' then
    modify fun s => { s with pos := s.pos + 2, mark := s.mark.newline 2 }
    pure (buf.push '\n')
  else if c = '\r' || c = '\n' || c.toNat = 0x85 then
    modify fun s => { s with pos := s.pos + 1, mark := s.mark.newline c.utf8Size }
    pure (buf.push '\n')
  else if c.toNat = 0x2028 || c.toNat = 0x2029 then
    modify fun s => { s with pos := s.pos + 1, mark := s.mark.newline c.utf8Size }
    pure (buf.push c)
  else pure buf

/-- Moves past characters while `p` holds. -/
def skipWhile (p : Char → Bool) : Nat → M Unit
  | 0 => pure ()
  | n + 1 => do
    if p (← current) then
      skip
      skipWhile p n

/-- Appends characters to a buffer while `p` holds. -/
def readWhile (p : Char → Bool) (buf : String) : Nat → M String
  | 0 => pure buf
  | n + 1 => do
    if p (← current) then
      let buf ← readChar buf
      readWhile p buf n
    else pure buf

/-- Whether the next four characters are a document marker (`---` or `...` and a blank) at the
start of a line. -/
def atDocumentMarker : M Bool := do
  let s ← get
  let a ← peekAt 0
  let b ← peekAt 1
  let c ← peekAt 2
  let d ← peekAt 3
  pure (s.mark.column == 0 && ((a = '-' && b = '-' && c = '-') || (a = '.' && b = '.' && c = '.')) &&
    isBlankOrEnd d)

/-! ### Errors -/

/-- Stops with a problem at the current position, found while reading what began at `start`. -/
def failIn {α : Type} (context : String) (start : Mark) (problem : String) : M α := do
  throw { problem, problemMark := (← get).mark, context := some (context, start) }

/-- Stops with a problem at the current position. -/
def failHere {α : Type} (problem : String) : M α := do
  throw { problem, problemMark := (← get).mark }

/-! ### The token queue, simple keys and indentation -/

/-- Appends a token to the queue. -/
def enqueue (kind : TokenKind) (start stop : Mark) : M Unit :=
  modify fun s => { s with queue := s.queue ++ [⟨kind, start, stop⟩] }

/-- Inserts a token `i` places after the head of the queue. -/
def insertToken (i : Nat) (t : Token) : M Unit :=
  modify fun s => { s with queue := s.queue.insertIdx i t }

/-- The error for a required key that is not followed by `:`. -/
def keyError {α : Type} (k : SimpleKey) : M α :=
  failIn "while scanning a simple key" k.mark "could not find expected ':'"

/-- Forgets the pending keys that can no longer be keys: a simple key fits on one line and in
1024 bytes. -/
def staleSimpleKeys : M Unit := do
  let s ← get
  let keys ← s.keys.mapM fun k => do
    if k.possible && (k.mark.line < s.mark.line || k.mark.index + 1024 < s.mark.index) then
      if k.required then keyError k
      pure { k with possible := false }
    else pure k
  modify fun s => { s with keys }

/-- Forgets the pending key of the current flow level. -/
def removeSimpleKey : M Unit := do
  let s ← get
  match s.keys.back? with
  | none => pure ()
  | some k =>
    if k.possible && k.required then keyError k
    set { s with keys := s.keys.pop.push { k with possible := false } }

/-- Remembers that a simple key may start at the current position. -/
def saveSimpleKey : M Unit := do
  let s ← get
  if s.keyAllowed then
    let key : SimpleKey :=
      { possible := true
        required := s.flowLevel == 0 && s.indent == (s.mark.column : Int)
        tokenNumber := s.parsed + s.queue.length
        mark := s.mark }
    removeSimpleKey
    modify fun s => { s with keys := s.keys.pop.push key }

/-- Enters a flow collection. -/
def increaseFlowLevel : M Unit :=
  modify fun s => { s with keys := s.keys.push {}, flowLevel := s.flowLevel + 1 }

/-- Leaves a flow collection. -/
def decreaseFlowLevel : M Unit :=
  modify fun s =>
    if s.flowLevel > 0 then { s with flowLevel := s.flowLevel - 1, keys := s.keys.pop } else s

/-- Opens a block collection at `column` if it is deeper than the current indentation; its
start token goes at the end of the queue, or before the token numbered `number`. -/
def rollIndent (column : Nat) (number : Option Nat) (kind : TokenKind) (mark : Mark) : M Unit := do
  let s ← get
  if s.flowLevel == 0 && s.indent < (column : Int) then
    set { s with indents := s.indent :: s.indents, indent := column }
    match number with
    | none => enqueue kind mark mark
    | some n => insertToken (n - s.parsed) ⟨kind, mark, mark⟩

/-- The indentation after closing every block collection deeper than `column`, with a block end
token for each. -/
def unrollFrom (column : Int) (mark : Mark) :
    Int → List Int → List Token → Int × List Int × List Token
  | indent, [], acc => (indent, [], acc)
  | indent, i :: rest, acc =>
    if indent > column then unrollFrom column mark i rest (acc ++ [⟨.blockEnd, mark, mark⟩])
    else (indent, i :: rest, acc)

/-- Closes every block collection deeper than `column`. -/
def unrollIndent (column : Int) : M Unit := do
  let s ← get
  if s.flowLevel == 0 then
    let (indent, indents, ends) := unrollFrom column s.mark s.indent s.indents []
    set { s with indent, indents, queue := s.queue ++ ends }

/-! ### Indicators -/

/-- The start of the stream. -/
def fetchStreamStart : M Unit := do
  modify fun s => { s with indent := -1, keys := s.keys.push {}, keyAllowed := true, started := true }
  let m ← here
  enqueue .streamStart m m

/-- The end of the stream, which also ends the last line. -/
def fetchStreamEnd : M Unit := do
  modify fun s =>
    if s.mark.column != 0 then { s with mark := { s.mark with column := 0, line := s.mark.line + 1 } }
    else s
  unrollIndent (-1)
  removeSimpleKey
  modify fun s => { s with keyAllowed := false }
  let m ← here
  enqueue .streamEnd m m

/-- A document start or end marker. -/
def fetchDocumentIndicator (kind : TokenKind) : M Unit := do
  unrollIndent (-1)
  removeSimpleKey
  modify fun s => { s with keyAllowed := false }
  let start ← here
  skip
  skip
  skip
  enqueue kind start (← here)

/-- A one-character indicator. -/
def fetchIndicator (kind : TokenKind) : M Unit := do
  let start ← here
  skip
  enqueue kind start (← here)

/-- `[` or an opening brace: may start a simple key. -/
def fetchFlowCollectionStart (kind : TokenKind) : M Unit := do
  saveSimpleKey
  increaseFlowLevel
  modify fun s => { s with keyAllowed := true }
  fetchIndicator kind

/-- `]` or a closing brace. -/
def fetchFlowCollectionEnd (kind : TokenKind) : M Unit := do
  removeSimpleKey
  decreaseFlowLevel
  modify fun s => { s with keyAllowed := false }
  fetchIndicator kind

/-- `,` in a flow collection. -/
def fetchFlowEntry : M Unit := do
  removeSimpleKey
  modify fun s => { s with keyAllowed := true }
  fetchIndicator .flowEntry

/-- `-` starting a block sequence entry. -/
def fetchBlockEntry : M Unit := do
  let s ← get
  if s.flowLevel == 0 then
    if !s.keyAllowed then failHere "block sequence entries are not allowed in this context"
    rollIndent s.mark.column none .blockSequenceStart s.mark
  removeSimpleKey
  modify fun s => { s with keyAllowed := true }
  fetchIndicator .blockEntry

/-- `?` starting a complex key. -/
def fetchKey : M Unit := do
  let s ← get
  if s.flowLevel == 0 then
    if !s.keyAllowed then failHere "mapping keys are not allowed in this context"
    rollIndent s.mark.column none .blockMappingStart s.mark
  removeSimpleKey
  modify fun s => { s with keyAllowed := s.flowLevel == 0 }
  fetchIndicator .key

/-- The checks for a `:` that does not follow a simple key. -/
def complexValue : M Unit := do
  let s ← get
  if s.flowLevel == 0 then
    if !s.keyAllowed then failHere "mapping values are not allowed in this context"
    rollIndent s.mark.column none .blockMappingStart s.mark
  modify fun s => { s with keyAllowed := s.flowLevel == 0 }

/-- `:` ending a key.  After a pending simple key, the key token goes back before the key's
first token. -/
def fetchValue : M Unit := do
  let s ← get
  match s.keys.back? with
  | some k =>
    if k.possible then
      insertToken (k.tokenNumber - s.parsed) ⟨.key, k.mark, k.mark⟩
      rollIndent k.mark.column (some k.tokenNumber) .blockMappingStart k.mark
      modify fun s => { s with keys := s.keys.pop.push { k with possible := false }, keyAllowed := false }
    else complexValue
  | none => complexValue
  fetchIndicator .value

/-! ### Anchors and tags -/

/-- An anchor `&name` or an alias `*name`. -/
def fetchAnchor (isAlias : Bool) : M Unit := do
  saveSimpleKey
  modify fun s => { s with keyAllowed := false }
  let start ← here
  skip
  let name ← readWhile isWordChar "" (← budget)
  let stop ← here
  let c ← current
  if name.isEmpty || !(isBlankOrEnd c || c = '?' || c = ':' || c = ',' || c = ']' || c = closeBrace ||
      c = '%' || c = '@' || c = '`') then
    failIn (if isAlias then "while scanning an alias" else "while scanning an anchor") start
      "did not find expected alphabetic or numeric character"
  enqueue (if isAlias then .alias name else .anchor name) start stop

/-- A tag handle: `!`, `!!` or `!word!`; outside a directive it may also be the start of a tag
without a handle. -/
def scanTagHandle (directive : Bool) (start : Mark) : M String := do
  if (← current) != '!' then
    failIn (if directive then "while scanning a tag directive" else "while scanning a tag") start
      "did not find expected '!'"
  let h ← readChar ""
  let h ← readWhile isWordChar h (← budget)
  if (← current) = '!' then readChar h
  else
    if directive && h != "!" then
      failIn "while parsing a tag directive" start "did not find expected '!'"
    pure h

/-- A character that may appear in a tag; inside `!<...>` also `,`, `[` and `]`. -/
def isUriChar (verbatim : Bool) (c : Char) : Bool :=
  isWordChar c || ";/?:@&=+$.%!~*'()".contains c || (verbatim && (c = ',' || c = '[' || c = ']'))

/-- The context named by errors inside a tag. -/
def tagContext (directive : Bool) : String :=
  if directive then "while parsing a %TAG directive" else "while parsing a tag"

/-- The number of octets still expected after reading `octet` of an escaped character. -/
def uriWidth (directive : Bool) (start : Mark) (octet width : Nat) : M Nat := do
  if width == 0 then
    let w := if octet &&& 0x80 == 0 then 1 else if octet &&& 0xE0 == 0xC0 then 2
      else if octet &&& 0xF0 == 0xE0 then 3 else if octet &&& 0xF8 == 0xF0 then 4 else 0
    if w == 0 then failIn (tagContext directive) start "found an incorrect leading UTF-8 octet"
    pure w
  else
    if octet &&& 0xC0 != 0x80 then
      failIn (tagContext directive) start "found an incorrect trailing UTF-8 octet"
    pure width

/-- The octets of one `%XX` escaped character: a leading octet and as many trailing octets as
it announces. -/
def uriEscape (directive : Bool) (start : Mark) (acc : List UInt8) : Nat → Nat → M (List UInt8)
  | 0, _ => pure acc
  | fuel + 1, width => do
    let a ← current
    let hi := hexValue? (← peekAt 1)
    let lo := hexValue? (← peekAt 2)
    match a, hi, lo with
    | '%', some h, some l =>
      let octet := h * 16 + l
      let width ← uriWidth directive start octet width
      skip
      skip
      skip
      let acc := acc ++ [octet.toUInt8]
      if width > 1 then uriEscape directive start acc fuel (width - 1) else pure acc
    | _, _, _ => failIn (tagContext directive) start "did not find URI escaped octet"

/-- The characters of a tag after its handle, `%XX` escapes decoded. -/
def tagUriLoop (verbatim directive : Bool) (start : Mark) :
    Nat → List UInt8 → Nat → M (List UInt8 × Nat)
  | 0, acc, length => pure (acc, length)
  | fuel + 1, acc, length => do
    let c ← current
    if isUriChar verbatim c then
      let acc ← if c = '%' then uriEscape directive start acc 4 0 else do
          skip
          pure (acc ++ c.toString.toUTF8.toList)
      tagUriLoop verbatim directive start fuel acc (length + 1)
    else pure (acc, length)

/-- The suffix of a tag, or the prefix of a tag directive, continuing `head` (whose leading `!`
is dropped); it ends at the first zero byte an escape gives. -/
def scanTagUri (verbatim directive : Bool) (head : String) (start : Mark) : M Tag := do
  let init := if head.length > 1 then (head.drop 1).toString.toUTF8.toList else []
  let (bytes, length) ← tagUriLoop verbatim directive start (← budget) init head.length
  if length == 0 then failIn (tagContext directive) start "did not find expected tag URI"
  pure (Tag.ofBytes bytes)

/-- The handle and suffix of a tag `!<uri>`, `!handle!suffix`, `!suffix` or `!`. -/
def tagParts (start : Mark) : M (String × Tag) := do
  if (← peekAt 1) = '<' then
    skip
    skip
    let suffix ← scanTagUri true false "" start
    if (← current) != '>' then failIn "while scanning a tag" start "did not find the expected '>'"
    skip
    pure ("", suffix)
  else
    let handle ← scanTagHandle false start
    if handle.length > 1 && handle.startsWith "!" && handle.endsWith "!" then
      let suffix ← scanTagUri false false "" start
      pure (handle, suffix)
    else
      let suffix ← scanTagUri false false handle start
      if suffix.bytes.isEmpty then pure ("", Tag.ofString "!") else pure ("!", suffix)

/-- A tag. -/
def fetchTag : M Unit := do
  saveSimpleKey
  modify fun s => { s with keyAllowed := false }
  let start ← here
  let (handle, suffix) ← tagParts start
  let stop ← here
  let c ← current
  if !isBlankOrEnd c then
    if (← get).flowLevel == 0 || c != ',' then
      failIn "while scanning a tag" start "did not find expected whitespace or line break"
  enqueue (.tag handle suffix) start stop

/-! ### Block scalars -/

/-- Eats indentation spaces of a block scalar line, up to the indentation when it is known. -/
def eatIndent (indent : Nat) : Nat → M Unit
  | 0 => pure ()
  | k + 1 => do
    let s ← get
    if (indent == 0 || s.mark.column < indent) && (← current) = ' ' then
      skip
      eatIndent indent k

/-- Eats the indentation and empty lines before a line of a block scalar, collecting the breaks.
An indentation of zero is still to be found: it becomes the deepest indentation seen, and at
least one more than the enclosing block. -/
def blockBreaksLoop (indent : Nat) (start : Mark) :
    Nat → String → Nat → Mark → M (String × Nat × Mark)
  | 0, breaks, maxIndent, stop => pure (breaks, maxIndent, stop)
  | fuel + 1, breaks, maxIndent, stop => do
    eatIndent indent (← budget)
    let s ← get
    let maxIndent := max maxIndent s.mark.column
    let c ← current
    if (indent == 0 || s.mark.column < indent) && c = '\t' then
      failIn "while scanning a block scalar" start
        "found a tab character where an indentation space is expected"
    if !isBreak c then pure (breaks, maxIndent, stop)
    else
      let breaks ← readBreak breaks
      blockBreaksLoop indent start fuel breaks maxIndent (← here)

/-- The breaks before the next line of a block scalar, the indentation, and the end position. -/
def blockBreaks (indent : Nat) (breaks : String) (start : Mark) : M (Nat × String × Mark) := do
  let (breaks, maxIndent, stop) ← blockBreaksLoop indent start (← budget) breaks 0 (← here)
  if indent != 0 then pure (indent, breaks, stop)
  else
    let outer := (← get).indent + 1
    let indent := max (max (maxIndent : Int) outer) 1
    pure (indent.toNat, breaks, stop)

/-- The lines of a block scalar: joins each line to the text, folding single line breaks into
spaces unless the scalar is literal or a line is more indented. -/
def blockLines (literal : Bool) (indent : Nat) (start : Mark) :
    Nat → String → String → String → Bool → Mark → M (String × String × String × Mark)
  | 0, text, leading, trailing, _, stop => pure (text, leading, trailing, stop)
  | fuel + 1, text, leading, trailing, leadingBlank, stop => do
    let s ← get
    let c ← current
    if s.mark.column == indent && !isEnd c then
      let trailingBlank := isBlank c
      let text :=
        if !literal && leading.startsWith "\n" && !leadingBlank && !trailingBlank then
          if trailing.isEmpty then text.push ' ' else text
        else text ++ leading
      let text := text ++ trailing
      let leadingBlank := isBlank c
      let text ← readWhile (fun c => !isBreakOrEnd c) text (← budget)
      let leading ← readBreak ""
      let (_, trailing, stop) ← blockBreaks indent "" start
      blockLines literal indent start fuel text leading trailing leadingBlank stop
    else pure (text, leading, trailing, stop)

/-- The chomping (`-1` strip, `0` clip, `1` keep) and indentation indicators of a block scalar,
in either order. -/
def blockHeader (start : Mark) : M (Int × Nat) := do
  let c ← current
  if c = '+' || c = '-' then
    skip
    let d ← current
    if isDigit d then
      if d = '0' then
        failIn "while scanning a block scalar" start "found an indentation indicator equal to 0"
      skip
      pure (if c = '+' then 1 else -1, d.toNat - 48)
    else pure (if c = '+' then 1 else -1, 0)
  else if isDigit c then
    if c = '0' then
      failIn "while scanning a block scalar" start "found an indentation indicator equal to 0"
    skip
    let d ← current
    if d = '+' || d = '-' then
      skip
      pure (if d = '+' then 1 else -1, c.toNat - 48)
    else pure (0, c.toNat - 48)
  else pure (0, 0)

/-- A literal (`|`) or folded (`>`) scalar with its optional chomping and indentation
indicators. -/
def fetchBlockScalar (literal : Bool) : M Unit := do
  removeSimpleKey
  modify fun s => { s with keyAllowed := true }
  let start ← here
  skip
  let (chomping, increment) ← blockHeader start
  skipWhile isBlank (← budget)
  if (← current) = '#' then skipWhile (fun c => !isBreakOrEnd c) (← budget)
  if !isBreakOrEnd (← current) then
    failIn "while scanning a block scalar" start "did not find expected comment or line break"
  if isBreak (← current) then skipLine
  let outer := (← get).indent
  let indent : Nat :=
    if increment == 0 then 0 else if outer ≥ 0 then (outer + increment).toNat else increment
  let (indent, trailing, stop) ← blockBreaks indent "" start
  let (text, leading, trailing, stop) ← blockLines literal indent start (← budget) "" "" trailing false stop
  let text := if chomping != -1 then text ++ leading else text
  let text := if chomping == 1 then text ++ trailing else text
  enqueue (.scalar text (if literal then .literal else .folded)) start stop

/-! ### Quoted scalars -/

/-- The character an escape sequence `\c` stands for, or how many hexadecimal digits follow. -/
def escapeOf (c : Char) : Option (Sum Char Nat) :=
  match c with
  | '0' => some (.inl (Char.ofNat 0))
  | 'a' => some (.inl (Char.ofNat 7))
  | 'b' => some (.inl (Char.ofNat 8))
  | 't' | '\t' => some (.inl '\t')
  | 'n' => some (.inl '\n')
  | 'v' => some (.inl (Char.ofNat 11))
  | 'f' => some (.inl (Char.ofNat 12))
  | 'r' => some (.inl '\r')
  | 'e' => some (.inl (Char.ofNat 27))
  | ' ' => some (.inl ' ')
  | '"' => some (.inl '"')
  | '/' => some (.inl '/')
  | '\'' => some (.inl '\'')
  | '\\' => some (.inl '\\')
  | 'N' => some (.inl (Char.ofNat 0x85))
  | '_' => some (.inl (Char.ofNat 0xA0))
  | 'L' => some (.inl (Char.ofNat 0x2028))
  | 'P' => some (.inl (Char.ofNat 0x2029))
  | 'x' => some (.inr 2)
  | 'u' => some (.inr 4)
  | 'U' => some (.inr 8)
  | _ => none

/-- The value of the hexadecimal digits from `offset` to `count` places ahead. -/
def hexDigits (start : Mark) (count : Nat) : Nat → Nat → M Nat
  | 0, v => pure v
  | k + 1, v => do
    match hexValue? (← peekAt (count - (k + 1))) with
    | some d => hexDigits start count k (v * 16 + d)
    | none => failIn "while parsing a quoted scalar" start "did not find expected hexdecimal number"

/-- The value of `count` hexadecimal digits ahead. -/
def hexCode (start : Mark) (count : Nat) : M Nat := hexDigits start count count 0

/-- The non-blank characters of a quoted scalar up to a blank, a break or the closing quote;
also whether an escaped line break ended them. -/
def quotedWord (single : Bool) (start : Mark) : Nat → String → M (String × Bool)
  | 0, text => pure (text, false)
  | fuel + 1, text => do
    let c ← current
    let d ← peekAt 1
    if isBlankOrEnd c then pure (text, false)
    else if single && c = '\'' && d = '\'' then
      skip
      skip
      quotedWord single start fuel (text.push '\'')
    else if c = (if single then '\'' else '"') then pure (text, false)
    else if !single && c = '\\' && isBreak d then
      skip
      skipLine
      pure (text, true)
    else if !single && c = '\\' then
      match escapeOf d with
      | none => failIn "while parsing a quoted scalar" start "found unknown escape character"
      | some (.inl e) =>
        skip
        skip
        quotedWord single start fuel (text.push e)
      | some (.inr count) =>
        skip
        skip
        let v ← hexCode start count
        if (0xD800 ≤ v && v ≤ 0xDFFF) || v > 0x10FFFF then
          failIn "while parsing a quoted scalar" start "found invalid Unicode character escape code"
        for _ in [0:count] do skip
        quotedWord single start fuel (text.push (Char.ofNat v))
    else
      let text ← readChar text
      quotedWord single start fuel text

/-- The blanks and breaks between words of a flow scalar: the spaces kept when no break
follows, the first break, the further breaks, and whether a break was seen. -/
def flowBlanks : Nat → String → String → String → Bool → M (String × String × String × Bool)
  | 0, spaces, leading, trailing, broken => pure (spaces, leading, trailing, broken)
  | fuel + 1, spaces, leading, trailing, broken => do
    let c ← current
    if isBlank c then
      if !broken then
        let spaces ← readChar spaces
        flowBlanks fuel spaces leading trailing broken
      else
        skip
        flowBlanks fuel spaces leading trailing broken
    else if isBreak c then
      if !broken then
        let leading ← readBreak ""
        flowBlanks fuel "" leading trailing true
      else
        let trailing ← readBreak trailing
        flowBlanks fuel spaces leading trailing broken
    else pure (spaces, leading, trailing, broken)

/-- Joins the blanks between two words of a flow scalar: a single line break folds into a
space, more breaks are kept as they are. -/
def foldBlanks (text spaces leading trailing : String) (broken : Bool) : String :=
  if broken then
    if leading.startsWith "\n" then
      if trailing.isEmpty then text.push ' ' else text ++ trailing
    else text ++ leading ++ trailing
  else text ++ spaces

/-- The content of a quoted scalar up to its closing quote. -/
def quotedLoop (single : Bool) (start : Mark) : Nat → String → M String
  | 0, text => pure text
  | fuel + 1, text => do
    if ← atDocumentMarker then
      failIn "while scanning a quoted scalar" start "found unexpected document indicator"
    if isEnd (← current) then
      failIn "while scanning a quoted scalar" start "found unexpected end of stream"
    let (text, escapedBreak) ← quotedWord single start (← budget) text
    if (← current) = (if single then '\'' else '"') then pure text
    else
      let (spaces, leading, trailing, broken) ← flowBlanks (← budget) "" "" "" escapedBreak
      quotedLoop single start fuel (foldBlanks text spaces leading trailing broken)

/-- A single- or double-quoted scalar. -/
def fetchFlowScalar (single : Bool) : M Unit := do
  saveSimpleKey
  modify fun s => { s with keyAllowed := false }
  let start ← here
  skip
  let text ← quotedLoop single start (← budget) ""
  skip
  enqueue (.scalar text (if single then .singleQuoted else .doubleQuoted)) start (← here)

/-! ### Plain scalars -/

/-- The state of a plain scalar between its words. -/
structure PlainRun where
  text : String := ""
  spaces : String := ""
  leading : String := ""
  trailing : String := ""
  broken : Bool := false
  stop : Mark := {}

/-- The characters of one word of a plain scalar, joined to the text after the blanks before
it. -/
def plainWord (start : Mark) : Nat → PlainRun → M PlainRun
  | 0, r => pure r
  | fuel + 1, r => do
    let s ← get
    let c ← current
    let d ← peekAt 1
    if isBlankOrEnd c then pure r
    else
      if s.flowLevel > 0 && c = ':' &&
          (d = ',' || d = '?' || d = '[' || d = ']' || d = openBrace || d = closeBrace) then
        failIn "while scanning a plain scalar" start "found unexpected ':'"
      if (c = ':' && isBlankOrEnd d) ||
          (s.flowLevel > 0 && (c = ',' || c = '[' || c = ']' || c = openBrace || c = closeBrace)) then
        pure r
      else
        let r :=
          if r.broken then
            { r with text := foldBlanks r.text "" r.leading r.trailing true, leading := "",
                     trailing := "", broken := false }
          else if !r.spaces.isEmpty then { r with text := r.text ++ r.spaces, spaces := "" }
          else r
        let text ← readChar r.text
        plainWord start fuel { r with text, stop := (← here) }

/-- The blanks after a word of a plain scalar. -/
def plainBlanks (start : Mark) (indent : Int) : Nat → PlainRun → M PlainRun
  | 0, r => pure r
  | fuel + 1, r => do
    let c ← current
    if isBlank c then
      if r.broken && ((← get).mark.column : Int) < indent && c = '\t' then
        failIn "while scanning a plain scalar" start "found a tab character that violates indentation"
      if !r.broken then
        let spaces ← readChar r.spaces
        plainBlanks start indent fuel { r with spaces }
      else
        skip
        plainBlanks start indent fuel r
    else if isBreak c then
      if !r.broken then
        let leading ← readBreak ""
        plainBlanks start indent fuel { r with spaces := "", leading, broken := true }
      else
        let trailing ← readBreak r.trailing
        plainBlanks start indent fuel { r with trailing }
    else pure r

/-- The words of a plain scalar, up to a comment, an indicator or a line indented less than the
enclosing block. -/
def plainLoop (start : Mark) (indent : Int) : Nat → PlainRun → M PlainRun
  | 0, r => pure r
  | fuel + 1, r => do
    if ← atDocumentMarker then pure r
    else if (← current) = '#' then pure r
    else
      let r ← plainWord start (← budget) r
      let c ← current
      if !(isBlank c || isBreak c) then pure r
      else
        let r ← plainBlanks start indent (← budget) r
        let s ← get
        if s.flowLevel == 0 && (s.mark.column : Int) < indent then pure r
        else plainLoop start indent fuel r

/-- A plain scalar.  A scalar that ends on a later line leaves room for a simple key. -/
def fetchPlainScalar : M Unit := do
  saveSimpleKey
  modify fun s => { s with keyAllowed := false }
  let s ← get
  let start := s.mark
  let r ← plainLoop start (s.indent + 1) (← budget) { stop := start }
  enqueue (.scalar r.text .plain) start r.stop
  if r.broken then modify fun s => { s with keyAllowed := true }

/-! ### Directives -/

/-- The digits of a number of a `%YAML` directive. -/
def versionDigits (start : Mark) : Nat → Nat → Nat → M Nat
  | 0, v, _ => pure v
  | fuel + 1, v, length => do
    let c ← current
    if isDigit c then
      if length + 1 > 9 then
        failIn "while scanning a %YAML directive" start "found extremely long version number"
      skip
      versionDigits start fuel (v * 10 + (c.toNat - 48)) (length + 1)
    else
      if length == 0 then
        failIn "while scanning a %YAML directive" start "did not find expected version number"
      pure v

/-- A number of a `%YAML` directive. -/
def versionNumber (start : Mark) : M Nat := do
  versionDigits start (← budget) 0 0

/-- The value of a directive named `name`. -/
def directiveValue (name : String) (start : Mark) : M TokenKind := do
  if name == "YAML" then
    skipWhile isBlank (← budget)
    let major ← versionNumber start
    if (← current) != '.' then
      failIn "while scanning a %YAML directive" start "did not find expected digit or '.' character"
    skip
    let minor ← versionNumber start
    pure (.versionDirective major minor)
  else if name == "TAG" then
    skipWhile isBlank (← budget)
    let handle ← scanTagHandle true start
    if !isBlank (← current) then
      failIn "while scanning a %TAG directive" start "did not find expected whitespace"
    skipWhile isBlank (← budget)
    let pre ← scanTagUri true true "" start
    if !isBlankOrEnd (← current) then
      failIn "while scanning a %TAG directive" start "did not find expected whitespace or line break"
    pure (.tagDirective handle pre)
  else failIn "while scanning a directive" start "found unknown directive name"

/-- A `%YAML` or `%TAG` directive, up to the end of its line. -/
def fetchDirective : M Unit := do
  unrollIndent (-1)
  removeSimpleKey
  modify fun s => { s with keyAllowed := false }
  let start ← here
  skip
  let name ← readWhile isWordChar "" (← budget)
  if name.isEmpty then
    failIn "while scanning a directive" start "could not find expected directive name"
  if !isBlankOrEnd (← current) then
    failIn "while scanning a directive" start "found unexpected non-alphabetical character"
  let kind ← directiveValue name start
  let stop ← here
  skipWhile isBlank (← budget)
  if (← current) = '#' then skipWhile (fun c => !isBreakOrEnd c) (← budget)
  if !isBreakOrEnd (← current) then
    failIn "while scanning a directive" start "did not find expected comment or line break"
  if isBreak (← current) then skipLine
  enqueue kind start stop

/-! ### The next token -/

/-- Skips blanks, comments and line breaks up to the next token.  Tabs count as blanks only
inside flow collections and where no simple key may start. -/
def toNextToken : Nat → M Unit
  | 0 => pure ()
  | fuel + 1 => do
    let s ← get
    if s.mark.column == 0 && (← current).toNat = 0xFEFF then skip
    skipWhile (fun c => c = ' ' || ((s.flowLevel > 0 || !s.keyAllowed) && c = '\t')) (← budget)
    if (← current) = '#' then skipWhile (fun c => !isBreakOrEnd c) (← budget)
    if isBreak (← current) then
      skipLine
      if (← get).flowLevel == 0 then modify fun s => { s with keyAllowed := true }
      toNextToken fuel

/-- Whether a character cannot start a plain scalar by itself. -/
def isIndicator (c : Char) : Bool :=
  "-?:,[]\x7b\x7d#&*!|>'\"%@`".contains c

/-- Scans the next token into the queue. -/
def fetchNext : M Unit := do
  if let some offset := (← get).badChar then
    throw { problem := "control characters are not allowed", offset }
  if !(← get).started then fetchStreamStart
  else
    toNextToken (← budget)
    staleSimpleKeys
    unrollIndent (← get).mark.column
    let s ← get
    let c ← current
    let d ← peekAt 1
    if isEnd c then fetchStreamEnd
    else if s.mark.column == 0 && c = '%' then fetchDirective
    else if (← atDocumentMarker) && c = '-' then fetchDocumentIndicator .documentStart
    else if (← atDocumentMarker) && c = '.' then fetchDocumentIndicator .documentEnd
    else if c = '[' then fetchFlowCollectionStart .flowSequenceStart
    else if c = openBrace then fetchFlowCollectionStart .flowMappingStart
    else if c = ']' then fetchFlowCollectionEnd .flowSequenceEnd
    else if c = closeBrace then fetchFlowCollectionEnd .flowMappingEnd
    else if c = ',' then fetchFlowEntry
    else if c = '-' && isBlankOrEnd d then fetchBlockEntry
    else if c = '?' && (s.flowLevel > 0 || isBlankOrEnd d) then fetchKey
    else if c = ':' && (s.flowLevel > 0 || isBlankOrEnd d) then fetchValue
    else if c = '*' then fetchAnchor true
    else if c = '&' then fetchAnchor false
    else if c = '!' then fetchTag
    else if c = '|' && s.flowLevel == 0 then fetchBlockScalar true
    else if c = '>' && s.flowLevel == 0 then fetchBlockScalar false
    else if c = '\'' then fetchFlowScalar true
    else if c = '"' then fetchFlowScalar false
    else if !(isBlankOrEnd c || isIndicator c) || (c = '-' && !isBlank d) ||
        (s.flowLevel == 0 && (c = '?' || c = ':') && !isBlankOrEnd d) then
      fetchPlainScalar
    else
      failIn "while scanning for the next token" s.mark "found character that cannot start any token"

/-- Whether the queue must grow before its head may be handed out: it is empty, or a pending
simple key could still put a key token in front of it. -/
def needMore : M Bool := do
  if (← get).queue.isEmpty then pure true
  else
    staleSimpleKeys
    let s ← get
    pure (s.keys.any fun k => k.possible && k.tokenNumber == s.parsed)

/-- Scans tokens until the head of the queue is settled. -/
def fetchMore : Nat → M Unit
  | 0 => pure ()
  | fuel + 1 => do
    if ← needMore then
      fetchNext
      fetchMore fuel
    else modify fun s => { s with available := true }

/-- The next token, scanning as far as needed. -/
def peek : M Token := do
  if !(← get).available then fetchMore (2 * (← budget) + 8)
  match (← get).queue.head? with
  | some t => pure t
  | none => failHere "did not find expected token"

/-- Hands the head of the queue to the parser. -/
def skipToken : M Unit :=
  modify fun s =>
    match s.queue with
    | t :: rest =>
      { s with
        queue := rest
        available := false
        parsed := s.parsed + 1
        finished := match t.kind with | .streamEnd => true | _ => false }
    | [] => s

end Scanner

end Yaml

end RadarIngest
