/-!
**Positions, tokens and syntax errors of YAML text.**

A YAML reader works in three layers: a scanner turns characters into tokens, a parser turns
tokens into events, and a loader collects the events of one document.  This module holds what
the layers share: the position of a character (`RadarIngest.Yaml.Mark`), the character classes
the scanner decides by, the text of a tag (`RadarIngest.Yaml.Tag`, bytes that end at the first
zero byte), the tokens, and the syntax errors with the text they are reported in.

A position counts lines and columns from zero; it is shown from one.  The very first position of
the text is never shown, so an error there reads without a position.

Main definitions:

* `RadarIngest.Yaml.Mark`, `RadarIngest.Yaml.Tag`, `RadarIngest.Yaml.Token`,
  `RadarIngest.Yaml.TokenKind`;
* `RadarIngest.Yaml.SyntaxError` and `RadarIngest.Yaml.SyntaxError.message`.
-/

set_option autoImplicit false

namespace RadarIngest

namespace Yaml

/-- A position in the text: the bytes before it in UTF-8, and its line and column from zero; a
column counts characters. -/
structure Mark where
  index : Nat := 0
  line : Nat := 0
  column : Nat := 0
  deriving Inhabited, BEq, Repr

namespace Mark

/-- Whether this is the first position of the text, which messages leave out. -/
def isStart (m : Mark) : Bool := m.line == 0 && m.column == 0

/-- The position as messages show it, counting from one. -/
def text (m : Mark) : String := s!"line {m.line + 1} column {m.column + 1}"

/-- The position after the character `c` on the same line. -/
def next (m : Mark) (c : Char) : Mark := { m with index := m.index + c.utf8Size, column := m.column + 1 }

/-- The start of the next line, after a line break of `width` bytes. -/
def newline (m : Mark) (width : Nat) : Mark :=
  { index := m.index + width, line := m.line + 1, column := 0 }

end Mark

/-! ### Character classes -/

/-- The character standing for the end of the text. -/
def endChar : Char := Char.ofNat 0

/-- The opening brace of a flow mapping. -/
def openBrace : Char := Char.ofNat 0x7B

/-- The closing brace of a flow mapping. -/
def closeBrace : Char := Char.ofNat 0x7D

/-- A space or a tab. -/
def isBlank (c : Char) : Bool := c = ' ' || c = '\t'

/-- A line break: carriage return, line feed, next line, line or paragraph separator. -/
def isBreak (c : Char) : Bool :=
  c = '\r' || c = '\n' || c.toNat = 0x85 || c.toNat = 0x2028 || c.toNat = 0x2029

/-- The end of the text. -/
def isEnd (c : Char) : Bool := c = endChar

/-- A line break or the end of the text. -/
def isBreakOrEnd (c : Char) : Bool := isBreak c || isEnd c

/-- A blank, a line break or the end of the text. -/
def isBlankOrEnd (c : Char) : Bool := isBlank c || isBreakOrEnd c

/-- A character of an anchor name or a tag handle: a letter, a digit, `_` or `-`. -/
def isWordChar (c : Char) : Bool :=
  ('0' ≤ c && c ≤ '9') || ('a' ≤ c && c ≤ 'z') || ('A' ≤ c && c ≤ 'Z') || c = '_' || c = '-'

/-- A decimal digit. -/
def isDigit (c : Char) : Bool := '0' ≤ c && c ≤ '9'

/-- The value of a hexadecimal digit. -/
def hexValue? (c : Char) : Option Nat :=
  if '0' ≤ c && c ≤ '9' then some (c.toNat - 48)
  else if 'a' ≤ c && c ≤ 'f' then some (c.toNat - 87)
  else if 'A' ≤ c && c ≤ 'F' then some (c.toNat - 55)
  else none

/-- Whether a character may appear in YAML text at all. -/
def isAllowed (c : Char) : Bool :=
  let v := c.toNat
  v = 0x09 || v = 0x0A || v = 0x0D || (0x20 ≤ v && v ≤ 0x7E) || v = 0x85 ||
    (0xA0 ≤ v && v ≤ 0xD7FF) || (0xE000 ≤ v && v ≤ 0xFFFD) || (0x10000 ≤ v && v ≤ 0x10FFFF)

/-! ### Tokens -/

/-- How a scalar was written. -/
inductive ScalarStyle where
  | plain
  | singleQuoted
  | doubleQuoted
  | literal
  | folded
  deriving DecidableEq, Repr

/-- The text of a tag, as bytes.  A `%XX` escape in a tag may stand for any byte, so a tag need
not be valid UTF-8; and a tag ends at its first zero byte, as text kept with a terminating zero
does. -/
structure Tag where
  bytes : List UInt8
  deriving DecidableEq, Repr

namespace Tag

/-- The tag spelled by a string. -/
def ofString (s : String) : Tag := ⟨s.toUTF8.toList⟩

/-- The tag made of the bytes before the first zero byte. -/
def ofBytes (bs : List UInt8) : Tag := ⟨bs.takeWhile (· != 0)⟩

/-- One tag followed by another. -/
def append (a b : Tag) : Tag := ⟨a.bytes ++ b.bytes⟩

/-- The tag as text, when its bytes are valid UTF-8. -/
def text? (t : Tag) : Option String := String.fromUTF8? (ByteArray.mk t.bytes.toArray)

/-- Whether the tag starts with `!`. -/
def isLocal (t : Tag) : Bool := t.bytes.head? == some 0x21

end Tag

/-- The kinds of token. -/
inductive TokenKind where
  | streamStart
  | streamEnd
  | versionDirective (major minor : Nat)
  | tagDirective (handle : String) (pre : Tag)
  | documentStart
  | documentEnd
  | blockSequenceStart
  | blockMappingStart
  | blockEnd
  | flowSequenceStart
  | flowSequenceEnd
  | flowMappingStart
  | flowMappingEnd
  | blockEntry
  | flowEntry
  | key
  | value
  | alias (name : String)
  | anchor (name : String)
  | tag (handle : String) (suffix : Tag)
  | scalar (text : String) (style : ScalarStyle)
  deriving Repr

/-- A token with the positions where it starts and ends. -/
structure Token where
  kind : TokenKind
  start : Mark
  stop : Mark
  deriving Repr

/-! ### Syntax errors -/

/-- A syntax error: what is wrong and where, and optionally what was being read and where that
began.  Errors in the characters themselves have no position but a byte offset. -/
structure SyntaxError where
  problem : String
  problemMark : Mark := {}
  offset : Nat := 0
  context : Option (String × Mark) := none
  deriving Repr

/-- The text of a syntax error.  A position equal to the problem's is not repeated for the
context. -/
def SyntaxError.message (e : SyntaxError) : String :=
  let place :=
    if !e.problemMark.isStart then " at " ++ e.problemMark.text
    else if e.offset != 0 then s!" at position {e.offset}"
    else ""
  let around := match e.context with
    | none => ""
    | some (c, m) =>
      ", " ++ c ++
        (if !m.isStart && (m.line != e.problemMark.line || m.column != e.problemMark.column) then
          " at " ++ m.text
        else "")
  e.problem ++ place ++ around

end Yaml

end RadarIngest
