import RadarIngest.Decimal.Notation
import RadarIngest.Text.Printable

/-!
**What a typed decoder reports.**

Decoding a document into a typed value fails for one of a few reasons: a value of the wrong
kind, a value out of range, a sequence of the wrong length, a missing or repeated field, or an
unknown enumeration variant.  `RadarIngest.DecodeError` holds the reason as data and
`RadarIngest.DecodeError.message` writes it.  A value that is quoted in a message is described
by `RadarIngest.Unexpected`: a number by its class and value, a string quoted with escapes.  A
binary64 value is written always positional, with a point, in a message about a YAML document,
and in its shortest form, switching to an exponent far from one, in a message about a JSON
document.

Main definitions:

* `RadarIngest.quoteDebug` — a string in double quotes with escapes;
* `RadarIngest.Unexpected`, `RadarIngest.DecodeError` and their texts.
-/

set_option autoImplicit false

namespace RadarIngest

/-- Whether a character is written as itself inside a quoted string: it is printable and does
not extend the grapheme before it. -/
def printable (c : Char) : Bool :=
  Text.isPrintable c && !Text.isGraphemeExtend c

/-- One character as it appears inside a quoted string. -/
def escapeDebug (c : Char) : String :=
  if c = '"' then "\\\""
  else if c = '\\' then "\\\\"
  else if c = '\n' then "\\n"
  else if c = '\r' then "\\r"
  else if c = '\t' then "\\t"
  else if c.toNat = 0 then "\\0"
  else if printable c then c.toString
  else "\\u\x7b" ++ String.ofList (Nat.toDigits 16 c.toNat) ++ "\x7d"

/-- A string in double quotes, with quotes, backslashes and control characters escaped. -/
def quoteDebug (s : String) : String :=
  "\"" ++ String.join (s.toList.map escapeDebug) ++ "\""

/-- The value a decoder found where it expected something else. -/
inductive Unexpected where
  | bool (b : Bool)
  | unsigned (n : Nat)
  | signed (n : Int)
  | float (x : Float)
  | str (s : String)
  /-- An explicit null of a JSON document. -/
  | null
  /-- The empty value of a YAML document. -/
  | unit
  | seq
  | map
  /-- Any other value, described by the text given. -/
  | other (text : String)

/-- The description of an unexpected value, with binary64 values written in notation `w`. -/
def Unexpected.describe (w : Notation) : Unexpected → String
  | .bool b => s!"boolean `{b}`"
  | .unsigned n => s!"integer `{n}`"
  | .signed n => s!"integer `{n}`"
  | .float x => "floating point `" ++ w.renderFloat x ++ "`"
  | .str s => "string " ++ quoteDebug s
  | .null => "null"
  | .unit => "unit value"
  | .seq => "sequence"
  | .map => "map"
  | .other text => text

/-- Why a document does not decode into a typed value. -/
inductive DecodeError where
  | invalidType (found : Unexpected) (expected : String)
  | invalidValue (found : Unexpected) (expected : String)
  | invalidLength (length : Nat) (expected : String)
  | missingField (name : String)
  | duplicateField (name : String)
  | unknownVariant (name : String) (variants : List String)

/-- Names in backquotes, listed the way the messages list alternatives. -/
def oneOf : List String → String
  | [] => "there are no variants"
  | [a] => s!"expected `{a}`"
  | [a, b] => s!"expected `{a}` or `{b}`"
  | names => "expected one of " ++ ", ".intercalate (names.map fun n => s!"`{n}`")

/-- The text of a decoding failure, with binary64 values written in notation `w`. -/
def DecodeError.describe (w : Notation) : DecodeError → String
  | .invalidType found expected =>
    "invalid type: " ++ found.describe w ++ ", expected " ++ expected
  | .invalidValue found expected =>
    "invalid value: " ++ found.describe w ++ ", expected " ++ expected
  | .invalidLength length expected => s!"invalid length {length}, expected {expected}"
  | .missingField name => s!"missing field `{name}`"
  | .duplicateField name => s!"duplicate field `{name}`"
  | .unknownVariant name variants => s!"unknown variant `{name}`, " ++ oneOf variants

/-- The text of a decoding failure of a YAML document: binary64 values are positional. -/
def DecodeError.message (e : DecodeError) : String := e.describe Notation.positional

/-- The text of a decoding failure of a JSON document: binary64 values in their shortest form,
positional only from `1e-5` up to below `1e16`. -/
def DecodeError.jsonMessage (e : DecodeError) : String := e.describe Notation.quoted

end RadarIngest
