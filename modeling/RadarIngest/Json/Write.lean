import RadarIngest.Json.Value
import RadarIngest.Decimal.Notation

/-!
**Writing JSON text.**

Documents are written compactly, members in the order they are held.  A binary64 number is
written as its shortest decimal in `RadarIngest.Notation.document`, so it always shows a point
or an exponent; a non-finite one is written `null`.  Strings escape the quote, the backslash and
the control characters; other characters are written as they are.

Main definitions:

* `RadarIngest.Json.Value.render`.
-/

set_option autoImplicit false

namespace RadarIngest

namespace Json

/-- The text of a number. -/
def Number.render : Number → String
  | .natural n => toString n
  | .negative n => toString n
  | .float x => if x.isFinite then Notation.document.renderFloat x else "null"

/-- The escaped form of one character inside a string. -/
def escapeChar (c : Char) : String :=
  if c = '"' then "\\\""
  else if c = '\\' then "\\\\"
  else if c = '\n' then "\\n"
  else if c = '\r' then "\\r"
  else if c = '\t' then "\\t"
  else if c.toNat < 0x20 then
    let h := Nat.toDigits 16 c.toNat
    "\\u" ++ String.ofList (List.replicate (4 - h.length) '0' ++ h)
  else c.toString

/-- A string as a quoted JSON string. -/
def quote (s : String) : String :=
  "\"" ++ String.join (s.toList.map escapeChar) ++ "\""

mutual

/-- The compact text of a document. -/
def Value.render : Value → String
  | .null => "null"
  | .bool b => if b then "true" else "false"
  | .number n => n.render
  | .string s => quote s
  | .array items => "[" ++ Value.renderItems items ++ "]"
  | .object members => "\x7b" ++ Value.renderMembers members ++ "\x7d"

/-- The items of an array, separated by commas. -/
def Value.renderItems : List Value → String
  | [] => ""
  | [v] => v.render
  | v :: rest => v.render ++ "," ++ Value.renderItems rest

/-- The members of an object, separated by commas. -/
def Value.renderMembers : List (String × Value) → String
  | [] => ""
  | [(k, v)] => quote k ++ ":" ++ v.render
  | (k, v) :: rest => quote k ++ ":" ++ v.render ++ "," ++ Value.renderMembers rest

end

end Json

end RadarIngest
