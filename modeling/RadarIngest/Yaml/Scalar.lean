import RadarIngest.Decimal.Nearest
import RadarIngest.Schema.Message
import RadarIngest.Yaml.Syntax

/-!
**What a YAML scalar stands for.**

A scalar is text; what value it is depends on its tag and on how it was written.  A plain scalar
without a tag is resolved by its text, in this order:

* empty, `~`, `null`, `Null` or `NULL` is the empty value;
* `true`/`True`/`TRUE` and `false`/`False`/`FALSE` are booleans;
* an integer: decimal, or `0x`, `0o`, `0b` with hexadecimal, octal or binary digits, with an
  optional sign; digits with a leading zero (`012`) are not a number at all;
* a decimal floating point numeral, or `.inf`, `-.inf`, `.nan` in three spellings; a numeral
  too large for binary64 is not a number;
* anything else is a string.

An integer that needs more than 64 bits is kept apart: it reaches a reader as a 128-bit integer,
which no 64-bit field accepts.  A quoted scalar is always a string.  The tags `!!bool`, `!!int`,
`!!float` and `!!null` demand their kind, and a text that is not of it is an invalid value.

Main definitions:

* `RadarIngest.Yaml.Resolved` — the value a scalar stands for;
* `RadarIngest.Yaml.resolve`.
-/

set_option autoImplicit false

namespace RadarIngest

namespace Yaml

/-- The value a scalar stands for. -/
inductive Resolved where
  | unit
  | bool (b : Bool)
  /-- An integer of 64 bits without sign. -/
  | unsigned (n : Nat)
  /-- An integer of 64 bits with sign, written with a minus. -/
  | signed (n : Int)
  /-- An integer of 128 bits without sign that does not fit in 64. -/
  | wideUnsigned (n : Nat)
  /-- An integer of 128 bits with sign that does not fit in 64. -/
  | wideSigned (n : Int)
  /-- A binary64 value, by its bits. -/
  | float (bits : UInt64)
  | str (s : String)
  /-- A tagged scalar whose text is not of its tag's kind. -/
  | rejected (found : Unexpected) (expected : String)

/-- The digits of a number in a radix, each below it, if there is at least one. -/
def radixValue? (radix : Nat) (cs : List Char) : Option Nat :=
  let digit (c : Char) : Option Nat :=
    match hexValue? c with
    | some d => if d < radix then some d else none
    | none => none
  if cs.isEmpty then none
  else cs.foldl (fun acc c => acc.bind fun v => (digit c).map fun d => v * radix + d) (some 0)

/-- A number with an optional sign, as the integer parsers of a fixed width accept it: a minus
is allowed when `lower` is positive, and the value must lie in `[-lower, upper]`. -/
def boundedInt? (cs : List Char) (radix : Nat) (lower upper : Nat) : Option Int :=
  match cs with
  | '+' :: rest => (radixValue? radix rest).bind fun v => if v ≤ upper then some v else none
  | '-' :: rest =>
    if lower == 0 then none
    else (radixValue? radix rest).bind fun v => if v ≤ lower then some (-(v : Int)) else none
  | rest => (radixValue? radix rest).bind fun v => if v ≤ upper then some v else none

/-- Digits with a leading zero and nothing else: a string, not a number. -/
def digitsButNotNumber (s : String) : Bool :=
  let cs := match s.toList with
    | '-' :: cs | '+' :: cs => cs
    | cs => cs
  match cs with
  | '0' :: rest => !rest.isEmpty && rest.all isDigit
  | _ => false

/-- An integer without a minus sign, of at most `upper`, with its radix prefix. -/
def unsignedInt? (s : String) (upper : Nat) : Option Nat :=
  let unplus := match s.toList with
    | '+' :: cs => cs
    | cs => cs
  let prefixed (radix : Nat) (rest : List Char) : Option (Option Nat) :=
    match rest with
    | '+' :: _ | '-' :: _ => some none
    | _ => (boundedInt? rest radix 0 upper).map fun v => some v.toNat
  let viaPrefix : Option (Option Nat) := match unplus with
    | '0' :: 'x' :: rest => prefixed 16 rest
    | '0' :: 'o' :: rest => prefixed 8 rest
    | '0' :: 'b' :: rest => prefixed 2 rest
    | _ => none
  match viaPrefix with
  | some r => r
  | none =>
    match unplus with
    | '+' :: _ | '-' :: _ => none
    | _ =>
      if digitsButNotNumber s then none
      else (boundedInt? unplus 10 0 upper).map Int.toNat

/-- An integer with a minus sign, of at least `-lower`, with its radix prefix. -/
def negativeInt? (s : String) (lower : Nat) : Option Int :=
  let viaPrefix : Option Int := match s.toList with
    | '-' :: '0' :: 'x' :: rest => boundedInt? ('-' :: rest) 16 lower 0
    | '-' :: '0' :: 'o' :: rest => boundedInt? ('-' :: rest) 8 lower 0
    | '-' :: '0' :: 'b' :: rest => boundedInt? ('-' :: rest) 2 lower 0
    | _ => none
  match viaPrefix with
  | some v => some v
  | none =>
    if digitsButNotNumber s then none
    else
      boundedInt? s.toList 10 lower (lower - 1)

/-- The integer a scalar's text stands for, trying the widths in order. -/
def integer? (s : String) : Option Resolved :=
  match unsignedInt? s (Nat.pow 2 64 - 1) with
  | some n => some (.unsigned n)
  | none =>
    match negativeInt? s (Nat.pow 2 63) with
    | some n => some (if n < 0 then .signed n else .unsigned n.toNat)
    | none =>
      match unsignedInt? s (Nat.pow 2 128 - 1) with
      | some n => some (.wideUnsigned n)
      | none => (negativeInt? s (Nat.pow 2 127)).map .wideSigned

/-- The binary64 value of a floating point scalar: a finite decimal numeral, or an infinity or
NaN in YAML's spelling.  A single plus sign may lead. -/
def float? (s : String) : Option UInt64 :=
  let unplus? : Option String :=
    match s.toList with
    | '+' :: '+' :: _ | '+' :: '-' :: _ => none
    | '+' :: cs => some (String.ofList cs)
    | _ => some s
  unplus?.bind fun u =>
    if u == ".inf" || u == ".Inf" || u == ".INF" then some 0x7FF0000000000000
    else if s == "-.inf" || s == "-.Inf" || s == "-.INF" then some 0xFFF0000000000000
    else if s == ".nan" || s == ".NaN" || s == ".NAN" then some 0x7FF8000000000000
    else
      match Decimal.readFloat? u with
      | some bits => if (Binary64.ofBits bits).isFinite then some bits else none
      | none => none

/-- The null spellings. -/
def isNull (s : String) : Bool := s == "~" || s == "null" || s == "Null" || s == "NULL"

/-- The boolean spellings. -/
def bool? (s : String) : Option Bool :=
  if s == "true" || s == "True" || s == "TRUE" then some true
  else if s == "false" || s == "False" || s == "FALSE" then some false
  else none

/-- What a plain scalar without a demanding tag stands for. -/
def resolvePlain (s : String) : Resolved :=
  if s.isEmpty || isNull s then .unit
  else match bool? s with
    | some b => .bool b
    | none =>
      match integer? s with
      | some r => r
      | none =>
        match (if digitsButNotNumber s then none else float? s) with
        | some bits => .float bits
        | none => .str s

/-- The full form of the core schema's tags. -/
def coreTag (name : String) : Tag := Tag.ofString ("tag:yaml.org,2002:" ++ name)

/-- What a scalar stands for, given how it was written and its tag. -/
def resolve (value : String) (style : ScalarStyle) (tag : Option Tag) : Resolved :=
  match tag with
  | some t =>
    if t == coreTag "bool" then
      match bool? value with
      | some b => .bool b
      | none => .rejected (.str value) "a boolean"
    else if t == coreTag "int" then
      match integer? value with
      | some r => r
      | none => .rejected (.str value) "an integer"
    else if t == coreTag "float" then
      match float? value with
      | some bits => .float bits
      | none => .rejected (.str value) "a float"
    else if t == coreTag "null" then
      if isNull value then .unit else .rejected (.str value) "null"
    else if t.isLocal && style == .plain then resolvePlain value
    else .str value
  | none => if style == .plain then resolvePlain value else .str value

end Yaml

end RadarIngest
