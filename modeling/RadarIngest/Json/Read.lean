import RadarIngest.Json.Value

/-!
**Reading JSON text.**

The reader follows the JSON grammar and classifies numbers as `RadarIngest.Json.Number` does.
An integer without fraction or exponent is a `natural` when it fits 64 bits and a `negative`
when it fits a signed word; `-0` and larger integers become binary64 values.  A binary64 value is
computed the way the program's reader computes it: the decimal digits are gathered into a 64-bit
significand (digits that no longer fit are dropped and only move the exponent), the significand
is converted to binary64, and then multiplied or divided once by a power of ten (a power beyond
`1e308` is divided out in steps of `1e308`).  This is not always the binary64 value nearest to
the decimal, and the answers show it, so the rule is kept.

Main definitions:

* `RadarIngest.Json.Value.parse` — a document from text.
-/

set_option autoImplicit false

namespace RadarIngest

namespace Json

namespace Read

/-- The largest 64-bit word. -/
def wordMax : Nat := Nat.pow 2 64 - 1

/-- `10 ^ k` as the nearest binary64 value, for `k ≤ 308`. -/
def power (k : Nat) : Float := Float.ofScientific 1 false k

/-- Scales a significand by a power of ten, one multiplication or division at a time of at most
`1e308`; `none` when a multiplication overflows. -/
def scale (f : Float) : Int → Nat → Option Float
  | _, 0 => some f
  | e, fuel + 1 =>
    if e.natAbs ≤ 308 then
      if 0 ≤ e then
        let g := f * power e.toNat
        if g.isInf then none else some g
      else some (f / power e.natAbs)
    else if f == 0 then some f
    else if 0 ≤ e then none
    else scale (f / power 308) (e + 308) fuel

/-- The binary64 value of `± significand · 10 ^ exponent` as the reader computes it. -/
def fromParts (positive : Bool) (significand : Nat) (exponent : Int) : Option Float :=
  let f := significand.toUInt64.toFloat
  (scale f exponent (exponent.natAbs / 308 + 2)).map fun g => if positive then g else -g

/-- Whether appending a digit would take the significand past the largest word. -/
def overflows (significand digit : Nat) : Bool := significand * 10 + digit > wordMax

/-- The value of a decimal digit character. -/
def digitValue? (c : Char) : Option Nat :=
  if '0' ≤ c ∧ c ≤ '9' then some (c.toNat - 48) else none

/-- Skips decimal digits. -/
def skipDigits : List Char → List Char
  | c :: rest => if (digitValue? c).isSome then skipDigits rest else c :: rest
  | [] => []

/-- Reads digits into an accumulator, stopping when the accumulator would pass `limit`. -/
def takeExponentDigits (acc : Nat) : List Char → Nat × List Char
  | c :: rest =>
    match digitValue? c with
    | some d => takeExponentDigits (acc * 10 + d) rest
    | none => (acc, c :: rest)
  | [] => (acc, [])

/-- The largest signed 32-bit value: exponents are gathered in such a word. -/
def exponentMax : Nat := Nat.pow 2 31 - 1

/-- Reads an exponent after its `e` and finishes the number. -/
def exponentPart (positive : Bool) (significand : Nat) (start : Int) (cs : List Char) :
    Except String (Number × List Char) :=
  let (expPositive, cs) := match cs with
    | '+' :: rest => (true, rest)
    | '-' :: rest => (false, rest)
    | _ => (true, cs)
  match cs with
  | c :: _ =>
    match digitValue? c with
    | none => .error "invalid number"
    | some _ =>
      let (e, rest) := takeExponentDigits 0 cs
      if e > exponentMax then
        -- The exponent does not fit its word: the value is zero, or too large to read.
        if significand == 0 || !expPositive then
          .ok (.float (if positive then 0.0 else -0.0), rest)
        else .error "number out of range"
      else
        let final : Int := if expPositive then start + e else start - e
        match fromParts positive significand final with
        | some f => .ok (.float f, rest)
        | none => .error "number out of range"
  | [] => .error "EOF while parsing a value"

/-- Finishes a number whose significand and exponent are known, at an optional exponent. -/
def finish (positive : Bool) (significand : Nat) (exponent : Int) (cs : List Char) :
    Except String (Number × List Char) :=
  match cs with
  | 'e' :: rest | 'E' :: rest => exponentPart positive significand exponent rest
  | _ =>
    match fromParts positive significand exponent with
    | some f => .ok (.float f, cs)
    | none => .error "number out of range"

/-- Reads the digits after a decimal point. -/
def fractionDigits (positive : Bool) (significand : Nat) (exponent : Int) (count : Nat) :
    List Char → Except String (Number × List Char)
  | c :: rest =>
    match digitValue? c with
    | some d =>
      if overflows significand d then
        -- Further digits no longer fit: they are dropped.
        finish positive significand exponent (skipDigits (c :: rest))
      else fractionDigits positive (significand * 10 + d) (exponent - 1) (count + 1) rest
    | none =>
      if count == 0 then .error "invalid number"
      else finish positive significand exponent (c :: rest)
  | [] =>
    if count == 0 then .error "EOF while parsing a value"
    else finish positive significand exponent []

/-- Continues after the integer digits of a number. -/
def afterInteger (positive : Bool) (significand : Nat) (exponent : Int) (long : Bool)
    (cs : List Char) : Except String (Number × List Char) :=
  match cs with
  | '.' :: rest => fractionDigits positive significand exponent 0 rest
  | 'e' :: rest | 'E' :: rest => exponentPart positive significand exponent rest
  | _ =>
    if long then finish positive significand exponent cs
    else if positive then .ok (.natural significand, cs)
    else if significand == 0 || significand > Nat.pow 2 63 then
      .ok (.float (-(significand.toUInt64.toFloat)), cs)
    else .ok (.negative (-(significand : Int)), cs)

/-- Reads integer digits; digits past the word only move the exponent. -/
def integerDigits (positive : Bool) (significand : Nat) (exponent : Int) (long : Bool) :
    List Char → Except String (Number × List Char)
  | c :: rest =>
    match digitValue? c with
    | some d =>
      if long then integerDigits positive significand (exponent + 1) true rest
      else if overflows significand d then
        integerDigits positive significand (exponent + 1) true rest
      else integerDigits positive (significand * 10 + d) exponent false rest
    | none => afterInteger positive significand exponent long (c :: rest)
  | [] => afterInteger positive significand exponent long []

/-- Reads a number. -/
def number (cs : List Char) : Except String (Number × List Char) :=
  let (positive, cs) := match cs with
    | '-' :: rest => (false, rest)
    | _ => (true, cs)
  match cs with
  | '0' :: rest =>
    match rest with
    | c :: _ => if (digitValue? c).isSome then .error "invalid number" else
        afterInteger positive 0 0 false rest
    | [] => afterInteger positive 0 0 false rest
  | c :: rest =>
    match digitValue? c with
    | some d => integerDigits positive d 0 false rest
    | none => .error "invalid number"
  | [] => .error "EOF while parsing a value"

/-- Skips blanks between tokens. -/
def skipBlank : List Char → List Char
  | c :: rest => if c = ' ' ∨ c = '\t' ∨ c = '\n' ∨ c = '\r' then skipBlank rest else c :: rest
  | [] => []

/-- The value of four hexadecimal digits. -/
def hex4 (a b c d : Char) : Option Nat :=
  let v (x : Char) : Option Nat :=
    if '0' ≤ x ∧ x ≤ '9' then some (x.toNat - 48)
    else if 'a' ≤ x ∧ x ≤ 'f' then some (x.toNat - 87)
    else if 'A' ≤ x ∧ x ≤ 'F' then some (x.toNat - 55)
    else none
  match v a, v b, v c, v d with
  | some a, some b, some c, some d => some (((a * 16 + b) * 16 + c) * 16 + d)
  | _, _, _, _ => none

/-- The character of a pair of surrogate code units. -/
def ofSurrogates (hi lo : Nat) : Char := Char.ofNat (0x10000 + (hi - 0xD800) * 0x400 + (lo - 0xDC00))

/-- Reads the rest of a string after its opening quote; `acc` holds the characters reversed. -/
def stringBody (acc : List Char) : List Char → Except String (String × List Char)
  | '"' :: rest => .ok (String.ofList acc.reverse, rest)
  | '\\' :: 'u' :: a :: b :: c :: d :: rest =>
    match hex4 a b c d with
    | none => .error "invalid escape"
    | some u =>
      if 0xD800 ≤ u ∧ u < 0xDC00 then
        match rest with
        | '\\' :: 'u' :: a :: b :: c :: d :: after =>
          match hex4 a b c d with
          | some l =>
            if 0xDC00 ≤ l ∧ l < 0xE000 then stringBody (ofSurrogates u l :: acc) after
            else .error "lone leading surrogate in hex escape"
          | none => .error "invalid escape"
        | _ => .error "lone leading surrogate in hex escape"
      else if 0xDC00 ≤ u ∧ u < 0xE000 then .error "lone trailing surrogate in hex escape"
      else stringBody (Char.ofNat u :: acc) rest
  | '\\' :: e :: rest =>
    match e with
    | '"' => stringBody ('"' :: acc) rest
    | '\\' => stringBody ('\\' :: acc) rest
    | '/' => stringBody ('/' :: acc) rest
    | 'b' => stringBody ('\x08' :: acc) rest
    | 'f' => stringBody ('\x0c' :: acc) rest
    | 'n' => stringBody ('\n' :: acc) rest
    | 'r' => stringBody ('\r' :: acc) rest
    | 't' => stringBody ('\t' :: acc) rest
    | _ => .error "invalid escape"
  | c :: rest =>
    if c.toNat < 0x20 then .error "control character while parsing a string"
    else stringBody (c :: acc) rest
  | [] => .error "EOF while parsing a string"

mutual

/-- Reads a value; `fuel` bounds the nesting and the number of items read. -/
def value : Nat → List Char → Except String (Value × List Char)
  | 0, _ => .error "recursion limit exceeded"
  | fuel + 1, cs =>
    match skipBlank cs with
    | 'n' :: 'u' :: 'l' :: 'l' :: rest => .ok (.null, rest)
    | 't' :: 'r' :: 'u' :: 'e' :: rest => .ok (.bool true, rest)
    | 'f' :: 'a' :: 'l' :: 's' :: 'e' :: rest => .ok (.bool false, rest)
    | '"' :: rest => (stringBody [] rest).map fun (s, r) => (.string s, r)
    | '[' :: rest =>
      match skipBlank rest with
      | ']' :: after => .ok (.array [], after)
      | _ => items fuel [] rest
    | '{' :: rest =>
      match skipBlank rest with
      | '}' :: after => .ok (.object [], after)
      | _ => members fuel [] rest
    | [] => .error "EOF while parsing a value"
    | cs => (number cs).map fun (n, r) => (.number n, r)

/-- Reads the items of an array after `[` or a comma; `acc` holds the earlier items reversed. -/
def items : Nat → List Value → List Char → Except String (Value × List Char)
  | 0, _, _ => .error "recursion limit exceeded"
  | fuel + 1, acc, cs => do
    let (v, rest) ← value fuel cs
    match skipBlank rest with
    | ',' :: more => items fuel (v :: acc) more
    | ']' :: more => .ok (.array (v :: acc).reverse, more)
    | _ => .error "expected `,` or `]`"

/-- Reads the members of an object after `{` or a comma; `acc` holds the earlier ones reversed. -/
def members : Nat → List (String × Value) → List Char → Except String (Value × List Char)
  | 0, _, _ => .error "recursion limit exceeded"
  | fuel + 1, acc, cs =>
    match skipBlank cs with
    | '"' :: rest => do
      let (key, rest) ← stringBody [] rest
      match skipBlank rest with
      | ':' :: rest =>
        let (v, rest) ← value fuel rest
        match skipBlank rest with
        | ',' :: more => members fuel ((key, v) :: acc) more
        | '}' :: more => .ok (.object ((key, v) :: acc).reverse, more)
        | _ => .error "expected `,` or `\x7d`"
      | _ => .error "expected `:`"
    | _ => .error "key must be a string"

end

end Read

/-- The document a JSON text holds, with nothing but blanks after it. -/
def Value.parse (text : String) : Except String Value := do
  let cs := text.toList
  let (v, rest) ← Read.value (2 * cs.length + 2) cs
  match Read.skipBlank rest with
  | [] => .ok v
  | _ => .error "trailing characters"

end Json

end RadarIngest
