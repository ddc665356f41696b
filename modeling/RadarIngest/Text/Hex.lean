/-!
**Bytes written as hexadecimal text.**

Each byte is two digits, high half first.  Writing uses lower-case digits; reading accepts
either case and refuses an odd number of digits or any other character.

Main definitions:

* `RadarIngest.Hex.encode`, `RadarIngest.Hex.decode?`.

Main results:

* `RadarIngest.Hex.decodeChars_encodeChars` — reading what was written gives the bytes back.
-/

set_option autoImplicit false

namespace RadarIngest

namespace Hex

/-- The lower-case digit of a value below sixteen. -/
def digit (n : Nat) : Char :=
  if n < 10 then Char.ofNat (48 + n) else Char.ofNat (87 + n)

/-- The value of a hexadecimal digit of either case. -/
def value? (c : Char) : Option Nat :=
  if '0' ≤ c ∧ c ≤ '9' then some (c.toNat - 48)
  else if 'a' ≤ c ∧ c ≤ 'f' then some (c.toNat - 87)
  else if 'A' ≤ c ∧ c ≤ 'F' then some (c.toNat - 55)
  else none

/-- The digits of a list of bytes. -/
def encodeChars : List UInt8 → List Char
  | [] => []
  | b :: rest => digit (b.toNat / 16) :: digit (b.toNat % 16) :: encodeChars rest

/-- The bytes of a list of digits, two digits a byte. -/
def decodeChars : List Char → Option (List UInt8)
  | [] => some []
  | hi :: lo :: rest =>
    match value? hi, value? lo, decodeChars rest with
    | some h, some l, some tail => some ((h * 16 + l).toUInt8 :: tail)
    | _, _, _ => none
  | [_] => none

/-- The hexadecimal text of a list of bytes. -/
def encode (bytes : List UInt8) : String :=
  String.ofList (encodeChars bytes)

/-- The bytes a hexadecimal text stands for, if it is one. -/
def decode? (text : String) : Option (List UInt8) :=
  decodeChars text.toList

theorem value?_digit (n : Nat) (h : n < 16) : value? (digit n) = some n := by
  have : n = 0 ∨ n = 1 ∨ n = 2 ∨ n = 3 ∨ n = 4 ∨ n = 5 ∨ n = 6 ∨ n = 7 ∨ n = 8 ∨ n = 9 ∨
      n = 10 ∨ n = 11 ∨ n = 12 ∨ n = 13 ∨ n = 14 ∨ n = 15 := by omega
  rcases this with h | h | h | h | h | h | h | h | h | h | h | h | h | h | h | h <;>
    (subst h; decide)

theorem decodeChars_encodeChars (bytes : List UInt8) :
    decodeChars (encodeChars bytes) = some bytes := by
  induction bytes with
  | nil => rfl
  | cons b rest ih =>
    have hb : b.toNat < 256 := b.toNat_lt
    have hi : b.toNat / 16 < 16 := by omega
    have lo : b.toNat % 16 < 16 := Nat.mod_lt _ (by decide)
    have back : (b.toNat / 16 * 16 + b.toNat % 16).toUInt8 = b := by
      rw [show b.toNat / 16 * 16 + b.toNat % 16 = b.toNat by omega]
      exact UInt8.ofNat_toNat
    simp only [encodeChars, decodeChars, value?_digit _ hi, value?_digit _ lo, ih, back]

end Hex

end RadarIngest
