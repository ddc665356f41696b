/-!
**JSON documents.**

A number keeps the class the reader gave it: a non-negative integer of at most 64 bits, a
negative integer of at most 64 bits, or a binary64 value for everything else (a fraction, an
exponent, a negative zero, an integer too large for a word).  Typed decoding reports these
classes differently, so they are part of the value.

An object keeps its members in the order they were written, duplicates included;
`RadarIngest.Json.Value.membersOf` gives the view that decoding uses: one member per key, the
last one written, in increasing key order.

Main definitions:

* `RadarIngest.Json.Number`, `RadarIngest.Json.Value`;
* `RadarIngest.Json.Value.field?`, `RadarIngest.Json.Value.membersOf`.
-/

set_option autoImplicit false

namespace RadarIngest

namespace Json

/-- A JSON number as the reader classifies it. -/
inductive Number where
  /-- An integer in `0 .. 2 ^ 64 - 1`. -/
  | natural (n : Nat)
  /-- An integer in `-2 ^ 63 .. -1`. -/
  | negative (n : Int)
  /-- Any other number, as the nearest binary64 value the reader computes. -/
  | float (x : Float)

/-- A JSON document. -/
inductive Value where
  | null
  | bool (b : Bool)
  | number (n : Number)
  | string (s : String)
  | array (items : List Value)
  | object (members : List (String × Value))

instance : Inhabited Value := ⟨.null⟩

namespace Value

/-- A natural number as a document. -/
def nat (n : Nat) : Value := .number (.natural n)

/-- The value of the last member named `key`, if the document is an object that has one. -/
def field? (v : Value) (key : String) : Option Value :=
  match v with
  | .object members => (members.reverse.find? (fun m => m.1 == key)).map (·.2)
  | _ => none

/-- Inserts a member into a list kept in increasing key order, replacing a member of that key. -/
def insertMember (m : String × Value) : List (String × Value) → List (String × Value)
  | [] => [m]
  | n :: rest =>
    if m.1 < n.1 then m :: n :: rest
    else if m.1 == n.1 then m :: rest
    else n :: insertMember m rest

/-- The members of an object as decoding sees them: one per key, the last one written, in
increasing key order. -/
def membersOf (members : List (String × Value)) : List (String × Value) :=
  members.foldl (fun acc m => insertMember m acc) []

end Value

end Json

end RadarIngest
