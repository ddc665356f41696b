import RadarIngest.Json.Value
import RadarIngest.Schema.Message
import RadarIngest.Binary32

/-!
**Typed values from JSON documents.**

The building blocks of decoding: a machine word, a single-precision number, an enumeration
variant, and the fields of a struct.  A struct is read from an object, whose members are visited
in increasing key order (unknown keys are skipped), or from an array, whose items are its fields
in declaration order.  A field missing from an object is reported after every present field has
been decoded, the first missing one in declaration order.

Main definitions:

* `RadarIngest.Json.Value.unexpected`;
* `RadarIngest.Json.Value.toWord`, `RadarIngest.Json.Value.toSingle`,
  `RadarIngest.Json.Value.toVariant`;
* `RadarIngest.Json.Value.fieldsOf`, `RadarIngest.Json.Fields.require`,
  `RadarIngest.Json.Fields.withDefault`.
-/

set_option autoImplicit false

namespace RadarIngest

namespace Json

/-- How a struct-shaped document gives its fields: the value of a field by its name. -/
abbrev Fields := String → Option Value

namespace Value

/-- How a decoding message describes a document. -/
def unexpected : Value → Unexpected
  | .null => .null
  | .bool b => .bool b
  | .number (.natural n) => .unsigned n
  | .number (.negative n) => .signed n
  | .number (.float x) => .float x
  | .string s => .str s
  | .array _ => .seq
  | .object _ => .map

/-- A machine word: a non-negative integer.  `expected` names the word in messages. -/
def toWord (expected : String) : Value → Except DecodeError Nat
  | .number (.natural n) => .ok n
  | .number (.negative n) => .error (.invalidValue (.signed n) expected)
  | v => .error (.invalidType v.unexpected expected)

/-- A single-precision number: an integer or a binary64 value, rounded once to single. -/
def toSingle : Value → Except DecodeError Binary32
  | .number (.natural n) => .ok (Binary32.ofWord n)
  | .number (.negative n) => .ok (Binary32.ofInt n)
  | .number (.float x) => .ok (Binary32.ofDouble x)
  | v => .error (.invalidType v.unexpected "f32")

/-- The name of an enumeration variant: a string, or an object with one member whose key is the
variant and whose value is null. -/
def toVariant (variants : List String) : Value → Except DecodeError String
  | .string s => if variants.contains s then .ok s else .error (.unknownVariant s variants)
  | .object members =>
    match membersOf members with
    | [(k, x)] =>
      if variants.contains k then
        match x with
        | .null => .ok k
        | x => .error (.invalidType x.unexpected "unit")
      else .error (.unknownVariant k variants)
    | _ => .error (.invalidValue .map "map with a single key")
  | v => .error (.invalidType v.unexpected "string or map")

/-- Runs `check` on each item together with the field it stands for, in declaration order; a
missing required item stops with the count of items present. -/
def checkItems (structName : String) (count : Nat)
    (check : String → Value → Except DecodeError Unit) :
    Nat → List (String × Bool) → List Value → Except DecodeError Unit
  | _, [], _ => .ok ()
  | i, (name, _) :: fields, item :: items => do
    check name item
    checkItems structName count check (i + 1) fields items
  | i, (_, required) :: fields, [] =>
    if required then
      .error (.invalidLength i s!"struct {structName} with {count} elements")
    else checkItems structName count check (i + 1) fields []

/-- The fields of a struct-shaped document.  `fields` lists the field names in declaration order,
each with whether it is required; `check` decodes one field's value, and is run on every field
present, in the order the document gives them. -/
def fieldsOf (structName : String) (fields : List (String × Bool))
    (check : String → Value → Except DecodeError Unit) : Value → Except DecodeError Fields
  | .object members => do
    let ms := membersOf members
    ms.forM fun (k, x) => check k x
    pure fun name => (ms.find? (·.1 == name)).map (·.2)
  | .array items => do
    checkItems structName fields.length check 0 fields items
    if items.length > fields.length then
      .error (.invalidLength items.length "fewer elements in array")
    else
      pure fun name =>
        match fields.findIdx? (·.1 == name) with
        | some i => items[i]?
        | none => none
  | v => .error (.invalidType v.unexpected s!"struct {structName}")

end Value

namespace Fields

/-- A required field, decoded. -/
def require {α : Type} (fs : Fields) (name : String) (decode : Value → Except DecodeError α) :
    Except DecodeError α :=
  match fs name with
  | some v => decode v
  | none => .error (.missingField name)

/-- A field with a default for when it is absent. -/
def withDefault {α : Type} (fs : Fields) (name : String) (decode : Value → Except DecodeError α)
    (default : α) : Except DecodeError α :=
  match fs name with
  | some v => decode v
  | none => .ok default

end Fields

end Json

end RadarIngest
