import ExplicitImports.Text

/-!
JSON values. Objects keep their fields in the order they were written, because the first bad field is the one
that is reported.
-/
namespace ExplicitImports

/-- A binary floating-point number `± mantissa · 2 ^ exponent`. -/
structure Binary where
  negative : Bool
  mantissa : Nat
  exponent : Int
  deriving DecidableEq, Repr

/-- A number of JSON text: an integer of at most 64 bits, or a binary approximation of anything else. -/
inductive Json.Number where
  | integer (i : Int)
  | binary (b : Binary)
  deriving DecidableEq, Repr

inductive Json where
  | null
  | bool (b : Bool)
  | number (n : Json.Number)
  | string (t : Text)
  | array (items : List Json)
  | object (fields : List (Text × Json))

namespace Json

/-- Puts a field at the end, or, if the name is there already, replaces its value in place. -/
def putField (name : Text) (value : Json) : List (Text × Json) → List (Text × Json)
  | [] => [(name, value)]
  | field :: rest =>
    if field.1 = name then (name, value) :: rest else field :: putField name value rest

def field? (name : Text) : Json → Option Json
  | .object fields => (fields.find? (·.1 == name)).map (·.2)
  | _ => none

def ofNat (n : Nat) : Json := .number (.integer n)

end Json

end ExplicitImports
