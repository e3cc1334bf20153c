import ExplicitImports.Decision

/-!
Records of changed specifiers, and their JSON form.
-/
namespace ExplicitImports

namespace DeclarationKind

def all : List DeclarationKind := [.importFrom, .exportNamed, .exportAll]

def name : DeclarationKind → Text
  | .importFrom => "import".toList
  | .exportNamed => "exportNamed".toList
  | .exportAll => "exportAll".toList

def ofName? (t : Text) : Option DeclarationKind := all.find? (·.name == t)

def ofName (t : Text) : Except Json.Mismatch DeclarationKind :=
  match ofName? t with
  | some k => .ok k
  | none => .error (.unknownVariant t (all.map name))

/-- A kind is written as its name, or as an object whose only field has that name and no value. -/
def ofJson : Json → Except Json.Mismatch DeclarationKind
  | .string t => ofName t
  | .object [(key, v)] => do
    let k ← ofName key
    match v with
    | .null => .ok k
    | v => .error (.type v.describe "unit".toList)
  | .object _ => .error (.value "map".toList "map with a single key".toList)
  | v => .error (.type v.describe "string or map".toList)

end DeclarationKind

structure SpecifierChange where
  kind : DeclarationKind
  source : Text
  target : Text
  deriving DecidableEq, Repr

namespace SpecifierChange

def record : Json.Record SpecifierChange where
  name := "struct SpecifierRewrite".toList
  default := ⟨.importFrom, [], []⟩
  mayStopEarly := false
  fields := [
    ⟨"kind".toList, (Json.Decoder.buffered DeclarationKind.ofJson).map fun k r => { r with kind := k }, false⟩,
    ⟨"from".toList, Json.Decoder.text.map fun t r => { r with source := t }, false⟩,
    ⟨"to".toList, Json.Decoder.text.map fun t r => { r with target := t }, false⟩]

def ofJson : Json → Except Json.Mismatch SpecifierChange := record.ofValue

def toFields (r : SpecifierChange) : List (Text × Json) :=
  [("kind".toList, .string r.kind.name), ("from".toList, .string r.source), ("to".toList, .string r.target)]

def toJson (r : SpecifierChange) : Json := .object r.toFields

def ofTarget (d : Declaration) (t : Target) : SpecifierChange := ⟨d.kind, d.specifier?.getD [], t.specifier⟩

end SpecifierChange

def Setting.change (s : Setting) (d : Declaration) : Traced (Option Target) := do
  match ← s.evaluate d with
  | none => pure none
  | some target => do
    Traced.emit (.changed (d.specifier?.getD []) target.specifier s.referrer.url)
    pure (some target)

end ExplicitImports
