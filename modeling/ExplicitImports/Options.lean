import ExplicitImports.Json.Decoder

/-!
The options of a compilation, and their JSON form.
-/
namespace ExplicitImports

/-- Which bare specifiers may be changed: all or none of them, or those of the named packages and scopes. -/
inductive IncludePackages where
  | all (value : Bool)
  | only (names : List Text)
  deriving DecidableEq, Repr

/-- Whether a specifier is the name itself or a path below it. Trailing slashes of the name do not count, and an
empty name covers nothing. -/
def IncludePackages.covers (name specifier : Text) : Bool :=
  let name := name.trimSlashes
  !name.isEmpty && match name.isPrefixOf? specifier with
    | none => false
    | some [] => true
    | some (c :: _) => c == '/'

def IncludePackages.includes : IncludePackages → Text → Bool
  | .all value, _ => value
  | .only names, specifier => names.any (covers · specifier)

structure Options where
  /-- Change a specifier only if a file with the chosen extension was found. -/
  ensureFileExists : Bool
  tryExtensions : List Text
  esExtensions : List Text
  esExtensionDefault : Text
  includePackages : IncludePackages
  /-- Look an included package up before changing a path in it. -/
  handlePackageModules : Bool
  deriving DecidableEq, Repr

namespace Options

def defaultExtensions : List Text := [['.', 'j', 's'], ['.', 'm', 'j', 's'], ['.', 'c', 'j', 's']]

def default : Options where
  ensureFileExists := false
  tryExtensions := defaultExtensions
  esExtensions := defaultExtensions
  esExtensionDefault := ['.', 'j', 's']
  includePackages := .all false
  handlePackageModules := true

def isEs (o : Options) (extension : Text) : Bool := o.esExtensions.contains extension

end Options

namespace IncludePackages

def ofJson : Json → Except Json.Mismatch IncludePackages
  | .bool b => .ok (.all b)
  | v => match (Json.Decoder.list .text).ofValue v with
    | .ok names => .ok (.only names)
    | .error _ => .error (.noVariant "IncludePackages".toList)

def toJson : IncludePackages → Json
  | .all value => .bool value
  | .only names => .array (names.map .string)

end IncludePackages

namespace Options

def record : Json.Record Options where
  name := "struct FullySpecifiedOptions".toList
  default := default
  mayStopEarly := true
  fields := [
    ⟨"ensureFileExists".toList, Json.Decoder.bool.map fun b o => { o with ensureFileExists := b }, true⟩,
    ⟨"tryExtensions".toList, (Json.Decoder.list .text).map fun xs o => { o with tryExtensions := xs }, true⟩,
    ⟨"esExtensions".toList, (Json.Decoder.list .text).map fun xs o => { o with esExtensions := xs }, true⟩,
    ⟨"esExtensionDefault".toList, Json.Decoder.text.map fun t o => { o with esExtensionDefault := t }, true⟩,
    ⟨"includePackages".toList,
      (Json.Decoder.buffered IncludePackages.ofJson).map fun p o => { o with includePackages := p }, true⟩,
    ⟨"handlePackageModules".toList, Json.Decoder.bool.map fun b o => { o with handlePackageModules := b }, true⟩]

def ofJson : Json → Except Json.Mismatch Options := record.ofValue

def ofText : Text → Except Json.Fault Options := record.ofText.run

def toFields (o : Options) : List (Text × Json) :=
  [("ensureFileExists".toList, .bool o.ensureFileExists),
   ("tryExtensions".toList, .array (o.tryExtensions.map .string)),
   ("esExtensions".toList, .array (o.esExtensions.map .string)),
   ("esExtensionDefault".toList, .string o.esExtensionDefault),
   ("includePackages".toList, o.includePackages.toJson),
   ("handlePackageModules".toList, .bool o.handlePackageModules)]

def toJson (o : Options) : Json := .object o.toFields

end Options

end ExplicitImports
