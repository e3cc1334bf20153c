import ExplicitImports.Declaration
import ExplicitImports.Package.Resolver
import ExplicitImports.Target

/-!
The decision about one declaration: whether its specifier may be changed, and what it becomes. Decisions look at
the declaration and its surroundings only, never at earlier decisions.
-/
namespace ExplicitImports

/-- Everything a decision may look at beside the declaration. -/
structure Setting where
  referrer : Referrer
  options : Options
  files : FileSystem
  packages : Option PackageResolver

namespace Setting

/-- How an included bare specifier is resolved: only a path in a package is, and where packages are looked up it
must lead to a file. -/
def classifyPackage (s : Setting) (specifier : Text) : Traced (Option SpecifierKind) :=
  if !s.options.includePackages.includes specifier then pure none
  else if !s.options.handlePackageModules then
    match PackageSpecifier.parse specifier with
    | .error _ => pure none
    | .ok p => pure (p.subPath.map fun _ => .package none)
  else
    match s.packages, s.referrer.directory with
    | some resolver, some directory => do
      match ← resolver specifier directory with
      | none => do
        Traced.emit (.unresolved specifier s.referrer.url)
        pure none
      | some entry =>
        pure (if entry.hasSubPath then some (.package (entry.path.toText?.map Specifier.extname)) else none)
    | _, _ => pure none

def classify (s : Setting) (d : Declaration) : Traced (Option SpecifierKind) :=
  match d.specifier? with
  | none => pure none
  | some specifier =>
    if d.typeOnly then pure none
    else if Specifier.isLocal specifier then pure (some .localPath)
    else s.classifyPackage specifier

def evaluate (s : Setting) (d : Declaration) : Traced (Option Target) :=
  match d.specifier? with
  | none => pure none
  | some specifier => do
    match ← s.classify d with
    | none => do
      Traced.emit (.skipped specifier s.referrer.url)
      pure none
    | some kind =>
      match Target.resolve specifier kind s.referrer s.options s.files with
      | none => do
        Traced.emit (.left specifier s.referrer.url)
        pure none
      | some target => pure (some target)

end Setting

end ExplicitImports
