import ExplicitImports.FileSystem
import ExplicitImports.Options
import ExplicitImports.Referrer

/-!
The explicit form of a specifier: which extension is added, and whether a directory becomes its index file.
-/
namespace ExplicitImports

inductive SpecifierKind where
  | localPath
  /-- A path in a package, with the extension of the file it was found to lead to. -/
  | package (entryExtension : Option Text)
  deriving DecidableEq, Repr

structure Target where
  specifier : Text
  extension : Text
  deriving DecidableEq, Repr

namespace Target

def ofStem (stem extension : Text) : Target := ⟨stem ++ extension, extension⟩

/-- The extensions that are looked for: the referring module's own if a loader accepts it, then those to try. -/
def candidates (sourceExtension : Text) (o : Options) : List Text :=
  (if o.isEs sourceExtension then [sourceExtension] else []) ++ o.tryExtensions

def probe (path : Path) (sourceExtension : Text) (o : Options) (fs : FileSystem) : Option Text :=
  (candidates sourceExtension o).find? fun e => fs.exists_ (path.withSuffix e)

def optimistic (sourceExtension : Text) (o : Options) : Text :=
  if o.isEs sourceExtension then sourceExtension else o.esExtensionDefault

def indexName : Text := ['i', 'n', 'd', 'e', 'x']

/-- A directory stands for its index file, unless a file of its name with the default extension is beside it. -/
def wantsIndex (path : Path) (o : Options) (fs : FileSystem) : Bool :=
  fs.isDir path && !fs.exists_ (path.withSuffix o.esExtensionDefault)

def stem (specifier : Text) (index : Bool) : Text :=
  if index then specifier.trimSlashes ++ '/' :: indexName else specifier

def stemPath (path : Path) (index : Bool) : Path :=
  if index then path.join (Path.ofText indexName) else path

/-- The explicit form of a local specifier. An extension on anything but a directory is explicit already. -/
def resolveLocal (specifier current : Text) (r : Referrer) (o : Options) (fs : FileSystem) : Option Target :=
  let path := r.resolvePath? specifier
  let isDir := (path.map fs.isDir).getD false
  if !current.isEmpty && !isDir then none
  else
    let index := (path.map (wantsIndex · o fs)).getD false
    let extension :=
      if o.ensureFileExists then path.bind fun p => probe (stemPath p index) r.extension o fs
      else some (optimistic r.extension o)
    extension.map (ofStem (stem specifier index))

/-- The explicit form of a specifier, or nothing if it stays. Specifiers with an extension that no loader accepts
stay, and so do those whose extension would not change. -/
def resolve (specifier : Text) (kind : SpecifierKind) (r : Referrer) (o : Options) (fs : FileSystem) :
    Option Target :=
  let current := Specifier.extname specifier
  if !current.isEmpty && !o.isEs current then none
  else
    let target := match kind with
      | .package _ => some (ofStem specifier o.esExtensionDefault)
      | .localPath => resolveLocal specifier current r o fs
    target.filter (·.extension ≠ current)

end Target

end ExplicitImports
