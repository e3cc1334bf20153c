import ExplicitImports.FileSystem
import ExplicitImports.Json.Decoder
import ExplicitImports.Trace

/-!
Finding the file a bare specifier leads to. A table holds answers given ahead of time; an installation is
searched for in the `node_modules` directories around the referring module.
-/
namespace ExplicitImports

structure PackageEntry where
  path : Path
  /-- Whether the specifier names something in the package rather than the package. -/
  hasSubPath : Bool
  deriving DecidableEq, Repr

/-- A resolver answers for a specifier and the directory of the module that holds it. -/
abbrev PackageResolver := Text → Path → Traced (Option PackageEntry)

/-! ### Tables -/

/-- Entries by specifier, the latest first. -/
structure PackageTable where
  entries : List (Text × PackageEntry)
  deriving DecidableEq, Repr

namespace PackageTable

def empty : PackageTable := ⟨[]⟩

def namesSubPath (specifier : Text) : Bool :=
  match PackageSpecifier.parse specifier with
  | .ok p => p.subPath.isSome
  | .error _ => false

def add (table : PackageTable) (specifier : Text) (path : Path) : PackageTable :=
  ⟨(specifier, ⟨path, namesSubPath specifier⟩) :: table.entries⟩

def get? (table : PackageTable) (specifier : Text) : Option PackageEntry :=
  (table.entries.find? (·.1 == specifier)).map (·.2)

def resolver (table : PackageTable) : PackageResolver := fun specifier _ => pure (table.get? specifier)

end PackageTable

/-! ### Installations -/

structure Manifest where
  module : Option Text
  main : Option Text
  deriving DecidableEq, Repr

namespace Manifest

def record : Json.Record Manifest where
  name := "struct PackageJson".toList
  default := ⟨none, none⟩
  mayStopEarly := false
  fields := [
    ⟨"module".toList, (Json.Decoder.optional .text).map fun t m => { m with module := t }, true⟩,
    ⟨"main".toList, (Json.Decoder.optional .text).map fun t m => { m with main := t }, true⟩]

def parse : Text → Except Json.Fault Manifest := record.ofText.run

def trimHere : Text → Text
  | '.' :: '/' :: rest => trimHere rest
  | t => t

def mainPath? (m : Manifest) : Option Path := (m.module.or m.main).map fun t => Path.ofText (trimHere t)

end Manifest

namespace Installation

def suffixes : List Text :=
  [['.', 'j', 's'], ['.', 'm', 'j', 's'], ['.', 'c', 'j', 's'], ['.', 'j', 's', 'o', 'n']]

def nodeModules : Name := Path.ofText "node_modules".toList

def packageDir? (store : PackageStore) (name : Text) (directory : Path) : Option Path :=
  directory.ancestors.findSome? fun d =>
    if d.fileName? = some nodeModules then none
    else
      let candidate := (d.join nodeModules).join (Path.ofText name)
      if store.isDir candidate then some candidate else none

/-- The path itself or the path with a suffix, whichever is a file first. -/
def file? (store : PackageStore) (p : Path) : Option Path :=
  (p :: suffixes.map p.withSuffix).find? store.isFile

def index? (store : PackageStore) (directory : Path) : Option Path :=
  (suffixes.map fun s => directory.join (Path.ofText ("index".toList ++ s))).find? store.isFile

def manifest? (store : PackageStore) (directory : Path) : Traced (Option Manifest) :=
  let path := directory.join (Path.ofText "package.json".toList)
  match store.read? path with
  | none => pure none
  | some text =>
    match Manifest.parse text with
    | .ok m => pure (some m)
    | .error f => do
      Traced.emit (.invalidManifest path text f)
      pure none

/-- The main file of a directory: the one its manifest names, or an index file. -/
def directory? (store : PackageStore) (directory : Path) : Traced (Option Path) :=
  if store.isDir directory then do
    let manifest ← manifest? store directory
    let main := manifest.bind fun m => m.mainPath?.bind fun p =>
      (file? store (directory.join p)).or (index? store (directory.join p))
    pure (main.or (index? store directory))
  else pure none

def target? (store : PackageStore) (packageDir : Path) : Option Text → Traced (Option Path)
  | none => directory? store packageDir
  | some subPath =>
    let target := packageDir.join (Path.ofText subPath)
    match file? store target with
    | some p => pure (some p)
    | none => directory? store target

def resolver (store : PackageStore) : PackageResolver := fun specifier directory =>
  match PackageSpecifier.parse specifier with
  | .error e => do
    Traced.emit (.invalidSpecifier e)
    pure none
  | .ok p =>
    match packageDir? store p.name directory with
    | none => pure none
    | some packageDir => do
      let path ← target? store packageDir p.subPath
      pure (path.map fun path => ⟨path, p.subPath.isSome⟩)

end Installation

end ExplicitImports
