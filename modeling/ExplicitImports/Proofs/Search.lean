import ExplicitImports.FileTree
import ExplicitImports.Package.Resolver
import ExplicitImports.Proofs.Ancestors

/-!
Looking a package up, as one search. The directory of the package is the nearest one outwards; what is taken in it is
the first file of a list that can be written down before any file is looked for.
-/
namespace ExplicitImports.Installation

section
variable (store : PackageStore)

/-! ### The directory of a package -/

def packageAt (name : Text) (directory : Path) : Path := (directory.join nodeModules).join (Path.ofText name)

/-- The nearest directory of a package. A directory of packages is no place to look from, and once a directory of the
package is found nothing further out counts. -/
inductive Nearest (name : Text) : Path → Path → Prop where
  | here {directory : Path} (outside : directory.fileName? ≠ some nodeModules)
      (is_dir : store.isDir (packageAt name directory) = true) : Nearest name directory (packageAt name directory)
  | further {directory outer packageDir : Path}
      (skipped : directory.fileName? = some nodeModules ∨ store.isDir (packageAt name directory) = false)
      (parent : directory.parent? = some outer) (rest : Nearest name outer packageDir) :
      Nearest name directory packageDir

def packageHere? (name : Text) (directory : Path) : Option Path :=
  if directory.fileName? ≠ some nodeModules ∧ store.isDir (packageAt name directory) = true then
    some (packageAt name directory)
  else none

theorem packageDir?_eq_findSome? (name : Text) (directory : Path) :
    packageDir? store name directory = directory.ancestors.findSome? (packageHere? store name) := by
  unfold packageDir?
  congr 1
  funext d
  unfold packageHere? packageAt
  by_cases hname : d.fileName? = some nodeModules <;> simp [hname]

theorem packageDir?_eq (name : Text) (directory : Path) :
    packageDir? store name directory =
      (packageHere? store name directory).or (directory.parent?.bind (packageDir? store name)) := by
  rw [packageDir?_eq_findSome?, Path.ancestors_eq, List.findSome?_cons]
  cases packageHere? store name directory with
  | some packageDir => rfl
  | none =>
    cases directory.parent? with
    | none => rfl
    | some outer => exact (packageDir?_eq_findSome? store name outer).symm

theorem packageDir?_eq_some_iff {name : Text} {directory packageDir : Path} :
    packageDir? store name directory = some packageDir ↔ Nearest store name directory packageDir := by
  constructor
  · intro h
    -- A parent is a path of its own and no part of the path below it, so the induction is on the length.
    induction hlength : directory.length using Nat.strong_induction_on generalizing directory with
    | _ n ih =>
      rw [packageDir?_eq, packageHere?] at h
      split at h
      · next hhere =>
        obtain rfl := Option.some.inj h
        exact .here hhere.1 hhere.2
      · next hskip =>
        obtain ⟨outer, hparent, hrest⟩ := Option.bind_eq_some_iff.mp h
        have hshorter := Path.length_parent?_lt hparent
        refine .further ?_ hparent (ih outer.length (by omega) hrest rfl)
        by_contra hnot
        exact hskip (by simpa [not_or] using hnot)
  · intro h
    induction h with
    | here outside is_dir => rw [packageDir?_eq, packageHere?, if_pos ⟨outside, is_dir⟩, Option.some_or]
    | further skipped parent _ ih =>
      rw [packageDir?_eq, packageHere?, if_neg, Option.none_or, parent, Option.bind_some, ih]
      rintro ⟨outside, is_dir⟩
      rcases skipped with hname | hdir
      · exact outside hname
      · simp [hdir] at is_dir

/-! ### The files in it -/

def withSuffixes (p : Path) : List Path := p :: suffixes.map p.withSuffix

def indexFiles (directory : Path) : List Path :=
  suffixes.map fun s => directory.join (Path.ofText ("index".toList ++ s))

def manifestAt? (directory : Path) : Option Manifest :=
  (store.read? (directory.join (Path.ofText "package.json".toList))).bind fun text => (Manifest.parse text).toOption

def mainAt? (directory : Path) : Option Path :=
  (manifestAt? store directory).bind fun m =>
    (m.module.or m.main).map fun main => directory.join (Path.ofText (Manifest.trimHere main))

def mainFiles (directory : Path) : List Path :=
  match mainAt? store directory with
  | some main => withSuffixes main ++ indexFiles main
  | none => []

def directoryFiles (directory : Path) : List Path :=
  if store.isDir directory then mainFiles store directory ++ indexFiles directory else []

def candidates (packageDir : Path) : Option Text → List Path
  | none => directoryFiles store packageDir
  | some subPath =>
    withSuffixes (packageDir.join (Path.ofText subPath)) ++
      directoryFiles store (packageDir.join (Path.ofText subPath))

theorem file?_eq (p : Path) : file? store p = (withSuffixes p).find? store.isFile := rfl

theorem index?_eq (directory : Path) : index? store directory = (indexFiles directory).find? store.isFile := rfl

theorem value_manifest? (directory : Path) : (manifest? store directory).value = manifestAt? store directory := by
  unfold manifest? manifestAt?
  dsimp only
  cases store.read? (directory.join (Path.ofText "package.json".toList)) with
  | none => rfl
  | some text =>
    dsimp only [Option.bind_some]
    cases Manifest.parse text <;> rfl

theorem value_directory? (directory : Path) :
    (directory? store directory).value = (directoryFiles store directory).find? store.isFile := by
  have hmain : ((manifestAt? store directory).bind fun m => m.mainPath?.bind fun p =>
      (file? store (directory.join p)).or (index? store (directory.join p))) =
      (mainFiles store directory).find? store.isFile := by
    unfold mainFiles mainAt?
    cases hmanifest : manifestAt? store directory with
    | none => rfl
    | some m =>
      simp only [Option.bind_some, Manifest.mainPath?]
      cases m.module.or m.main with
      | none => rfl
      | some main =>
        simp only [Option.map_some, Option.bind_some]
        rw [file?_eq, index?_eq, List.find?_append]
  unfold directory? directoryFiles
  split
  · rw [Traced.value_bind, value_manifest?]
    dsimp only
    rw [Traced.value_pure, hmain, index?_eq, List.find?_append]
  · rfl

theorem value_target? (packageDir : Path) (subPath : Option Text) :
    (target? store packageDir subPath).value = (candidates store packageDir subPath).find? store.isFile := by
  cases subPath with
  | none => exact value_directory? store packageDir
  | some subPath =>
    rw [candidates, List.find?_append, ← file?_eq, ← value_directory?]
    unfold target?
    dsimp only
    cases file? store (packageDir.join (Path.ofText subPath)) <;> rfl

end

theorem value_resolver_eq_some_iff {store : PackageStore} {x : Text} {directory : Path} {entry : PackageEntry} :
    (resolver store x directory).value = some entry ↔
      ∃ p packageDir, PackageSpecifier.parse x = .ok p ∧ Nearest store p.name directory packageDir ∧
        (candidates store packageDir p.subPath).find? store.isFile = some entry.path ∧
        entry.hasSubPath = p.subPath.isSome := by
  unfold resolver
  cases hparse : PackageSpecifier.parse x with
  | error e => simp
  | ok p =>
    simp only [Except.ok.injEq, ← packageDir?_eq_some_iff]
    cases hdir : packageDir? store p.name directory with
    | none => simp [hdir]
    | some packageDir =>
      simp only [Traced.value_bind, Traced.value_pure, value_target?, Option.map_eq_some_iff]
      constructor
      · rintro ⟨path, hpath, rfl⟩
        exact ⟨p, packageDir, rfl, hdir, hpath, rfl⟩
      · rintro ⟨_, _, rfl, hdir', hpath, hsub⟩
        obtain rfl := Option.some.inj (hdir.symm.trans hdir')
        exact ⟨entry.path, hpath, by rw [← hsub]⟩

/-- Looking a package up takes the first file of the list for its nearest directory, and tells a path in the package
from the package. It finds nothing only if the specifier is no bare one, no directory is there, or none of the list is
a file. -/
theorem resolver_takes_first_file (store : PackageStore) (x : Text) (directory : Path) :
    (∀ entry, (resolver store x directory).value = some entry ↔
      ∃ p packageDir, PackageSpecifier.parse x = .ok p ∧ Nearest store p.name directory packageDir ∧
        (candidates store packageDir p.subPath).find? store.isFile = some entry.path ∧
        entry.hasSubPath = p.subPath.isSome) ∧
    ((resolver store x directory).value.isSome = true ↔
      ∃ p packageDir, PackageSpecifier.parse x = .ok p ∧ Nearest store p.name directory packageDir ∧
        ∃ path ∈ candidates store packageDir p.subPath, store.isFile path = true) ∧
    ∀ entry ∈ (resolver store x directory).value, store.isFile entry.path = true := by
  refine ⟨fun entry => value_resolver_eq_some_iff, ?_, fun entry hentry => ?_⟩
  · rw [Option.isSome_iff_exists]
    constructor
    · rintro ⟨entry, hentry⟩
      obtain ⟨p, packageDir, hparse, hnearest, hfind, _⟩ := value_resolver_eq_some_iff.mp hentry
      exact ⟨p, packageDir, hparse, hnearest, entry.path, List.mem_of_find?_eq_some hfind, List.find?_some hfind⟩
    · rintro ⟨p, packageDir, hparse, hnearest, path, hmem, hfile⟩
      have hsome : ((candidates store packageDir p.subPath).find? store.isFile).isSome = true :=
        List.find?_isSome.mpr ⟨path, hmem, hfile⟩
      obtain ⟨first, hfirst⟩ := Option.isSome_iff_exists.mp hsome
      exact ⟨⟨first, p.subPath.isSome⟩,
        value_resolver_eq_some_iff.mpr ⟨p, packageDir, hparse, hnearest, hfirst, rfl⟩⟩
  · obtain ⟨_, _, _, _, hfind, _⟩ := value_resolver_eq_some_iff.mp hentry
    exact List.find?_some hfind

/-- Below `/p` is a package `q` whose manifest names a directory, and below `/p/b` one that is empty. Between the
packages of `/p` stands a directory of packages again, with a `q` of its own. -/
def packageFiles : FileTree :=
  let made := (FileTree.empty.makeDir? (Path.ofText "/p/b/node_modules/q".toList)).getD FileTree.empty
  let described := (made.write (Path.ofText "/p/node_modules/q/package.json".toList)
    "\x7b\"main\":\"./lib\"\x7d".toList).1
  (((described.write (Path.ofText "/p/node_modules/q/lib/index.cjs".toList) []).1.write
    (Path.ofText "/p/node_modules/q/index.js".toList) []).1.write
      (Path.ofText "/p/node_modules/node_modules/q/index.js".toList) []).1

/-- The index file of the directory that the manifest names comes before that of the package. The empty package hides
the other one. From a directory of packages nothing is looked for in another one inside it. -/
theorem search_of_named_directory :
    let store := packageFiles.toStore
    let packageDir := Path.ofText "/p/node_modules/q".toList
    let found := Path.ofText "/p/node_modules/q/lib/index.cjs".toList
    Nearest store "q".toList (Path.ofText "/p/a".toList) packageDir ∧
      (resolver store "q".toList (Path.ofText "/p/a".toList)).value = some ⟨found, false⟩ ∧
      store.isFile found = true ∧ (resolver store "q".toList (Path.ofText "/p/b/c".toList)).value = none ∧
      (Path.ofText "/p/node_modules/".toList).fileName? = some nodeModules ∧
      store.isDir (packageAt "q".toList (Path.ofText "/p/node_modules/".toList)) = true ∧
      Nearest store "q".toList (Path.ofText "/p/node_modules/".toList) packageDir ∧
      (resolver store "q".toList (Path.ofText "/p/node_modules/".toList)).value = some ⟨found, false⟩ := by
  intro store packageDir found
  have hnearest : Nearest store "q".toList (Path.ofText "/p/a".toList) packageDir :=
    (packageDir?_eq_some_iff store).mp (by decide)
  have hsearch := resolver_takes_first_file store "q".toList (Path.ofText "/p/a".toList)
  have hfound : (resolver store "q".toList (Path.ofText "/p/a".toList)).value = some ⟨found, false⟩ :=
    (hsearch.1 ⟨found, false⟩).mpr ⟨⟨"q".toList, none⟩, packageDir, rfl, hnearest, by decide, rfl⟩
  have hskipping : Nearest store "q".toList (Path.ofText "/p/node_modules/".toList) packageDir :=
    (packageDir?_eq_some_iff store).mp (by decide)
  have hinside := resolver_takes_first_file store "q".toList (Path.ofText "/p/node_modules/".toList)
  exact ⟨hnearest, hfound, hsearch.2.2 _ hfound, by decide, by decide, by decide, hskipping,
    (hinside.1 ⟨found, false⟩).mpr ⟨⟨"q".toList, none⟩, packageDir, rfl, hskipping, by decide, rfl⟩⟩

end ExplicitImports.Installation
