import ExplicitImports.FileTree
import ExplicitImports.Change

/-!
A run of decisions for one module, while files come and go. All a session remembers of earlier steps are the
files and the records of the specifiers that were changed. What files are is left open: of them a session needs
no more than the setting of a decision. Files in memory are one kind.
-/
namespace ExplicitImports

/-- Where packages come from: nowhere, a table, or an installation, which may have files of its own. -/
inductive PackageSource where
  | none
  | table (t : PackageTable)
  | installation (own : Option FileTree)

def PackageSource.resolver (source : PackageSource) (files : FileTree) : Option PackageResolver :=
  match source with
  | .none => Option.none
  | .table t => some t.resolver
  | .installation own => some (Installation.resolver (own.getD files).toStore)

structure Project where
  referrer : Referrer
  options : Options
  packages : PackageSource

def Project.setting (p : Project) (files : Option FileTree) : Setting where
  referrer := p.referrer
  options := p.options
  files := match files with
    | some tree => tree.toFileSystem
    | none => FileSystem.null
  packages := p.packages.resolver (files.getD FileTree.empty)

structure Session (F : Type := Option FileTree) where
  files : F
  changes : List SpecifierChange

namespace Session

inductive Answer where
  | evaluated (target : Option Target) (count : Nat)
  | changed (target : Option Target) (rebuilt : Option Declaration) (count : Nat)
  | changes (records : List SpecifierChange)
  | done
  | refused
  | noFiles

inductive Step (F : Type := Option FileTree) where
  | evaluate (d : Declaration)
  | change (d : Declaration)
  | changes
  | alter (f : F → F × Answer)

/-- One step, where `setting` is the setting of a decision over given files. -/
def advance {F : Type} (setting : F → Setting) (s : Session F) : Step F → Traced (Session F × Answer)
  | .evaluate d => do
    let target ← (setting s.files).evaluate d
    pure (s, .evaluated target s.changes.length)
  | .change d => do
    match ← (setting s.files).change d with
    | none => pure (s, .changed none none s.changes.length)
    | some target =>
      let changes := s.changes ++ [SpecifierChange.ofTarget d target]
      pure ({ s with changes := changes },
        .changed (some target) (some (d.withSpecifier target.specifier)) changes.length)
  | .changes => pure (s, .changes s.changes)
  | .alter f =>
    let (files, answer) := f s.files
    pure ({ s with files := files }, answer)

def run {F : Type} (setting : F → Setting) (s : Session F) : List (Step F) → Traced (Session F × List Answer)
  | [] => pure (s, [])
  | first :: rest => do
    let (s, answer) ← advance setting s first
    let (s, answers) ← run setting s rest
    pure (s, answer :: answers)

/-! ### Files in memory -/

def Step.changeFiles (f : FileTree → FileTree × Bool) : Step := .alter fun
  | none => (none, .noFiles)
  | some tree =>
    let (tree, ok) := f tree
    (some tree, if ok then .done else .refused)

def attempt (f : FileTree → Option FileTree) (tree : FileTree) : FileTree × Bool :=
  match f tree with
  | some tree => (tree, true)
  | none => (tree, false)

def Step.write (path : Path) (content : Text) : Step := changeFiles fun tree => tree.write path content

def Step.makeDir (path : Path) : Step := changeFiles (attempt (·.makeDir? path))

def Step.remove (path : Path) : Step := changeFiles (attempt (·.remove? path))

def step (p : Project) (s : Session) : Step → Traced (Session × Answer) := advance p.setting s

end Session

end ExplicitImports
