import ExplicitImports.Proofs.Decision
import ExplicitImports.Proofs.FileTree
import Mathlib.Data.List.Find

/-!
What a decision asks about files: whether its path is a directory, whether the sibling is there and, where files must
exist, which of the candidates are. Files that answer these questions alike get the same decision, so no other file
that comes, changes or goes makes a difference.
-/
namespace ExplicitImports

open Specifier

namespace Target

structure AgreeAround (path : Path) (sourceExtension : Text) (o : Options) (fs fs' : FileSystem) : Prop where
  isDir : fs'.isDir path = fs.isDir path
  sibling : fs'.exists_ (path.withSuffix o.esExtensionDefault) = fs.exists_ (path.withSuffix o.esExtensionDefault)
  candidate : o.ensureFileExists = true → ∀ e ∈ candidates sourceExtension o, ∀ index,
    fs'.exists_ ((stemPath path index).withSuffix e) = fs.exists_ ((stemPath path index).withSuffix e)

section
variable {s : Text} {r : Referrer} {o : Options} {fs fs' : FileSystem} {path : Path}

theorem AgreeAround.wantsIndex_eq {sourceExtension : Text} (h : AgreeAround path sourceExtension o fs fs') :
    wantsIndex path o fs' = wantsIndex path o fs := by
  rw [wantsIndex, wantsIndex, h.isDir, h.sibling]

theorem AgreeAround.probe_eq {sourceExtension : Text} (h : AgreeAround path sourceExtension o fs fs')
    (ho : o.ensureFileExists = true) (index : Bool) :
    probe (stemPath path index) sourceExtension o fs' = probe (stemPath path index) sourceExtension o fs := by
  unfold probe
  apply List.find?_congr
  intro e he
  exact h.candidate ho e he index

theorem resolve_localPath_congr (h : ∀ path, r.resolvePath? s = some path → AgreeAround path r.extension o fs fs') :
    resolve s .localPath r o fs' = resolve s .localPath r o fs := by
  have hleads : leadsToDir s r fs' = leadsToDir s r fs := by
    unfold leadsToDir
    cases hpath : r.resolvePath? s with
    | none => rfl
    | some path => exact (h path hpath).isDir
  have hindex : takesIndex s r o fs' = takesIndex s r o fs := by
    unfold takesIndex
    cases hpath : r.resolvePath? s with
    | none => rfl
    | some path => exact (h path hpath).wantsIndex_eq
  have hchoice : choice s r o fs' = choice s r o fs := by
    unfold choice
    split
    · next ho =>
      rw [hindex]
      cases hpath : r.resolvePath? s with
      | none => rfl
      | some path => exact (h path hpath).probe_eq ho _
    · rfl
  rw [resolve_localPath_eq, resolve_localPath_eq, hleads, hindex, hchoice]

def asked (path : Path) (sourceExtension : Text) (o : Options) : List Path :=
  path :: path.withSuffix o.esExtensionDefault ::
    if o.ensureFileExists then
      (candidates sourceExtension o).flatMap fun e =>
        [(stemPath path false).withSuffix e, (stemPath path true).withSuffix e]
    else []

theorem agreeAround_of_asked {sourceExtension : Text}
    (h : ∀ p ∈ asked path sourceExtension o, fs'.isDir p = fs.isDir p ∧ fs'.exists_ p = fs.exists_ p) :
    AgreeAround path sourceExtension o fs fs' where
  isDir := (h path (by simp [asked])).1
  sibling := (h _ (by simp [asked])).2
  candidate := by
    intro ho e he index
    apply (h _ _).2
    have hmem : (stemPath path index).withSuffix e ∈ (candidates sourceExtension o).flatMap fun e =>
        [(stemPath path false).withSuffix e, (stemPath path true).withSuffix e] := by
      rw [List.mem_flatMap]
      cases index
      · exact ⟨e, he, by simp⟩
      · exact ⟨e, he, by simp⟩
    simp [asked, ho, hmem]

end

theorem agreeAround_of_sameBeside {path : Path} {sourceExtension : Text} {o : Options} {tree tree' : FileTree}
    {place : List Text} (h : tree.SameBeside place tree')
    (hplace : ∀ p ∈ asked path sourceExtension o, FileTree.locate p ≠ place) :
    AgreeAround path sourceExtension o tree.toFileSystem tree'.toFileSystem := by
  apply agreeAround_of_asked
  intro p hp
  have hget : tree'.get? p = tree.get? p := h _ (hplace p hp)
  exact ⟨congrArg (· == some Entry.directory) hget, congrArg Option.isSome hget⟩

/-- A decision about a package, or without a directory to start from, asks nothing of the files. Any other decision is
the same over files that agree around its path: whether it is a directory, whether the sibling exists and, where files
must exist, whether it or its index file exists with an extension that is looked for. So it stays the same when a file
is written or removed that is none of these. -/
theorem decision_local_to_path (s : Text) (kind : SpecifierKind) (r : Referrer) (o : Options) :
    ((∃ entry, kind = .package entry) ∨ r.directory = none →
      ∀ fs fs', resolve s kind r o fs' = resolve s kind r o fs) ∧
    ∀ directory, r.directory = some directory →
      let path := resolvePath directory s
      (∀ fs fs', AgreeAround path r.extension o fs fs' → resolve s kind r o fs' = resolve s kind r o fs) ∧
      ∀ (tree tree' : FileTree) (q : Path) (content : Text),
        (∀ p ∈ asked path r.extension o, FileTree.locate p ≠ FileTree.locate q) →
        tree.put? q content = some tree' ∨
          (tree.Closed ∧ tree.get? q = some (.file content) ∧ tree.remove? q = some tree') →
        resolve s kind r o tree'.toFileSystem = resolve s kind r o tree.toFileSystem := by
  constructor
  · rintro (⟨entry, rfl⟩ | hnone) fs fs'
    · rfl
    · cases kind with
      | package entry => rfl
      | localPath =>
        apply resolve_localPath_congr
        intro path hpath
        simp [Referrer.resolvePath?, hnone] at hpath
  · intro directory hd path
    have hagree {fs fs' : FileSystem} (h : AgreeAround path r.extension o fs fs') :
        resolve s kind r o fs' = resolve s kind r o fs := by
      cases kind with
      | package entry => rfl
      | localPath =>
        apply resolve_localPath_congr
        intro other hother
        obtain rfl : path = other := Option.some.inj ((resolvePath?_eq_some hd).symm.trans hother)
        exact h
    refine ⟨fun fs fs' => hagree, fun tree tree' q content hbeside hchange => ?_⟩
    have hsame : tree.SameBeside (FileTree.locate q) tree' := by
      rcases hchange with hput | ⟨hclosed, hfile, hremove⟩
      · exact FileTree.sameBeside_of_put? hput
      · exact FileTree.sameBeside_of_remove? hclosed hfile hremove
    exact hagree (agreeAround_of_sameBeside hsame hbeside)

theorem decision_survives_other_files :
    let s := "./foo".toList
    let directory := Path.ofText "/p".toList
    let r := Setting.alone.referrer
    let o := { Options.default with ensureFileExists := true }
    let t : Target := ⟨"./foo.js".toList, ".js".toList⟩
    let other := Path.ofText "/p/bar.js".toList
    let tree := (FileTree.empty.write (Path.ofText "/p/foo.js".toList) []).1
    let more := tree.set (FileTree.locate other) (.file [])
    let less := FileTree.mk (more.entries.filter (!(FileTree.locate other).isPrefixOf ·.1))
    let bare := (FileTree.empty.makeDir? directory).getD FileTree.empty
    tree.put? other [] = some more ∧ more.remove? other = some less ∧ more.Closed ∧
      (∀ p ∈ asked (resolvePath directory s) r.extension o, FileTree.locate p ≠ FileTree.locate other) ∧
      resolve s .localPath r o tree.toFileSystem = some t ∧ resolve s .localPath r o more.toFileSystem = some t ∧
      resolve s .localPath r o less.toFileSystem = some t ∧ resolve s .localPath r o bare.toFileSystem = none := by
  intro s directory r o t other tree more less bare
  have hd : r.directory = some directory := by decide
  have hput : tree.put? other [] = some more := by decide
  have hremove : more.remove? other = some less := by decide
  have hclosed : more.Closed := (FileTree.closed_empty.write _ _).put? hput
  have hasked : ∀ p ∈ asked (resolvePath directory s) r.extension o, FileTree.locate p ≠ FileTree.locate other := by
    decide
  have ht : resolve s .localPath r o tree.toFileSystem = some t := by decide
  have hlocal := ((decision_local_to_path s .localPath r o).2 directory hd).2
  have hmore : resolve s .localPath r o more.toFileSystem = some t :=
    (hlocal tree more other [] hasked (.inl hput)).trans ht
  refine ⟨hput, hremove, hclosed, hasked, ht, hmore, ?_, by decide⟩
  exact (hlocal more less other [] hasked (.inr ⟨hclosed, by decide, hremove⟩)).trans hmore

end Target

end ExplicitImports
