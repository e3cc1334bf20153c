import ExplicitImports.Proofs.Existence
import ExplicitImports.Proofs.Explicit
import ExplicitImports.Proofs.Locality

/-!
What is accepted where files must exist. A probe asks whether there is something at a path and not whether that is a
file. So a directory with the name of a file is accepted, even before a file with another extension.
-/
namespace ExplicitImports

namespace FileSystem

def filesOnly (fs : FileSystem) : FileSystem where
  exists_ p := fs.exists_ p && !fs.isDir p
  isDir := fs.isDir

def withDirectory (fs : FileSystem) (q : Path) : FileSystem where
  exists_ := fs.exists_
  isDir p := fs.isDir p || p == q

end FileSystem

theorem FileTree.exists_of_isDir (tree : FileTree) (p : Path) (h : tree.toFileSystem.isDir p = true) :
    tree.toFileSystem.exists_ p = true := by
  have hentry : tree.get? p = some .directory := by simpa [toFileSystem, isDir] using h
  simp [toFileSystem, hentry]

namespace Target

open Specifier

theorem probe_filesOnly_iff {path : Path} {sourceExtension e : Text} {o : Options} {fs : FileSystem}
    (h : probe path sourceExtension o fs = some e) :
    probe path sourceExtension o fs.filesOnly = some e ↔ fs.isDir (path.withSuffix e) = false := by
  constructor
  · intro hfile
    have hexists : (fs.exists_ (path.withSuffix e) && !fs.isDir (path.withSuffix e)) = true :=
      exists_of_probe hfile
    simpa using (Bool.and_eq_true_iff.mp hexists).2
  · intro hfile
    obtain ⟨hexists, before, after, hlist, hbefore⟩ := List.find?_eq_some_iff_append.mp h
    apply List.find?_eq_some_iff_append.mpr
    refine ⟨by simp [FileSystem.filesOnly, hexists, hfile], before, after, hlist, fun a ha => ?_⟩
    have hmissing : fs.exists_ (path.withSuffix a) = false := by simpa using hbefore a ha
    simp [FileSystem.filesOnly, hmissing]

section
variable {s : Text} {r : Referrer} {o : Options} {fs : FileSystem} {t : Target}

theorem length_lt_stemPath_index (path : Path) : path.length < (stemPath path true).length := by
  have hrelative : Path.isAbsolute (Path.ofText indexName) = false := by decide
  have hlength : (Path.ofText indexName).length = 5 := by decide
  unfold stemPath Path.join
  rw [if_pos rfl, hrelative]
  cases hlast : path.getLast? with
  | none =>
    obtain rfl := List.getLast?_eq_none_iff.mp hlast
    simp [hlength]
  | some g =>
    dsimp only
    split
    · contradiction
    · split <;> simp only [List.length_append, List.length_cons, hlength] <;> omega

/-- What is accepted is the path that the specifier leads to only where that is a directory already: an index file has
a longer path, and without an extension to add there must be one to take away. -/
theorem isDir_of_probed_eq {directory : Path} (hd : r.directory = some directory)
    (ht : resolve s .localPath r o fs = some t) (h : probed directory s o fs t = resolvePath directory s) :
    fs.isDir (resolvePath directory s) = true := by
  obtain ⟨hgate, _, _, hchanged⟩ := resolve_localPath_eq_some_iff.mp ht
  unfold probed Path.withSuffix at h
  cases hindex : wantsIndex (resolvePath directory s) o fs with
  | true =>
    have hlonger := length_lt_stemPath_index (resolvePath directory s)
    have hsame := congrArg List.length h
    rw [hindex, List.length_append] at hsame
    omega
  | false =>
    rw [hindex] at h
    have hnone : Path.ofText t.extension = [] := by simpa [stemPath] using h
    have hext : extname s ≠ [] := by
      intro hext
      rw [hext] at hchanged
      exact hchanged (List.map_eq_nil_iff.mp hnone)
    obtain ⟨directory', hd', hdir⟩ := leadsToDir_eq_true_iff.mp (hgate.resolve_left hext).2
    rw [hd] at hd'
    rw [Option.some.inj hd']
    exact hdir

theorem resolve_withDirectory {directory : Path} (hd : r.directory = some directory)
    (ht : resolve s .localPath r o fs = some t) :
    resolve s .localPath r o (fs.withDirectory (probed directory s o fs t)) = some t := by
  rw [← ht]
  apply resolve_localPath_congr
  intro p hp
  obtain rfl : resolvePath directory s = p := Option.some.inj ((resolvePath?_eq_some hd).symm.trans hp)
  refine ⟨?_, rfl, fun _ _ _ _ => rfl⟩
  by_cases hsame : resolvePath directory s = probed directory s o fs t
  · simp [FileSystem.withDirectory, isDir_of_probed_eq hd ht hsame.symm]
  · simp [FileSystem.withDirectory, hsame]

theorem exists_directory_of_resolve (ho : o.ensureFileExists = true)
    (ht : resolve s .localPath r o fs = some t) : ∃ directory, r.directory = some directory := by
  obtain ⟨_, hchoice, _, _⟩ := resolve_localPath_eq_some_iff.mp ht
  cases hd : r.directory with
  | none => simp [choice, ho, Referrer.resolvePath?, hd] at hchoice
  | some directory => exact ⟨directory, rfl⟩

/-- Where files must exist, something exists at the path that is accepted. It is a file exactly if a probe that sees
files alone accepts it too; but the decision does not ask, and is the same if that path is a directory. -/
theorem accepted_path_exists (ho : o.ensureFileExists = true)
    (hfs : ∀ p, fs.isDir p = true → fs.exists_ p = true) (ht : resolve s .localPath r o fs = some t) :
    ∃ directory, r.directory = some directory ∧
      let accepted := probed directory s o fs t
      let path := stemPath (resolvePath directory s) (wantsIndex (resolvePath directory s) o fs)
      fs.exists_ accepted = true ∧
        (fs.isDir accepted = false ↔ probe path r.extension o fs.filesOnly = some t.extension) ∧
        ∃ fs' : FileSystem, (∀ p, fs'.isDir p = true → fs'.exists_ p = true) ∧ fs'.exists_ = fs.exists_ ∧
          (∀ p, p ≠ accepted → fs'.isDir p = fs.isDir p) ∧ fs'.isDir accepted = true ∧
          resolve s .localPath r o fs' = some t := by
  obtain ⟨directory, hd⟩ := exists_directory_of_resolve ho ht
  have hprobe : probe (stemPath (resolvePath directory s) (wantsIndex (resolvePath directory s) o fs))
      r.extension o fs = some t.extension := by
    obtain ⟨_, hchoice, _, _⟩ := resolve_localPath_eq_some_iff.mp ht
    rwa [choice_of_ensure hd ho, takesIndex_eq hd] at hchoice
  have hexists : fs.exists_ (probed directory s o fs t) = true := exists_of_probe hprobe
  refine ⟨directory, hd, hexists, (probe_filesOnly_iff hprobe).symm,
    fs.withDirectory (probed directory s o fs t), fun p hp => ?_, rfl, fun p hp => ?_, ?_,
    resolve_withDirectory hd ht⟩
  · rcases Bool.or_eq_true_iff.mp hp with hp | hp
    · exact hfs p hp
    · rw [beq_iff_eq.mp hp]
      exact hexists
  · simp [FileSystem.withDirectory, hp]
  · simp [FileSystem.withDirectory]

end

theorem directory_accepted_as_file :
    let s := "./foo".toList
    let directory := Path.ofText "/p".toList
    let r := Setting.alone.referrer
    let o := { Options.default with ensureFileExists := true }
    let fs := filesOfDirectory "foo.js".toList
    let t : Target := ⟨"./foo.js".toList, ".js".toList⟩
    (∀ p, fs.isDir p = true → fs.exists_ p = true) ∧ resolve s .localPath r o fs = some t ∧
      fs.exists_ (probed directory s o fs t) = true ∧ fs.isDir (probed directory s o fs t) = true ∧
      probe (resolvePath directory s) r.extension o fs.filesOnly ≠ some t.extension := by
  intro s directory r o fs t
  have hfs : ∀ p, fs.isDir p = true → fs.exists_ p = true := FileTree.exists_of_isDir _
  have ht : resolve s .localPath r o fs = some t := by decide
  have hdir : fs.isDir (probed directory s o fs t) = true := by decide
  have hd : r.directory = some directory := by decide
  obtain ⟨directory', hd', hexists, hfile, _⟩ := accepted_path_exists rfl hfs ht
  obtain rfl : directory = directory' := Option.some.inj (hd.symm.trans hd')
  refine ⟨hfs, ht, hexists, hdir, fun hprobe => ?_⟩
  have hplain : wantsIndex (resolvePath directory s) o fs = false := by decide
  rw [hplain] at hfile
  simp [hfile.mpr hprobe] at hdir

end Target

end ExplicitImports
