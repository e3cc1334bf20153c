import ExplicitImports.FileTree
import ExplicitImports.Proofs.Decision

/-!
Specifiers that have an extension already, and directories. A local specifier with an extension that a loader accepts
stays unless it leads to a directory, and a directory without a sibling becomes its index file. The last step of a
decision looks at extensions only. So a path in a package stays if it has the default extension and no other, and a
directory stays if its own name has the extension of the index file.
-/
namespace ExplicitImports.Target

open Specifier

section
variable {s : Text} {r : Referrer} {o : Options} {fs : FileSystem}

/-! ### Specifiers with an accepted extension -/

theorem stem_index_ne (s : Text) : stem s true ≠ s := by
  intro h
  obtain ⟨k, hk⟩ := trimSlashes_append_replicate s
  have htrimmed : s.trimSlashes ++ '/' :: indexName = s.trimSlashes ++ List.replicate k '/' := h.trans hk
  have hmem : 'i' ∈ List.replicate k '/' := by
    rw [← List.append_cancel_left htrimmed]
    decide
  exact absurd (List.eq_of_mem_replicate hmem) (by decide)

/-- With an extension that a loader accepts, a path in a package stays if that is the default extension and gets the
default one behind it otherwise. A local specifier that leads to no directory stays, if it has an extension at all;
and a second extension is put on one only for the sake of a sibling of the directory that it leads to. -/
theorem resolve_of_accepted_extension (hes : o.isEs (extname s) = true) :
    (∀ entry, resolve s (.package entry) r o fs =
      if o.esExtensionDefault = extname s then none else some (ofStem s o.esExtensionDefault)) ∧
    (leadsToDir s r fs = false → resolve s .localPath r o fs =
      if extname s = [] then ((choice s r o fs).filter (· ≠ [])).map (ofStem s) else none) ∧
    (extname s ≠ [] → ∀ t, resolve s .localPath r o fs = some t → t.specifier = s ++ t.extension →
      ∃ directory, r.directory = some directory ∧ fs.isDir (resolvePath directory s) = true ∧
        fs.exists_ ((resolvePath directory s).withSuffix o.esExtensionDefault) = true) := by
  refine ⟨fun entry => ?_, fun hdir => ?_, fun hext t ht hspecifier => ?_⟩
  · rw [resolve_package_eq]
    by_cases hsame : o.esExtensionDefault = extname s <;> simp [hes, hsame]
  · rw [resolve_localPath_eq]
    by_cases hext : extname s = []
    · have hindex : takesIndex s r o fs = false := takesIndex_of_not_leadsToDir hdir
      simp [hext, hindex, stem]
    · simp [hext, hdir]
  · obtain ⟨hgate, _, htarget, _⟩ := resolve_localPath_eq_some_iff.mp ht
    obtain ⟨directory, hdirectory, hdir⟩ := leadsToDir_eq_true_iff.mp (hgate.resolve_left hext).2
    refine ⟨directory, hdirectory, hdir, ?_⟩
    have hindex : takesIndex s r o fs = false := by
      rw [Bool.eq_false_iff]
      intro hindex
      rw [htarget, hindex] at hspecifier
      exact stem_index_ne s (List.append_cancel_right hspecifier)
    rw [takesIndex_eq hdirectory] at hindex
    simpa [wantsIndex, hdir] using hindex

theorem second_extension_in_package :
    let s := "pkg/foo.mjs".toList
    Options.default.isEs (extname s) = true ∧
      resolve s (.package (some ".mjs".toList)) Setting.alone.referrer Options.default FileSystem.null =
        some ⟨"pkg/foo.mjs.js".toList, ".js".toList⟩ := by
  intro s
  have hes : Options.default.isEs (extname s) = true := by decide
  refine ⟨hes, ?_⟩
  rw [(resolve_of_accepted_extension hes).1]
  decide

/-! ### Directories -/

def indexExtension (path : Path) (r : Referrer) (o : Options) (fs : FileSystem) : Option Text :=
  if o.ensureFileExists then probe (path.join (Path.ofText indexName)) r.extension o fs
  else some (optimistic r.extension o)

theorem choice_of_wantsIndex {directory : Path} (hd : r.directory = some directory)
    (hindex : wantsIndex (resolvePath directory s) o fs = true) :
    choice s r o fs = indexExtension (resolvePath directory s) r o fs := by
  unfold choice indexExtension
  simp [resolvePath?_eq_some hd, takesIndex_eq hd, hindex, stemPath]

/-- A directory without a sibling becomes its index file, with the extension that is chosen for that. It stays if none
is found, or if that is the extension of its own name; a name without an extension is never in the way. -/
theorem resolve_of_directory {directory : Path} (hd : r.directory = some directory) (ho : o.WellFormed)
    (hgate : extname s = [] ∨ o.isEs (extname s) = true) (hdir : fs.isDir (resolvePath directory s) = true)
    (hsibling : fs.exists_ ((resolvePath directory s).withSuffix o.esExtensionDefault) = false) :
    let e? := indexExtension (resolvePath directory s) r o fs
    (∀ e, e? = some e → e ≠ extname s →
      resolve s .localPath r o fs = some ⟨s.trimSlashes ++ '/' :: indexName ++ e, e⟩) ∧
    (∀ e, e? = some e → extname s = [] → e ≠ extname s) ∧
    (resolve s .localPath r o fs = none ↔ e? = none ∨ e? = some (extname s)) := by
  intro e?
  have hindex : wantsIndex (resolvePath directory s) o fs = true := by simp [wantsIndex, hdir, hsibling]
  have hchoice : choice s r o fs = e? := choice_of_wantsIndex hd hindex
  have hopen : extname s = [] ∨ (o.isEs (extname s) = true ∧ leadsToDir s r fs = true) := by
    apply hgate.imp_right
    intro hes
    exact ⟨hes, leadsToDir_eq_true_iff.mpr ⟨directory, hd, hdir⟩⟩
  have hresolve : resolve s .localPath r o fs = (e?.filter (· ≠ extname s)).map (ofStem (stem s true)) := by
    rw [resolve_localPath_eq, if_pos hopen, hchoice, takesIndex_eq hd, hindex]
  refine ⟨fun e he hne => ?_, fun e he hext => ?_, ?_⟩
  · rw [hresolve, he]
    simp [hne, ofStem, stem]
  · rw [hext]
    exact (choice_wellFormed ho (hchoice.trans he)).ne_nil
  · rw [hresolve]
    cases e? with
    | none => simp
    | some e => by_cases hne : e = extname s <;> simp [hne]

end

def filesOfDirectory (name : Text) : FileSystem :=
  (FileTree.empty.write (Path.ofText ("/p/".toList ++ name ++ "/index.js".toList)) []).1.toFileSystem

theorem dotted_directory_gets_index :
    let s := "./lib.mjs//".toList
    let directory := Path.ofText "/p".toList
    let r := Setting.alone.referrer
    let fs := filesOfDirectory "lib.mjs".toList
    r.directory = some directory ∧ extname s = ".mjs".toList ∧ fs.isDir (resolvePath directory s) = true ∧
      resolve s .localPath r Options.default fs = some ⟨"./lib.mjs/index.js".toList, ".js".toList⟩ := by
  intro s directory r fs
  have hd : r.directory = some directory := by decide
  have hdir : fs.isDir (resolvePath directory s) = true := by decide
  refine ⟨hd, by decide, hdir, ?_⟩
  exact (resolve_of_directory hd Options.default_wellFormed (.inr (by decide)) hdir (by decide)).1 ".js".toList
    (by decide) (by decide)

theorem directory_of_same_extension_stays :
    let s := "./lib.js".toList
    let directory := Path.ofText "/p".toList
    let r := Setting.alone.referrer
    let fs := filesOfDirectory "lib.js".toList
    isLocal s = true ∧ r.directory = some directory ∧ Options.default.WellFormed ∧
      Options.default.isEs (extname s) = true ∧ fs.isDir (resolvePath directory s) = true ∧
      fs.exists_ ((resolvePath directory s).withSuffix Options.default.esExtensionDefault) = false ∧
      ∀ probes : Bool,
        let o := { Options.default with ensureFileExists := probes }
        indexExtension (resolvePath directory s) r o fs = some ".js".toList ∧
          resolve s .localPath r o fs = none := by
  intro s directory r fs
  exact ⟨by decide, by decide, Options.default_wellFormed, by decide, by decide, by decide, by decide⟩

end ExplicitImports.Target
