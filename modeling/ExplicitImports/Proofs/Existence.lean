import ExplicitImports.FileTree
import ExplicitImports.Proofs.Decision

/-!
Whether the file that a changed specifier names is there. Where files must exist, a decision looks at the path of
the specifier and writes the specifier; both end in the same extension, but only if the extension lands on the same
segment do they mean the same file.
-/
namespace ExplicitImports

open Specifier

def FileSystem.without (fs : FileSystem) (q : Path) : FileSystem where
  exists_ p := fs.exists_ p && p != q
  isDir := fs.isDir

namespace Target

theorem probe_without {path q : Path} {sourceExtension e : Text} {o : Options} {fs : FileSystem}
    (h : probe path sourceExtension o fs = some e) (hq : q ≠ path.withSuffix e) :
    probe path sourceExtension o (fs.without q) = some e := by
  obtain ⟨hexists, before, after, hlist, hbefore⟩ := List.find?_eq_some_iff_append.mp h
  refine List.find?_eq_some_iff_append.mpr ⟨?_, before, after, hlist, fun a ha => ?_⟩
  · simp only [FileSystem.without, Bool.and_eq_true]
    exact ⟨hexists, by simpa using hq.symm⟩
  · have hmissing := hbefore a ha
    simp only [Bool.not_eq_true'] at hmissing
    simp [FileSystem.without, hmissing]

theorem wantsIndex_without {path q : Path} {o : Options} {fs : FileSystem}
    (hq : ¬(fs.isDir path = true ∧ wantsIndex path o fs = false ∧
      q = path.withSuffix o.esExtensionDefault)) :
    wantsIndex path o (fs.without q) = wantsIndex path o fs := by
  simp only [wantsIndex, FileSystem.without] at hq ⊢
  cases hdir : fs.isDir path
  · rfl
  · cases hsibling : fs.exists_ (path.withSuffix o.esExtensionDefault)
    · rfl
    · have hne : path.withSuffix o.esExtensionDefault ≠ q := by
        intro heq
        exact hq ⟨hdir, by simp [hsibling], heq.symm⟩
      simp [hne]

section
variable {s : Text} {r : Referrer} {o : Options} {fs : FileSystem} {t : Target} {directory : Path}

def probed (directory : Path) (s : Text) (o : Options) (fs : FileSystem) (t : Target) : Path :=
  (stemPath (resolvePath directory s) (wantsIndex (resolvePath directory s) o fs)).withSuffix t.extension

/-- The paths that a decision found to exist: the one that was probed, and the sibling for whose sake a directory
was not replaced by its index file. -/
def Found (directory : Path) (s : Text) (o : Options) (fs : FileSystem) (t : Target) (p : Path) : Prop :=
  p = probed directory s o fs t ∨
    (fs.isDir (resolvePath directory s) = true ∧ wantsIndex (resolvePath directory s) o fs = false ∧
      p = (resolvePath directory s).withSuffix o.esExtensionDefault)

theorem exists_of_found (hd : r.directory = some directory) (ho : o.ensureFileExists = true)
    (ht : resolve s .localPath r o fs = some t) {p : Path} (hp : Found directory s o fs t p) :
    fs.exists_ p = true := by
  obtain ⟨_, hchoice, _, _⟩ := resolve_localPath_eq_some_iff.mp ht
  rw [choice_of_ensure hd ho, takesIndex_eq hd] at hchoice
  rcases hp with rfl | ⟨hdir, hindex, rfl⟩
  · exact exists_of_probe hchoice
  · simpa [wantsIndex, hdir] using hindex

/-- Nothing else matters: without a path that was not found to exist, the decision is the same. -/
theorem resolve_without (hd : r.directory = some directory) (ho : o.ensureFileExists = true)
    (ht : resolve s .localPath r o fs = some t) {q : Path} (hq : ¬Found directory s o fs t q) :
    resolve s .localPath r o (fs.without q) = some t := by
  simp only [Found, not_or] at hq
  obtain ⟨hgate, hchoice, htarget, hchanged⟩ := resolve_localPath_eq_some_iff.mp ht
  have hindex : takesIndex s r o (fs.without q) = takesIndex s r o fs := by
    rw [takesIndex_eq hd, takesIndex_eq hd, wantsIndex_without hq.2]
  refine resolve_localPath_eq_some_iff.mpr ⟨?_, ?_, ?_, hchanged⟩
  · simpa [leadsToDir, FileSystem.without] using hgate
  · rw [choice_of_ensure hd ho] at hchoice ⊢
    rw [hindex]
    exact probe_without hchoice (by rw [takesIndex_eq hd]; exact hq.1)
  · rw [hindex]
    exact htarget

theorem resolvePath_eq_probed_iff (hs : s ≠ [])
    (ht : t = ofStem (stem s (wantsIndex (resolvePath directory s) o fs)) t.extension) :
    resolvePath directory t.specifier = probed directory s o fs t ↔
      (probed directory s o fs t).normalize = probed directory s o fs t ∧
        (wantsIndex (resolvePath directory s) o fs = true ∨ Carries directory s t.extension) := by
  have hspecifier : t.specifier = stem s (wantsIndex (resolvePath directory s) o fs) ++ t.extension :=
    congrArg Target.specifier ht
  rw [hspecifier]
  unfold probed
  cases wantsIndex (resolvePath directory s) o fs with
  | true =>
    have hpath := resolvePath_trimSlashes_append directory hs isName_indexName t.extension
    simp only [stem, stemPath, if_true] at hpath ⊢
    rw [hpath]
    simp
  | false =>
    simp only [stem, stemPath, Bool.false_eq_true, if_false, false_or]
    by_cases hcarries : Carries directory s t.extension
    · rw [resolvePath_append hs hcarries]
      simp [hcarries]
    · simp [hcarries, resolvePath_append_ne hs hcarries]

theorem found_iff_of_wellFormed (hs : s ≠ []) (ho : o.WellFormed) (he : IsExtension t.extension)
    (ht : t = ofStem (stem s (wantsIndex (resolvePath directory s) o fs)) t.extension) :
    Found directory s o fs t (resolvePath directory t.specifier) ↔
      wantsIndex (resolvePath directory s) o fs = true ∨ Path.IsName (Path.ofText (lastPiece s)) ∨
        (lastPiece s = [] ∧ resolvePath directory s = Path.ofNames []) := by
  have hprobed := resolvePath_eq_probed_iff hs ht
  rw [← he.carries_iff directory s]
  constructor
  · rintro (h | ⟨_, hindex, h⟩)
    · exact (hprobed.mp h).2
    · right
      by_contra hcarries
      have hspecifier := congrArg Target.specifier ht
      simp only [hindex, ofStem, stem, Bool.false_eq_true, if_false] at hspecifier
      rw [hspecifier] at h
      exact resolvePath_append_ne_withSuffix hs he ho.fallback hcarries h
  · intro h
    left
    refine hprobed.mpr ⟨?_, h⟩
    unfold probed
    cases hindex : wantsIndex (resolvePath directory s) o fs
    · exact normalize_withSuffix_of_carries hs he (by simpa [hindex] using h)
    · exact normalize_stemPath_index directory s he.no_slash

end

end Target

/-- Where files must exist, the file that a changed local specifier names is there if its path is one of those that
the decision found; otherwise the same decision is made over files among which it is missing. The path is the
one that was probed exactly if that is in normal form and the extension lands on its last segment. With
well-formed extensions, all of this says that the specifier got an index file, ends in a name, or ends in a slash
and leads to the root. -/
theorem Setting.exists_target_iff_found {s : Setting} {d : Declaration} {x : Text} {t : Target}
    {directory : Path} (hfiles : s.options.ensureFileExists = true)
    (hdirectory : s.referrer.directory = some directory) (hx : d.specifier? = some x)
    (hlocal : isLocal x = true) (ht : (s.evaluate d).value = some t) :
    let path := resolvePath directory t.specifier
    let found := Target.Found directory x s.options s.files t path
    let probed := Target.probed directory x s.options s.files t
    let index := Target.wantsIndex (resolvePath directory x) s.options s.files
    (found → s.files.exists_ path = true) ∧
      (¬found → ∃ files : FileSystem, files.isDir = s.files.isDir ∧
        ({ s with files := files }.evaluate d).value = some t ∧ files.exists_ path = false) ∧
      (path = probed ↔ probed.normalize = probed ∧ (index = true ∨ Carries directory x t.extension)) ∧
      (s.options.WellFormed → (found ↔ index = true ∨ Path.IsName (Path.ofText (lastPiece x)) ∨
        (lastPiece x = [] ∧ resolvePath directory x = Path.ofNames []))) := by
  obtain ⟨htype, hresolve⟩ := (value_evaluate_local hx hlocal).mp ht
  obtain ⟨_, hchoice, htarget, _⟩ := Target.resolve_localPath_eq_some_iff.mp hresolve
  rw [Target.takesIndex_eq hdirectory] at htarget
  have hne := ne_nil_of_isLocal hlocal
  refine ⟨Target.exists_of_found hdirectory hfiles hresolve, fun hmissing => ?_,
    Target.resolvePath_eq_probed_iff hne htarget,
    fun ho => Target.found_iff_of_wellFormed hne ho (Target.choice_wellFormed ho hchoice) htarget⟩
  refine ⟨s.files.without (resolvePath directory t.specifier), rfl, ?_, by simp [FileSystem.without]⟩
  exact (value_evaluate_local hx hlocal).mpr
    ⟨htype, Target.resolve_without hdirectory hfiles hresolve hmissing⟩

def Setting.besideFoo : Setting where
  referrer := Referrer.ofUrl
    ⟨Url.file, some ⟨[], [], none, none⟩, .segments ["p".toList, "a.js".toList], none, none⟩
  options := { Options.default with ensureFileExists := true }
  files := (FileTree.empty.write (Path.ofText "/p/foo.js".toList) []).1.toFileSystem
  packages := none

/-- A specifier with a slash at its end gets its extension after the slash, where no file was looked for. -/
theorem Setting.target_of_slash_missing :
    let d := Declaration.importFrom [] ⟨"./foo/".toList, none, ⟨7, 15⟩⟩ ⟨false, none, ⟨0, 16⟩⟩
    let t : Target := ⟨"./foo/.js".toList, ".js".toList⟩
    let directory := Path.ofText "/p".toList
    besideFoo.referrer.directory = some directory ∧ (besideFoo.evaluate d).value = some t ∧
      besideFoo.files.exists_ (resolvePath directory t.specifier) = false ∧
      ¬Target.Found directory "./foo/".toList besideFoo.options besideFoo.files t
        (resolvePath directory t.specifier) := by
  intro d t directory
  have hdirectory : besideFoo.referrer.directory = some directory := by decide
  have ht : (besideFoo.evaluate d).value = some t := by decide
  have hmissing : besideFoo.files.exists_ (resolvePath directory t.specifier) = false := by decide
  refine ⟨hdirectory, ht, hmissing, fun hfound => ?_⟩
  have hexists := (exists_target_iff_found (by decide) hdirectory rfl (by decide) ht).1 hfound
  rw [hmissing] at hexists
  contradiction

end ExplicitImports
