import ExplicitImports.Target
import ExplicitImports.Proofs.Path

/-!
Targets, taken apart: which specifiers get one, which extension is put after them, and after which text. All that
is known about a target follows from these descriptions, without opening the decision again.
-/
namespace ExplicitImports.Target

open Specifier

/-! ### What the files say about a local specifier -/

def leadsToDir (s : Text) (r : Referrer) (fs : FileSystem) : Bool :=
  ((r.resolvePath? s).map fs.isDir).getD false

def takesIndex (s : Text) (r : Referrer) (o : Options) (fs : FileSystem) : Bool :=
  ((r.resolvePath? s).map (wantsIndex · o fs)).getD false

def choice (s : Text) (r : Referrer) (o : Options) (fs : FileSystem) : Option Text :=
  if o.ensureFileExists then
    (r.resolvePath? s).bind fun p => probe (stemPath p (takesIndex s r o fs)) r.extension o fs
  else some (optimistic r.extension o)

section
variable {s : Text} {r : Referrer} {o : Options} {fs : FileSystem} {directory : Path}

theorem resolvePath?_eq_some (hd : r.directory = some directory) :
    r.resolvePath? s = some (resolvePath directory s) := by
  simp [Referrer.resolvePath?, hd]

theorem leadsToDir_eq_true_iff :
    leadsToDir s r fs = true ↔
      ∃ directory, r.directory = some directory ∧ fs.isDir (resolvePath directory s) = true := by
  unfold leadsToDir Referrer.resolvePath?
  cases r.directory <;> simp

theorem takesIndex_of_not_leadsToDir (h : leadsToDir s r fs = false) : takesIndex s r o fs = false := by
  unfold leadsToDir at h
  unfold takesIndex wantsIndex
  cases hpath : r.resolvePath? s with
  | none => rfl
  | some p =>
    rw [hpath] at h
    have hdir : fs.isDir p = false := h
    simp [hdir]

theorem takesIndex_eq (hd : r.directory = some directory) :
    takesIndex s r o fs = wantsIndex (resolvePath directory s) o fs := by
  simp [takesIndex, resolvePath?_eq_some hd]

theorem choice_of_ensure (hd : r.directory = some directory) (ho : o.ensureFileExists = true) :
    choice s r o fs =
      probe (stemPath (resolvePath directory s) (takesIndex s r o fs)) r.extension o fs := by
  simp [choice, ho, resolvePath?_eq_some hd]

theorem choice_of_not_ensure (ho : o.ensureFileExists = false) :
    choice s r o fs = some (optimistic r.extension o) := by
  simp [choice, ho]

end

/-! ### Inversion -/

theorem resolve_package_eq_some_iff {s : Text} {entry : Option Text} {r : Referrer} {o : Options}
    {fs : FileSystem} {t : Target} :
    resolve s (.package entry) r o fs = some t ↔
      (extname s = [] ∨ o.isEs (extname s) = true) ∧ t = ofStem s o.esExtensionDefault ∧
        o.esExtensionDefault ≠ extname s := by
  unfold resolve
  dsimp only
  split
  · next hgate =>
    simp only [Bool.and_eq_true, Bool.not_eq_true', List.isEmpty_eq_false_iff] at hgate
    simp [hgate.1, hgate.2]
  · next hgate =>
    have hopen : extname s = [] ∨ o.isEs (extname s) = true := by
      simpa [Classical.or_iff_not_imp_left] using hgate
    simp only [hopen, true_and, Option.filter_eq_some_iff, Option.some.injEq, decide_eq_true_eq]
    constructor
    · rintro ⟨rfl, hne⟩
      exact ⟨rfl, hne⟩
    · rintro ⟨rfl, hne⟩
      exact ⟨rfl, hne⟩

/-- A local specifier gets a target if it has no extension, or one that a loader accepts on a directory; if an
extension is chosen; and if that is not the extension it has. -/
theorem resolve_localPath_eq_some_iff {s : Text} {r : Referrer} {o : Options} {fs : FileSystem} {t : Target} :
    resolve s .localPath r o fs = some t ↔
      (extname s = [] ∨ (o.isEs (extname s) = true ∧ leadsToDir s r fs = true)) ∧
        choice s r o fs = some t.extension ∧ t = ofStem (stem s (takesIndex s r o fs)) t.extension ∧
        t.extension ≠ extname s := by
  have hlocal : resolveLocal s (extname s) r o fs =
      if !(extname s).isEmpty && !leadsToDir s r fs then none
      else (choice s r o fs).map (ofStem (stem s (takesIndex s r o fs))) := rfl
  have htarget : (choice s r o fs).map (ofStem (stem s (takesIndex s r o fs))) = some t ↔
      choice s r o fs = some t.extension ∧ t = ofStem (stem s (takesIndex s r o fs)) t.extension := by
    rw [Option.map_eq_some_iff]
    constructor
    · rintro ⟨e, he, rfl⟩
      exact ⟨he, rfl⟩
    · rintro ⟨he, ht⟩
      exact ⟨_, he, ht.symm⟩
  unfold resolve
  dsimp only
  rw [hlocal]
  by_cases hempty : extname s = []
  · simp [hempty, Option.filter_eq_some_iff, htarget, and_assoc]
  · cases o.isEs (extname s)
    · simp [hempty]
    · cases leadsToDir s r fs
      · simp [hempty]
      · simp [hempty, Option.filter_eq_some_iff, htarget, and_assoc]

theorem exists_resolve_localPath_iff {s : Text} {r : Referrer} {o : Options} {fs : FileSystem} :
    (∃ t, resolve s .localPath r o fs = some t) ↔
      (extname s = [] ∨ (o.isEs (extname s) = true ∧ leadsToDir s r fs = true)) ∧
        ∃ e, choice s r o fs = some e ∧ e ≠ extname s := by
  constructor
  · rintro ⟨t, ht⟩
    obtain ⟨hgate, hchoice, _, hne⟩ := resolve_localPath_eq_some_iff.mp ht
    exact ⟨hgate, _, hchoice, hne⟩
  · rintro ⟨hgate, e, hchoice, hne⟩
    exact ⟨ofStem (stem s (takesIndex s r o fs)) e,
      resolve_localPath_eq_some_iff.mpr ⟨hgate, hchoice, rfl, hne⟩⟩

section
variable {s : Text} {r : Referrer} {o : Options} {fs : FileSystem}

theorem resolve_package_eq (entry : Option Text) :
    resolve s (.package entry) r o fs =
      if (extname s = [] ∨ o.isEs (extname s) = true) ∧ o.esExtensionDefault ≠ extname s then
        some (ofStem s o.esExtensionDefault)
      else none := by
  apply Option.ext
  intro t
  rw [resolve_package_eq_some_iff]
  split
  · next h =>
    rw [Option.some.injEq]
    constructor
    · intro ht
      exact ht.2.1.symm
    · intro ht
      exact ⟨h.1, ht.symm, h.2⟩
  · next h =>
    simp only [reduceCtorEq, iff_false]
    intro ht
    exact h ⟨ht.1, ht.2.2⟩

theorem resolve_localPath_eq :
    resolve s .localPath r o fs =
      if extname s = [] ∨ (o.isEs (extname s) = true ∧ leadsToDir s r fs = true) then
        ((choice s r o fs).filter (· ≠ extname s)).map (ofStem (stem s (takesIndex s r o fs)))
      else none := by
  apply Option.ext
  intro t
  rw [resolve_localPath_eq_some_iff]
  split
  · next h =>
    simp only [h, true_and, Option.map_eq_some_iff, Option.filter_eq_some_iff, decide_eq_true_eq]
    constructor
    · rintro ⟨hchoice, htarget, hne⟩
      exact ⟨t.extension, ⟨hchoice, hne⟩, htarget.symm⟩
    · rintro ⟨e, ⟨hchoice, hne⟩, rfl⟩
      exact ⟨hchoice, rfl, hne⟩
  · next h => simp [h]

end

/-! ### The extension that is chosen -/

theorem mem_extensions_of_mem_candidates {e sourceExtension : Text} {o : Options}
    (he : e ∈ candidates sourceExtension o) : e ∈ o.extensions := by
  rcases List.mem_append.mp he with he | he
  · split at he
    · next hes =>
      obtain rfl := List.mem_singleton.mp he
      exact Options.mem_extensions_of_isEs hes
    · simp at he
  · simp [Options.extensions, he]

theorem optimistic_mem_extensions (sourceExtension : Text) (o : Options) :
    optimistic sourceExtension o ∈ o.extensions := by
  unfold optimistic
  split
  · next hes => exact Options.mem_extensions_of_isEs hes
  · simp [Options.extensions]

theorem choice_mem_extensions {s e : Text} {r : Referrer} {o : Options} {fs : FileSystem}
    (he : choice s r o fs = some e) : e ∈ o.extensions := by
  unfold choice at he
  split at he
  · obtain ⟨p, _, hp⟩ := Option.bind_eq_some_iff.mp he
    exact mem_extensions_of_mem_candidates (List.mem_of_find?_eq_some hp)
  · obtain rfl := Option.some.inj he
    exact optimistic_mem_extensions r.extension o

theorem choice_wellFormed {s e : Text} {r : Referrer} {o : Options} {fs : FileSystem} (ho : o.WellFormed)
    (he : choice s r o fs = some e) : IsExtension e :=
  ho.of_mem (choice_mem_extensions he)

theorem exists_of_probe {path : Path} {sourceExtension e : Text} {o : Options} {fs : FileSystem}
    (h : probe path sourceExtension o fs = some e) : fs.exists_ (path.withSuffix e) = true :=
  List.find?_some (p := fun e => fs.exists_ (path.withSuffix e)) h

theorem isName_indexName : Path.IsName (Path.ofText indexName) where
  ne_nil := by decide
  ne_dot := by decide
  ne_dotDot := by decide
  no_slash := by decide

theorem normalize_stemPath_index (directory : Path) (s : Text) {e : Text} (he : ∀ c ∈ e, (c != '/') = true) :
    ((stemPath (resolvePath directory s) true).withSuffix e).normalize =
      (stemPath (resolvePath directory s) true).withSuffix e := by
  obtain ⟨names, hnames, hpath⟩ := exists_resolvePath_eq_ofNames directory s
  have hindexed : ∀ n ∈ names ++ [Path.ofText indexName], Path.IsName n := by
    intro n hn
    rcases List.mem_append.mp hn with hn | hn
    · exact hnames n hn
    · obtain rfl := List.mem_singleton.mp hn
      exact isName_indexName
  rw [hpath, stemPath, if_pos rfl, Path.ofNames_join hnames isName_indexName]
  exact Path.normalize_ofNames_append hindexed (by simp) (ofText_no_slash he)

theorem lastPiece_stem_index (s : Text) : lastPiece (stem s true) = indexName := by
  have hindex : indexName.all (· != '/') = true := by decide
  have h := lastPiece_append (s.trimSlashes ++ ['/']) (List.all_eq_true.mp hindex)
  have hnil : lastPiece (s.trimSlashes ++ ['/']) = [] := by
    rw [lastPiece, List.rtakeWhile_concat_neg _ _ _ (by simp)]
  rw [hnil] at h
  simpa [stem] using h

end ExplicitImports.Target
