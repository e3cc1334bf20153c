import ExplicitImports.Options
import ExplicitImports.Specifier
import ExplicitImports.Proofs.Text

/-!
Extensions that are put after a specifier, and what is read back from the result. An extension is read back
unless it stands at the start of a segment, where it counts as a hidden name.
-/
namespace ExplicitImports

namespace Specifier

/-- A dot with a name after it, in which there is no further dot and no slash. -/
def IsExtension : Text → Prop
  | '.' :: name => name ≠ [] ∧ ∀ c ∈ name, c ≠ '.' ∧ c ≠ '/'
  | _ => False

instance : DecidablePred IsExtension := fun e =>
  match e with
  | [] => isFalse id
  | c :: name =>
    if h : c = '.' then
      decidable_of_iff ((!name.isEmpty && name.all fun c => c != '.' && c != '/') = true)
        (by subst h; simp [IsExtension])
    else isFalse fun he => by
      unfold IsExtension at he
      split at he
      · simp_all
      · exact he

theorem IsExtension.eq_cons {e : Text} (he : IsExtension e) :
    ∃ name, e = '.' :: name ∧ name ≠ [] ∧ ∀ c ∈ name, c ≠ '.' ∧ c ≠ '/' := by
  unfold IsExtension at he
  split at he
  · exact ⟨_, rfl, he⟩
  · exact he.elim

theorem IsExtension.ne_nil {e : Text} (he : IsExtension e) : e ≠ [] := by
  obtain ⟨name, rfl, _⟩ := he.eq_cons
  simp

theorem IsExtension.no_slash {e : Text} (he : IsExtension e) : ∀ c ∈ e, (c != '/') = true := by
  obtain ⟨name, rfl, _, hname⟩ := he.eq_cons
  intro c hc
  rcases List.mem_cons.mp hc with rfl | hc
  · decide
  · simpa using (hname c hc).2

theorem ne_nil_of_isLocal {s : Text} (hs : isLocal s = true) : s ≠ [] := by
  rintro rfl
  simp [isLocal] at hs

theorem trimSlashes_append_replicate (s : Text) : ∃ k, s = s.trimSlashes ++ List.replicate k '/' := by
  refine ⟨(s.rtakeWhile (· == '/')).length, ?_⟩
  have hslashes : s.rtakeWhile (· == '/') = List.replicate (s.rtakeWhile (· == '/')).length '/' :=
    List.eq_replicate_iff.mpr ⟨rfl, fun c hc => by simpa using List.mem_rtakeWhile_imp hc⟩
  rw [← hslashes]
  exact (List.rdropWhile_append_rtakeWhile (p := (· == '/')) (l := s)).symm

theorem getLast?_trimSlashes (s : Text) : s.trimSlashes.getLast? ≠ some '/' := by
  intro hlast
  have hne : s.trimSlashes ≠ [] := by
    intro hnil
    simp [hnil] at hlast
  have hend : ¬(s.trimSlashes.getLast hne == '/') = true := List.rdropWhile_last_not (· == '/') s hne
  rw [List.getLast?_eq_getLast_of_ne_nil hne, Option.some_inj] at hlast
  simp [hlast] at hend

theorem trimSlashes_append_slashes {core : Text} (hcore : core.getLast? ≠ some '/') (k : Nat) :
    Text.trimSlashes (core ++ List.replicate k '/') = core := by
  change List.rdropWhile (· == '/') (core ++ List.replicate k '/') = core
  induction k with
  | zero =>
    rw [List.replicate_zero, List.append_nil, List.rdropWhile_eq_self_iff]
    intro hne hlast
    rw [List.getLast?_eq_getLast_of_ne_nil hne] at hcore
    exact hcore (congrArg some (by simpa using hlast))
  | succ k ih => rwa [List.replicate_succ', ← List.append_assoc, List.rdropWhile_concat_pos _ _ _ (by rfl)]

def lastPiece (s : Text) : Text := s.rtakeWhile (· != '/')

theorem lastPiece_append {e : Text} (s : Text) (he : ∀ c ∈ e, (c != '/') = true) :
    lastPiece (s ++ e) = lastPiece s ++ e :=
  rtakeWhile_append_of_forall s he

theorem lastPiece_eq_nil_iff {s : Text} (hs : s ≠ []) : lastPiece s = [] ↔ s.getLast? = some '/' := by
  rw [lastPiece, List.rtakeWhile_eq_nil_iff, List.getLast?_eq_getLast_of_ne_nil hs]
  simp [hs]

theorem baseName_append {e : Text} (s : Text) (he : IsExtension e) :
    baseName (s ++ e) = lastPiece s ++ e := by
  have htrim : Text.trimSlashes (s ++ e) = s ++ e := by
    change List.rdropWhile (· == '/') (s ++ e) = s ++ e
    rw [List.rdropWhile_eq_self_iff]
    intro hne
    rw [List.getLast_append_of_ne_nil hne he.ne_nil]
    simpa using he.no_slash _ (List.getLast_mem he.ne_nil)
  change lastPiece (Text.trimSlashes (s ++ e)) = lastPiece s ++ e
  rw [htrim, lastPiece_append s he.no_slash]

theorem extname_append {e : Text} (s : Text) (he : IsExtension e) :
    extname (s ++ e) = if lastPiece s = [] then [] else e := by
  obtain ⟨name, rfl, hne, hname⟩ := he.eq_cons
  have hpass : ∀ c ∈ name.reverse, (c != '.') = true := by
    intro c hc
    simpa using (hname c (List.mem_reverse.mp hc)).1
  have htake : name.reverse.takeWhile (· != '.') = name.reverse := List.takeWhile_eq_self_iff.mpr hpass
  have hdrop : name.reverse.dropWhile (· != '.') = [] := List.dropWhile_eq_nil_iff.mpr hpass
  have hparent : lastPiece s ++ '.' :: name ≠ ['.', '.'] := by
    intro h
    rcases hb : lastPiece s with _ | ⟨c, rest⟩
    · rw [hb] at h
      obtain rfl : name = ['.'] := by simpa using h
      exact (hname '.' (by simp)).1 rfl
    · rw [hb] at h
      have := congrArg List.length h
      have := List.length_pos_of_ne_nil hne
      simp only [List.length_append, List.length_cons, List.length_nil] at *
      omega
  have hrev : (lastPiece s ++ '.' :: name).reverse = name.reverse ++ '.' :: (lastPiece s).reverse := by simp
  unfold extname
  rw [baseName_append s he]
  simp only [hparent, if_false, hrev, List.dropWhile_append, List.takeWhile_append, hdrop, htake]
  rcases hb : lastPiece s with _ | ⟨c, rest⟩
  · simp
  · have hlong : ∃ a more, (c :: rest).reverse = a :: more := by
      rcases h : (c :: rest).reverse with _ | ⟨a, more⟩
      · simp at h
      · exact ⟨a, more, rfl⟩
    obtain ⟨a, more, hlong⟩ := hlong
    simp [hlong]

end Specifier

open Specifier

structure Options.WellFormed (o : Options) : Prop where
  tried : ∀ e ∈ o.tryExtensions, IsExtension e
  accepted : ∀ e ∈ o.esExtensions, IsExtension e
  fallback : IsExtension o.esExtensionDefault

def Options.extensions (o : Options) : List Text := o.esExtensionDefault :: (o.tryExtensions ++ o.esExtensions)

theorem Options.WellFormed.of_mem {o : Options} (ho : o.WellFormed) {e : Text} (he : e ∈ o.extensions) :
    IsExtension e := by
  rcases List.mem_cons.mp he with rfl | he
  · exact ho.fallback
  · rcases List.mem_append.mp he with he | he
    exacts [ho.tried e he, ho.accepted e he]

theorem Options.mem_extensions_of_isEs {o : Options} {e : Text} (he : o.isEs e = true) : e ∈ o.extensions := by
  have hmem : e ∈ o.esExtensions := by simpa [Options.isEs] using he
  simp [Options.extensions, hmem]

theorem Options.default_wellFormed : Options.default.WellFormed where
  tried := by decide
  accepted := by decide
  fallback := by decide

end ExplicitImports
