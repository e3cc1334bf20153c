import ExplicitImports.Text
import Mathlib.Data.List.DropRight

/-!
Laws of lists that are cut into pieces: what stands between separators, and what stands after the last of them.
-/
namespace ExplicitImports

/-! ### Pieces -/

theorem splitOn_append_of_forall [BEq α] {a : α} {xs : List α} (hxs : ∀ x ∈ xs, (x == a) = false)
    {ys first : List α} {others : List (List α)} (hys : ys.splitOn a = first :: others) :
    (xs ++ ys).splitOn a = (xs ++ first) :: others := by
  induction xs with
  | nil => simpa using hys
  | cons x rest ih =>
    have hx : (x == a) = false := hxs x (by simp)
    rw [List.cons_append, List.splitOn_cons_eq_if_modifyHead, ih fun b hb => hxs b (by simp [hb])]
    simp [hx]

theorem exists_splitOn_append [BEq α] {a : α} (xs : List α) {ys : List α} (hys : ∀ x ∈ ys, (x == a) = false) :
    ∃ pieces last, xs.splitOn a = pieces ++ [last] ∧ (xs ++ ys).splitOn a = pieces ++ [last ++ ys] := by
  induction xs with
  | nil => exact ⟨[], [], rfl, List.splitOn_eq_singleton_of_beq_eq_false hys⟩
  | cons x rest ih =>
    obtain ⟨pieces, last, hrest, happend⟩ := ih
    simp only [List.cons_append, List.splitOn_cons_eq_if_modifyHead, hrest, happend]
    split
    · exact ⟨[] :: pieces, last, rfl, rfl⟩
    · rcases pieces with _ | ⟨piece, more⟩
      · exact ⟨[], x :: last, rfl, rfl⟩
      · exact ⟨(x :: piece) :: more, last, rfl, rfl⟩

theorem beq_eq_false_of_mem_splitOn [BEq α] {a : α} {xs piece : List α} (hp : piece ∈ xs.splitOn a) :
    ∀ x ∈ piece, (x == a) = false := by
  induction xs generalizing piece with
  | nil => simp_all
  | cons y rest ih =>
    rw [List.splitOn_cons_eq_if_modifyHead] at hp
    obtain ⟨first, others, hrest⟩ := List.exists_cons_of_ne_nil (List.splitOn_ne_nil a rest)
    rw [hrest] at hp ih
    split at hp
    · rcases List.mem_cons.mp hp with rfl | hp
      · simp
      · exact ih hp
    · next hy =>
      rcases List.mem_cons.mp hp with rfl | hp
      · intro x hx
        rcases List.mem_cons.mp hx with rfl | hx
        · simpa using hy
        · exact ih (by simp) x hx
      · exact ih (by simp [hp])

theorem append_separator_inj {a : α} {xs ys us vs : List α} (hxs : a ∉ xs) (hys : a ∉ ys)
    (h : xs ++ a :: us = ys ++ a :: vs) : xs = ys ∧ us = vs := by
  rcases List.append_eq_append_iff.mp h with ⟨zs, rfl, hzs⟩ | ⟨zs, rfl, hzs⟩
  · rcases zs with _ | ⟨b, zs⟩
    · simpa using hzs
    · obtain rfl := (List.cons.inj hzs).1
      simp at hys
  · rcases zs with _ | ⟨b, zs⟩
    · simpa using hzs.symm
    · obtain rfl := (List.cons.inj hzs).1
      simp at hxs

theorem intercalate_append {a : α} {xs ys : List (List α)} (hxs : xs ≠ []) (hys : ys ≠ []) :
    [a].intercalate (xs ++ ys) = [a].intercalate xs ++ a :: [a].intercalate ys := by
  induction xs with
  | nil => exact absurd rfl hxs
  | cons x xs ih =>
    rcases xs with _ | ⟨x', xs⟩
    · simp [List.intercalate_cons_of_ne_nil hys]
    · have hrest := ih (by simp)
      simp only [List.cons_append, List.intercalate_cons_cons] at hrest ⊢
      rw [hrest]
      simp

/-! ### The last piece -/

theorem eq_rtakeWhile_or (f : α → Bool) (xs : List α) :
    xs = xs.rtakeWhile (!f ·) ∨ ∃ ys a, f a = true ∧ xs = ys ++ a :: xs.rtakeWhile (!f ·) := by
  have hxs := List.rdropWhile_append_rtakeWhile (p := (!f ·)) (l := xs)
  by_cases hd : xs.rdropWhile (!f ·) = []
  · left
    simpa [hd] using hxs.symm
  · right
    have hlast := List.rdropWhile_last_not (!f ·) xs hd
    refine ⟨(xs.rdropWhile (!f ·)).dropLast, (xs.rdropWhile (!f ·)).getLast hd, by simpa using hlast, ?_⟩
    rw [← List.singleton_append, ← List.append_assoc, List.dropLast_append_getLast]
    exact hxs.symm

theorem rtakeWhile_append_of_forall {f : α → Bool} (xs : List α) {ys : List α}
    (hys : ∀ a ∈ ys, f a = true) : (xs ++ ys).rtakeWhile f = xs.rtakeWhile f ++ ys := by
  induction ys using List.reverseRecOn with
  | nil => simp
  | append_singleton ys a ih =>
    rw [← List.append_assoc, List.rtakeWhile_concat_pos _ _ _ (hys a (by simp)),
      ih fun b hb => hys b (by simp [hb]), List.append_assoc]

end ExplicitImports
