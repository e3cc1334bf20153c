import ExplicitImports.Proofs.Package

/-!
Included packages. A name is compared with a specifier as text, yet what it covers is told by segments: a list of names
includes a specifier just if the segments of one of them, trailing slashes aside, are the first segments of the
specifier. So a name never covers another one that merely begins with the same letters.
-/
namespace ExplicitImports

theorem splitOn_prefix_iff [DecidableEq α] (a : α) {xs ys : List α} :
    xs.splitOn a <+: ys.splitOn a ↔ ys = xs ∨ ∃ rest, ys = xs ++ a :: rest := by
  constructor
  · rintro ⟨more, hmore⟩
    have hwhole : [a].intercalate (xs.splitOn a ++ more) = ys := by rw [hmore, List.intercalate_splitOn]
    by_cases hnil : more = []
    · left
      rw [← hwhole, hnil, List.append_nil, List.intercalate_splitOn]
    · right
      refine ⟨[a].intercalate more, ?_⟩
      rw [← hwhole, intercalate_append (List.splitOn_ne_nil a xs) hnil, List.intercalate_splitOn]
  · rintro (rfl | ⟨rest, rfl⟩)
    · exact List.prefix_rfl
    · rw [List.splitOn_append_cons_self]
      exact List.prefix_append _ _

namespace IncludePackages

open Specifier

structure Stripped (name core : Text) : Prop where
  append : ∃ k, name = core ++ List.replicate k '/'
  no_slash_end : core.getLast? ≠ some '/'

theorem stripped_iff {name core : Text} : Stripped name core ↔ core = name.trimSlashes := by
  constructor
  · rintro ⟨⟨k, rfl⟩, hend⟩
    exact (trimSlashes_append_slashes hend k).symm
  · rintro rfl
    exact ⟨trimSlashes_append_replicate name, getLast?_trimSlashes name⟩

theorem covers_iff {name s : Text} :
    covers name s = true ↔
      name.trimSlashes ≠ [] ∧ (s = name.trimSlashes ∨ ∃ rest, s = name.trimSlashes ++ '/' :: rest) := by
  have hafter (rest : Text) : name.trimSlashes.isPrefixOf? s = some rest ↔ s = name.trimSlashes ++ rest := by
    rw [List.isPrefixOf?_eq_some_iff_append_eq, eq_comm]
  simp only [covers, Bool.and_eq_true, Bool.not_eq_true', List.isEmpty_eq_false_iff]
  refine and_congr_right fun _ => ?_
  cases hrest : name.trimSlashes.isPrefixOf? s with
  | none =>
    have hother (rest : Text) : s ≠ name.trimSlashes ++ rest := by
      rw [Ne, ← hafter, hrest]
      simp
    have hself : s ≠ name.trimSlashes := by simpa using hother []
    simp [hself, hother]
  | some rest =>
    obtain rfl := (hafter rest).mp hrest
    cases rest with
    | nil => simp
    | cons c rest => simp

/-- A list of names includes a specifier just if one of them, without the slashes at its end, is not empty and its
segments are the first segments of the specifier. -/
theorem includes_only_iff (names : List Text) (s : Text) :
    (only names).includes s = true ↔
      ∃ name ∈ names, ∃ core, Stripped name core ∧ core ≠ [] ∧ core.splitOn '/' <+: s.splitOn '/' := by
  simp only [includes, List.any_eq_true, stripped_iff, exists_eq_left, covers_iff, splitOn_prefix_iff]

/-- Neither letters that go on nor other segments in between count, and a name of slashes alone covers nothing. -/
example :
    let names : IncludePackages := .only ["@s//a//".toList, "pkg".toList, "//".toList]
    names.includes "@s//a/b".toList = true ∧ names.includes "@s/a/b".toList = false ∧
      names.includes "pkg2/b".toList = false ∧ names.includes "/b".toList = false := by
  decide

end IncludePackages

end ExplicitImports
