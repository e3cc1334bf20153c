import ExplicitImports.Proofs.Path

/-!
Paths of local specifiers, one after another. A local specifier leads to a normal path, and from there a relative one
leads where both lead together. So a specifier that goes up stops at the root, and slashes at its end do not matter.
-/
namespace ExplicitImports

namespace Path

/-- An absolute path without detours: unless it is the root, no piece after the first separator is empty, `.` or `..`,
and no separator stands at its end. -/
structure IsNormal (p : Path) : Prop where
  absolute : p.isAbsolute = true
  names : p ≠ [Glyph.slash] → ∀ piece ∈ (p.splitOn Glyph.slash).tail, piece ≠ [] ∧ piece ≠ dot ∧ piece ≠ dotDot
  no_slash_end : p ≠ [Glyph.slash] → p.getLast? ≠ some Glyph.slash

theorem IsName.slash_not_mem {n : Name} (hn : IsName n) : Glyph.slash ∉ n := by
  intro hslash
  simpa using hn.no_slash _ hslash

theorem splitOn_flatMap {names : List Name} (hnames : ∀ n ∈ names, IsName n) :
    (names.flatMap (Glyph.slash :: ·)).splitOn Glyph.slash = [] :: names := by
  induction names using List.reverseRecOn with
  | nil => rfl
  | append_singleton rest n ih =>
    have hn : Glyph.slash ∉ n := (hnames n (by simp)).slash_not_mem
    rw [List.flatMap_append, List.flatMap_singleton, List.splitOn_append_cons_self,
      ih fun m hm => hnames m (by simp [hm]), List.splitOn_eq_singleton hn, List.cons_append]

theorem isNormal_ofNames {names : List Name} (hnames : ∀ n ∈ names, IsName n) : (ofNames names).IsNormal := by
  rcases List.eq_nil_or_concat names with rfl | ⟨rest, n, rfl⟩
  · exact ⟨rfl, fun h => absurd rfl h, fun h => absurd rfl h⟩
  · rw [List.concat_eq_append] at hnames ⊢
    have hn : IsName n := hnames n (by simp)
    refine ⟨?_, fun _ => ?_, fun _ => ?_⟩
    · rcases rest with _ | ⟨m, rest⟩ <;> rfl
    · have hpieces : (ofNames (rest ++ [n])).splitOn Glyph.slash = [] :: (rest ++ [n]) := by
        rw [← splitOn_flatMap hnames, ofNames_concat, List.flatMap_append, List.flatMap_singleton]
      rw [hpieces, List.tail_cons]
      intro piece hpiece
      have hname : IsName piece := hnames piece hpiece
      exact ⟨hname.ne_nil, hname.ne_dot, hname.ne_dotDot⟩
    · rw [ofNames_concat, List.getLast?_append, List.getLast?_cons, List.getLast?_eq_getLast_of_ne_nil hn.ne_nil]
      intro hlast
      have hend : n.getLast hn.ne_nil = Glyph.slash := Option.some.inj hlast
      exact hn.slash_not_mem (hend ▸ List.getLast_mem hn.ne_nil)

end Path

namespace Specifier

open ExplicitImports.Path

def ascent (k : Nat) : Text := (List.replicate k ['/', '.', '.']).flatten

theorem ofText_ascent_succ (k : Nat) : ofText (ascent (k + 1)) = ofText (ascent k) ++ Glyph.slash :: dotDot := by
  rw [ascent, List.replicate_succ', List.flatten_append, ofText_append]
  rfl

theorem walk_ascent (names : List Name) (p : Path) (k : Nat) :
    walk names (p ++ ofText (ascent k)) = (walk names p).take ((walk names p).length - k) := by
  induction k with
  | zero => simp [ascent, ofText]
  | succ k ih =>
    rw [ofText_ascent_succ, ← List.append_assoc, walk_append_slash, ih, walk_dotDot, List.dropLast_eq_take,
      List.take_take, List.length_take]
    congr 1
    omega

/-- A local specifier leads to a normal path, and a relative one leads from there to where both lead with a slash
between them. Steps up leave one name each and end at the root, and slashes at the end lead nowhere. -/
theorem resolvePath_composes (directory : Path) {a b : Text} (ha : isLocal a = true) (hb : b.head? ≠ some '/') :
    let p := resolvePath directory a
    p.IsNormal ∧
      resolvePath p b = resolvePath directory (a ++ '/' :: b) ∧
      (∀ k, resolvePath directory (a ++ ascent k) = ofNames (p.lexical.take (p.lexical.length - k))) ∧
      ∀ k, resolvePath directory (a ++ List.replicate k '/') = p := by
  intro p
  have hne : a ≠ [] := ne_nil_of_isLocal ha
  have hp : p = ofNames (walk (origin directory a) (ofText a)) := resolvePath_eq directory a
  have hnames := isName_of_mem_walk (isName_of_mem_origin directory a) (ofText a)
  have hlexical : p.lexical = walk (origin directory a) (ofText a) := by rw [hp, lexical_ofNames hnames]
  have horigin : origin p b = p.lexical := by
    rcases b with _ | ⟨c, rest⟩
    · rfl
    · have hc : c ≠ '/' := by simpa using hb
      simp [origin, ofText, isAbsolute, Glyph.isSlash, Glyph.slash, hc]
  refine ⟨?_, ?_, fun k => ?_, fun k => ?_⟩
  · rw [hp]
    exact isNormal_ofNames hnames
  · rw [resolvePath_eq, resolvePath_eq, horigin, hlexical, origin_append directory hne, ofText_append,
      ofText_slash_cons, walk_append_slash]
  · rw [resolvePath_eq, origin_append directory hne, ofText_append, walk_ascent, hlexical]
  · have hslashes : ofText (List.replicate k '/') = List.replicate k Glyph.slash := List.map_replicate
    rw [resolvePath_eq, origin_append directory hne, ofText_append, hslashes, walk_append_slashes, hp]

theorem way_beyond_root :
    let directory := ofText "/p".toList
    let a := "../../..//q/./r".toList
    let p := resolvePath directory a
    isLocal a = true ∧ "..//x/".toList.head? ≠ some '/' ∧ p = ofText "/q/r".toList ∧ p.IsNormal ∧
      resolvePath p "..//x/".toList = ofText "/q/x".toList ∧
      resolvePath directory (a ++ '/' :: "..//x/".toList) = ofText "/q/x".toList ∧
      resolvePath directory (a ++ ascent 5) = [Glyph.slash] ∧
      resolvePath directory (a ++ List.replicate 3 '/') = ofText "/q/r".toList := by
  intro directory a p
  have ha : isLocal a = true := by decide
  have hb : "..//x/".toList.head? ≠ some '/' := by decide
  have hp : p = ofText "/q/r".toList := by decide
  have hx : resolvePath p "..//x/".toList = ofText "/q/x".toList := by decide
  obtain ⟨hnormal, hcompose, hascent, hslashes⟩ := resolvePath_composes directory ha hb
  refine ⟨ha, hb, hp, hnormal, hx, hcompose.symm.trans hx, (hascent 5).trans ?_, (hslashes 3).trans hp⟩
  change ofNames (p.lexical.take (p.lexical.length - 5)) = _
  rw [hp]
  decide

end Specifier

end ExplicitImports
