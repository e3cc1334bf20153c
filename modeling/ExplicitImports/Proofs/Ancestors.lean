import ExplicitImports.Path
import ExplicitImports.Proofs.Text

/-!
The parents of a path and its last name. A parent is spelled by a beginning of the path's pieces, so it is shorter, and
the walk outwards ends where a path has no parent.
-/
namespace ExplicitImports.Path

theorem ofPieces_append {xs ys : List Name} (hxs : xs ≠ []) (hys : ys ≠ []) :
    ofPieces (xs ++ ys) = ofPieces xs ++ Glyph.slash :: ofPieces ys :=
  intercalate_append hxs hys

theorem ofPieces_splitOn (p : Path) : ofPieces (p.splitOn Glyph.slash) = p := List.intercalate_splitOn Glyph.slash

theorem length_le_ofPieces {pieces : List Name} {n : Name} (hn : n ∈ pieces) :
    n.length ≤ (ofPieces pieces).length := by
  obtain ⟨before, after, rfl⟩ := List.append_of_mem hn
  have hafter : n.length ≤ (ofPieces (n :: after)).length := by
    rcases after with _ | ⟨next, more⟩
    · simp [ofPieces]
    · simp [ofPieces]
  rcases before with _ | ⟨first, more⟩
  · exact hafter
  · rw [ofPieces_append (by simp) (by simp), List.length_append, List.length_cons]
    omega

theorem length_ofPieces_lt {kept dropped : List Name} (hkept : kept ≠ []) (hdropped : dropped ≠ []) :
    (ofPieces kept).length < (ofPieces (kept ++ dropped)).length := by
  rw [ofPieces_append hkept hdropped, List.length_append, List.length_cons]
  omega

theorem splitOn_eq_innermost (p : Path) :
    ∃ blanks, p.splitOn Glyph.slash = (innermost p).1 :: ((innermost p).2.reverse ++ blanks) ∧
      (∀ n ∈ (innermost p).2.head?, isBlank n = false) ∧ ∀ n ∈ blanks, isBlank n = true := by
  unfold innermost
  rcases hpieces : p.splitOn Glyph.slash with _ | ⟨first, rest⟩
  · exact absurd hpieces (List.splitOn_ne_nil _ _)
  · refine ⟨(rest.reverse.takeWhile isBlank).reverse, ?_, fun n hn => ?_, fun n hn => ?_⟩
    · dsimp only
      rw [← List.reverse_append, List.takeWhile_append_dropWhile, List.reverse_reverse]
    · have hstop := List.head?_dropWhile_not isBlank rest.reverse
      rw [Option.mem_def.mp hn] at hstop
      exact hstop
    · exact List.mem_takeWhile_imp (List.mem_reverse.mp hn)

theorem length_le_of_mem_splitOn {p : Path} {n : Name} (hn : n ∈ p.splitOn Glyph.slash) : n.length ≤ p.length := by
  have hle := length_le_ofPieces hn
  rwa [ofPieces_splitOn] at hle

/-- The last component is the last piece that is not blank, and it is a name unless it leads to a parent. -/
theorem fileName?_eq_some_iff {p : Path} {n : Name} :
    p.fileName? = some n ↔ isBlank n = false ∧ n ≠ dotDot ∧
      ∃ front blanks, p.splitOn Glyph.slash = front ++ n :: blanks ∧ ∀ b ∈ blanks, isBlank b = true := by
  have hname (last : Name) : (if last.isEmpty || last == dot || last == dotDot then none else some last) = some n ↔
      isBlank n = false ∧ n ≠ dotDot ∧ last = n := by
    rw [Option.ite_none_left_eq_some]
    constructor
    · rintro ⟨hnot, hlast⟩
      obtain rfl := Option.some.inj hlast
      simpa [isBlank, not_or, and_assoc] using hnot
    · rintro ⟨hblank, hup, rfl⟩
      exact ⟨by simpa [isBlank, not_or, and_assoc, hup] using hblank, rfl⟩
  unfold fileName?
  dsimp only
  rw [hname]
  refine and_congr_right fun hblank => and_congr_right fun _ => ?_
  constructor
  · intro hlast
    obtain ⟨blanks, hpieces, _, hblanks⟩ := splitOn_eq_innermost p
    rcases hinnermost : innermost p with ⟨first, _ | ⟨name, outer⟩⟩
    · rw [hinnermost] at hpieces hlast
      exact ⟨[], blanks, by simpa [← hlast] using hpieces, hblanks⟩
    · rw [hinnermost] at hpieces hlast
      exact ⟨first :: outer.reverse, blanks, by simpa [← hlast] using hpieces, hblanks⟩
  · rintro ⟨front, blanks, hpieces, hblanks⟩
    have hskip (outer : List Name) : (blanks.reverse ++ n :: outer).dropWhile isBlank = n :: outer := by
      rw [List.dropWhile_append_of_pos (by simpa using hblanks), List.dropWhile_cons_of_neg (by simp [hblank])]
    unfold innermost
    rw [hpieces]
    rcases front with _ | ⟨first, front⟩
    · have hnone : blanks.reverse.dropWhile isBlank = [] := by simpa using hblanks
      simp [hnone]
    · simp [hskip]

theorem exists_splitOn_eq_append {p : Path} {first name : Name} {outer : List Name}
    (h : innermost p = (first, name :: outer)) :
    ∃ dropped, name ∈ dropped ∧ name ≠ [] ∧
      p.splitOn Glyph.slash = (first :: (outer.dropWhile isBlank).reverse) ++ dropped := by
  obtain ⟨blanks, hpieces, hinner, _⟩ := splitOn_eq_innermost p
  rw [h] at hpieces hinner
  refine ⟨(outer.takeWhile isBlank).reverse ++ name :: blanks, by simp, ?_, ?_⟩
  · rintro rfl
    simpa [isBlank] using hinner [] rfl
  · have houter : outer.reverse = (outer.dropWhile isBlank).reverse ++ (outer.takeWhile isBlank).reverse := by
      rw [← List.reverse_append, List.takeWhile_append_dropWhile]
    rw [hpieces, List.reverse_cons, houter]
    simp

theorem length_parent?_lt {p q : Path} (h : p.parent? = some q) : q.length < p.length := by
  unfold parent? at h
  rcases hinnermost : innermost p with ⟨first, _ | ⟨name, outer⟩⟩
  · obtain ⟨blanks, hpieces, _, _⟩ := splitOn_eq_innermost p
    rw [hinnermost] at h hpieces
    rcases first with _ | ⟨g, more⟩
    · simp at h
    · obtain rfl := Option.some.inj h
      have hle : (g :: more).length ≤ p.length := length_le_of_mem_splitOn (by simp [hpieces])
      simp only [List.length_cons, List.length_nil] at hle ⊢
      omega
  · obtain ⟨dropped, hmem, hname, hpieces⟩ := exists_splitOn_eq_append hinnermost
    have hlength : p.length = (ofPieces ((first :: (outer.dropWhile isBlank).reverse) ++ dropped)).length := by
      rw [← hpieces, ofPieces_splitOn]
    have hdropped := List.ne_nil_of_mem hmem
    have hshorter := length_ofPieces_lt (List.cons_ne_nil first (outer.dropWhile isBlank).reverse) hdropped
    rw [← hlength] at hshorter
    rw [hinnermost] at h
    rcases first with _ | ⟨g, more⟩
    · dsimp only at h
      split at h
      · next hnone =>
        -- Of a name below the root the separator is left, and the name is gone.
        obtain rfl := Option.some.inj h
        have hle := length_le_ofPieces hmem
        have hpos := List.length_pos_of_ne_nil hname
        rw [hnone, List.reverse_nil, ofPieces_append (by simp) hdropped] at hlength
        simp only [List.length_append, List.length_cons, List.length_nil] at hlength ⊢
        omega
      · obtain rfl := Option.some.inj h
        exact hshorter
    · obtain rfl := Option.some.inj h
      exact hshorter

theorem ancestorsUpTo_eq {n m : Nat} {p : Path} (hn : p.length < n) (hm : p.length < m) :
    ancestorsUpTo n p = ancestorsUpTo m p := by
  induction n generalizing m p with
  | zero => omega
  | succ n ih =>
    obtain ⟨m, rfl⟩ : ∃ k, m = k + 1 := ⟨m - 1, by omega⟩
    unfold ancestorsUpTo
    cases hparent : p.parent? with
    | none => rfl
    | some q =>
      have hlt := length_parent?_lt hparent
      have hrest : ancestorsUpTo n q = ancestorsUpTo m q := ih (by omega) (by omega)
      simp [hrest]

/-- The bound never cuts the walk short: a path comes before the ancestors of its parent. -/
theorem ancestors_eq (p : Path) : p.ancestors = p :: (p.parent?.map ancestors).getD [] := by
  unfold ancestors
  rw [ancestorsUpTo]
  cases hparent : p.parent? with
  | none => rfl
  | some q =>
    have hlt := length_parent?_lt hparent
    have hrest : ancestorsUpTo p.length q = ancestorsUpTo (q.length + 1) q := ancestorsUpTo_eq (by omega) (by omega)
    simp [hrest]

end ExplicitImports.Path
