import ExplicitImports.FileTree
import Mathlib.Data.List.Infix

/-!
Files in memory, one change at a time. Every operation keeps each entry in a directory. Writing one file into its
directory, or removing one file, changes the answers about that file only.
-/
namespace ExplicitImports.FileTree

def Closed (tree : FileTree) : Prop :=
  ∀ place name, (tree.at? (place ++ [name])).isSome = true → tree.at? place = some .directory

def SameBeside (place : List Text) (tree tree' : FileTree) : Prop :=
  ∀ other, other ≠ place → tree'.at? other = tree.at? other

section
variable {tree tree' : FileTree} {place : List Text}

/-- Which entries stay is decided by their place, so a place keeps all or nothing. -/
theorem at?_filter (entries : List (List Text × Entry)) (keep : List Text → Bool) (other : List Text) :
    at? ⟨entries.filter (keep ·.1)⟩ other = if keep other then at? ⟨entries⟩ other else none := by
  unfold at?
  rw [List.find?_filter]
  split
  · next hkeep =>
    congr 2
    funext entry
    by_cases hother : entry.1 = other <;> simp [hother, hkeep]
  · next hdrop =>
    rw [Option.map_eq_none_iff, List.find?_eq_none]
    intro entry _ hentry
    by_cases hother : entry.1 = other <;> simp_all

theorem at?_set (tree : FileTree) (place : List Text) (entry : Entry) (other : List Text) :
    (tree.set place entry).at? other = if other = place then some entry else tree.at? other := by
  split
  · next h => simp [at?, set, h]
  · next h =>
    have hfilter := at?_filter tree.entries (· != place) other
    rw [if_pos (by simpa using h)] at hfilter
    rw [← hfilter]
    unfold at? set
    rw [List.find?_cons_of_neg (by simpa using Ne.symm h)]

theorem sameBeside_set (tree : FileTree) (place : List Text) (entry : Entry) :
    SameBeside place tree (tree.set place entry) := by
  intro other hother
  rw [at?_set, if_neg hother]

theorem at?_below_file (h : tree.Closed) {content : Text} (hfile : tree.at? place = some (.file content))
    {rest : List Text} (hrest : rest ≠ []) : tree.at? (place ++ rest) = none := by
  induction rest using List.reverseRecOn with
  | nil => exact absurd rfl hrest
  | append_singleton rest name ih =>
    rw [← List.append_assoc, Option.eq_none_iff_forall_ne_some]
    intro entry hentry
    have hdir := h _ name (by rw [hentry]; rfl)
    rcases rest with _ | ⟨first, more⟩
    · rw [List.append_nil, hfile] at hdir
      simp at hdir
    · rw [ih (by simp)] at hdir
      simp at hdir

/-! ### Entries in directories -/

theorem closed_empty : empty.Closed := by
  intro place name h
  simp [at?, empty] at h

theorem Closed.set (h : tree.Closed) {entry : Entry}
    (hparent : ∀ outer name, place = outer ++ [name] → tree.at? outer = some .directory)
    (hentry : entry = .directory ∨ tree.at? place ≠ some .directory) : (tree.set place entry).Closed := by
  intro outer name hinner
  rw [at?_set] at hinner ⊢
  have hdir : tree.at? outer = some .directory := by
    split at hinner
    · next hplace => exact hparent outer name hplace.symm
    · exact h outer name hinner
  split
  · next hplace =>
    obtain rfl | hnot := hentry
    · rfl
    · exact absurd (hplace ▸ hdir) hnot
  · exact hdir

theorem Closed.put? (h : tree.Closed) {p : Path} {content : Text} (hput : tree.put? p content = some tree') :
    tree'.Closed := by
  unfold FileTree.put? get? at hput
  split at hput
  · simp at hput
  · next hfile =>
    obtain rfl := Option.some.inj hput
    apply h.set
    · intro outer name hplace
      exact h outer name (by rw [← hplace, hfile]; rfl)
    · simp [hfile]
  · next hnone =>
    split at hput
    · next hdir =>
      split at hput
      · simp at hput
      · obtain rfl := Option.some.inj hput
        apply h.set
        · intro outer name hplace
          rwa [hplace, List.dropLast_concat] at hdir
        · simp [hnone]
    · simp at hput

theorem Closed.makePlaces (h : tree.Closed) {names : List Text}
    (hplace : ∀ outer name, place = outer ++ [name] → tree.at? outer = some .directory)
    (hmade : tree.makePlaces ((stages names).map (place ++ ·)) = some tree') : tree'.Closed := by
  induction names generalizing tree place with
  | nil =>
    simp only [stages, List.map_cons, List.map_nil, List.append_nil, FileTree.makePlaces] at hmade
    split at hmade
    · exact Option.some.inj hmade ▸ h
    · simp at hmade
    · exact Option.some.inj hmade ▸ h.set hplace (.inl rfl)
  | cons first rest ih =>
    have hnext : (stages (first :: rest)).map (place ++ ·) =
        place :: (stages rest).map ((place ++ [first]) ++ ·) := by
      simp [stages]
    rw [hnext, FileTree.makePlaces] at hmade
    split at hmade
    · next hdir =>
      apply ih h _ hmade
      intro outer name hsame
      rwa [← (List.append_inj' hsame rfl).1]
    · simp at hmade
    · apply ih (h.set hplace (.inl rfl)) _ hmade
      intro outer name hsame
      rw [← (List.append_inj' hsame rfl).1, at?_set, if_pos rfl]

theorem Closed.makeDir? (h : tree.Closed) {p : Path} (hmade : tree.makeDir? p = some tree') : tree'.Closed := by
  have hroot : tree.makePlaces ((stages (locate p)).map ([] ++ ·)) = some tree' := by
    simpa [FileTree.makeDir?] using hmade
  apply h.makePlaces _ hroot
  intro outer name hplace
  simp at hplace

theorem Closed.write (h : tree.Closed) (p : Path) (content : Text) : (tree.write p content).1.Closed := by
  unfold FileTree.write
  dsimp only
  split
  · exact h
  · next made hmade =>
    have hclosed : made.Closed := by
      split at hmade
      · exact h.makeDir? hmade
      · exact Option.some.inj hmade ▸ h
    split
    · next hput => exact hclosed.put? hput
    · exact hclosed

theorem at?_remove? {p : Path} (h : tree.remove? p = some tree') (other : List Text) :
    tree'.at? other = if locate p <+: other then none else tree.at? other := by
  unfold remove? at h
  dsimp only at h
  split at h
  · simp at h
  · obtain rfl := Option.some.inj h
    rw [at?_filter tree.entries fun place => !(locate p).isPrefixOf place]
    simp only [← List.isPrefixOf_iff_prefix]
    cases (locate p).isPrefixOf other <;> rfl

theorem Closed.remove? (h : tree.Closed) {p : Path} (hremove : tree.remove? p = some tree') : tree'.Closed := by
  intro place name hinner
  rw [at?_remove? hremove] at hinner ⊢
  split at hinner
  · simp at hinner
  · next hbeside =>
    rw [if_neg fun hbelow => hbeside (hbelow.trans (List.prefix_append _ _))]
    exact h place name hinner

/-! ### One file at a time -/

theorem sameBeside_of_put? {p : Path} {content : Text} (hput : tree.put? p content = some tree') :
    SameBeside (locate p) tree tree' := by
  unfold FileTree.put? at hput
  split at hput
  · simp at hput
  · obtain rfl := Option.some.inj hput
    exact sameBeside_set tree _ _
  · split at hput
    · split at hput
      · simp at hput
      · obtain rfl := Option.some.inj hput
        exact sameBeside_set tree _ _
    · simp at hput

theorem sameBeside_of_remove? (h : tree.Closed) {p : Path} {content : Text}
    (hfile : tree.get? p = some (.file content)) (hremove : tree.remove? p = some tree') :
    SameBeside (locate p) tree tree' := by
  intro other hother
  rw [at?_remove? hremove]
  split
  · next hbelow =>
    obtain ⟨rest, rfl⟩ := hbelow
    have hrest : rest ≠ [] := by
      rintro rfl
      simp at hother
    exact (at?_below_file h hfile hrest).symm
  · rfl

end

end ExplicitImports.FileTree
