import ExplicitImports.Specifier
import ExplicitImports.Proofs.Extension

/-!
Paths as walks. Reading a path without looking at any file walks along its segments from the root, so that the
path of a longer specifier is the walk of the shorter one continued. The main results say to which path a
specifier leads after text was put at its end.
-/
namespace ExplicitImports

namespace Path

/-! ### Segments -/

@[simp] theorem isSlash_slash : Glyph.slash.isSlash = true := rfl

theorem eq_slash {g : Glyph} (hg : g.isSlash = true) : g = Glyph.slash := by
  simpa [Glyph.isSlash] using hg

theorem segments_append_slash (p q : Path) :
    segments (p ++ Glyph.slash :: q) = segments p ++ segments q := by
  simp [segments, List.splitOn_append_cons_self]

@[simp] theorem segments_nil : segments [] = [] := rfl

theorem segments_slash_end (p : Path) : segments (p ++ [Glyph.slash]) = segments p := by
  simpa using segments_append_slash p []

structure IsName (n : Name) : Prop where
  ne_nil : n ≠ []
  ne_dot : n ≠ dot
  ne_dotDot : n ≠ dotDot
  no_slash : ∀ g ∈ n, g.isSlash = false

theorem segments_of_no_slash {n : Name} (hne : n ≠ []) (hn : ∀ g ∈ n, g.isSlash = false) :
    segments n = [n] := by
  simp [segments, List.splitOn_eq_singleton_of_beq_eq_false hn, hne]

theorem no_slash_of_mem_segments {p : Path} {n : Name} (hn : n ∈ segments p) :
    ∀ g ∈ n, g.isSlash = false :=
  beq_eq_false_of_mem_splitOn (List.mem_of_mem_filter hn)

theorem ne_nil_of_mem_segments {p : Path} {n : Name} (hn : n ∈ segments p) : n ≠ [] := by
  simpa using (List.mem_filter.mp hn).2

/-! ### Walks -/

def walk (names : List Name) (p : Path) : List Name := p.segments.foldl enter names

theorem lexical_eq_walk (p : Path) : p.lexical = walk [] p := rfl

@[simp] theorem walk_nil (names : List Name) : walk names [] = names := rfl

theorem walk_append_slash (names : List Name) (p q : Path) :
    walk names (p ++ Glyph.slash :: q) = walk (walk names p) q := by
  simp [walk, segments_append_slash]

theorem walk_slash_end (names : List Name) (p : Path) : walk names (p ++ [Glyph.slash]) = walk names p := by
  simp [walk, segments_slash_end]

theorem walk_slash (names : List Name) (q : Path) : walk names (Glyph.slash :: q) = walk names q := by
  simpa using walk_append_slash names [] q

theorem enter_of_isName {names : List Name} {n : Name} (hn : IsName n) : enter names n = names ++ [n] := by
  simp [enter, hn.ne_dot, hn.ne_dotDot]

theorem walk_of_no_slash (names : List Name) {n : Name} (hn : ∀ g ∈ n, g.isSlash = false) :
    walk names n = if n = [] then names else enter names n := by
  split
  · next h => simp [h]
  · next h => simp [walk, segments_of_no_slash h hn]

theorem walk_isName (names : List Name) {n : Name} (hn : IsName n) : walk names n = names ++ [n] := by
  rw [walk_of_no_slash names hn.no_slash, if_neg hn.ne_nil, enter_of_isName hn]

theorem isName_of_mem_foldl_enter {segments names : List Name}
    (hsegments : ∀ n ∈ segments, n ≠ [] ∧ ∀ g ∈ n, g.isSlash = false) (hnames : ∀ n ∈ names, IsName n) :
    ∀ n ∈ segments.foldl enter names, IsName n := by
  induction segments generalizing names with
  | nil => simpa using hnames
  | cons s rest ih =>
    rw [List.foldl_cons]
    apply ih fun n hn => hsegments n (by simp [hn])
    intro n hn
    unfold enter at hn
    split at hn
    · exact hnames n hn
    · split at hn
      · exact hnames n (List.dropLast_subset _ hn)
      · next hdot hdotDot =>
        rcases List.mem_append.mp hn with hn | hn
        · exact hnames n hn
        · obtain rfl := List.mem_singleton.mp hn
          exact ⟨(hsegments n (by simp)).1, hdot, hdotDot, (hsegments n (by simp)).2⟩

theorem isName_of_mem_walk {names : List Name} (hnames : ∀ n ∈ names, IsName n) (p : Path) :
    ∀ n ∈ walk names p, IsName n :=
  isName_of_mem_foldl_enter (fun _ hn => ⟨ne_nil_of_mem_segments hn, no_slash_of_mem_segments hn⟩) hnames

theorem isName_of_mem_lexical (p : Path) : ∀ n ∈ p.lexical, IsName n :=
  isName_of_mem_walk (by simp) p

/-! ### Normal paths -/

theorem ofNames_concat (names : List Name) (n : Name) :
    ofNames (names ++ [n]) = names.flatMap (Glyph.slash :: ·) ++ Glyph.slash :: n := by
  rcases names with _ | ⟨m, rest⟩
  · simp [ofNames]
  · simp [ofNames]

theorem walk_flatMap {names : List Name} (hnames : ∀ n ∈ names, IsName n) (start : List Name) :
    walk start (names.flatMap (Glyph.slash :: ·)) = start ++ names := by
  induction names using List.reverseRecOn with
  | nil => simp
  | append_singleton rest n ih =>
    rw [List.flatMap_append, List.flatMap_singleton, walk_append_slash,
      ih fun m hm => hnames m (by simp [hm]), walk_isName _ (hnames n (by simp)), List.append_assoc]

theorem lexical_ofNames_concat_append {names : List Name} (hnames : ∀ n ∈ names, IsName n) (n : Name)
    (q : Path) : lexical (ofNames (names ++ [n]) ++ q) = walk names (n ++ q) := by
  rw [ofNames_concat, List.append_assoc, List.cons_append, lexical_eq_walk, walk_append_slash,
    walk_flatMap hnames, List.nil_append]

theorem lexical_root_append (q : Path) : lexical (ofNames [] ++ q) = walk [] q :=
  walk_slash [] q

theorem lexical_ofNames {names : List Name} (hnames : ∀ n ∈ names, IsName n) :
    lexical (ofNames names) = names := by
  rcases List.eq_nil_or_concat names with rfl | ⟨rest, n, rfl⟩
  · rfl
  · have hrest : ∀ m ∈ rest, IsName m := fun m hm => hnames m (by simp [hm])
    have h := lexical_ofNames_concat_append hrest n []
    rw [List.append_nil, List.append_nil, walk_isName _ (hnames n (by simp))] at h
    rw [List.concat_eq_append, h]

@[simp] theorem lexical_normalize (p : Path) : lexical (normalize p) = lexical p :=
  lexical_ofNames (isName_of_mem_lexical p)

theorem normalize_normalize (p : Path) : normalize (normalize p) = normalize p := by
  rw [normalize, lexical_normalize, normalize]

theorem normalize_ofNames {names : List Name} (hnames : ∀ n ∈ names, IsName n) :
    normalize (ofNames names) = ofNames names := by
  rw [normalize, lexical_ofNames hnames]

theorem ofNames_concat_append (names : List Name) (n : Name) (q : Path) :
    ofNames (names ++ [n]) ++ q = ofNames (names ++ [n ++ q]) := by
  simp [ofNames_concat]

theorem IsName.append {n : Name} (hn : IsName n) {q : Name} (hq : ∀ g ∈ q, g.isSlash = false) :
    IsName (n ++ q) where
  ne_nil := by simp [hn.ne_nil]
  ne_dot := by
    intro h
    rcases List.append_eq_singleton_iff.mp h with ⟨h, _⟩ | ⟨h, _⟩
    exacts [hn.ne_nil h, hn.ne_dot h]
  ne_dotDot := by
    intro h
    rcases List.append_eq_cons_iff.mp h with ⟨h, _⟩ | ⟨rest, h, hrest⟩
    · exact hn.ne_nil h
    · rcases List.append_eq_singleton_iff.mp hrest.symm with ⟨rfl, _⟩ | ⟨rfl, _⟩
      exacts [hn.ne_dot h, hn.ne_dotDot h]
  no_slash := by
    intro g hg
    rcases List.mem_append.mp hg with hg | hg
    exacts [hn.no_slash g hg, hq g hg]

theorem normalize_ofNames_append {names : List Name} (hnames : ∀ n ∈ names, IsName n) (hne : names ≠ [])
    {q : Name} (hq : ∀ g ∈ q, g.isSlash = false) :
    normalize (ofNames names ++ q) = ofNames names ++ q := by
  obtain ⟨rest, n, rfl⟩ := (List.eq_nil_or_concat names).resolve_left hne
  rw [List.concat_eq_append] at hnames ⊢
  rw [ofNames_concat_append]
  apply normalize_ofNames
  intro m hm
  rcases List.mem_append.mp hm with hm | hm
  · exact hnames m (by simp [hm])
  · obtain rfl := List.mem_singleton.mp hm
    exact (hnames n (by simp)).append hq

theorem ofNames_join {names : List Name} (hnames : ∀ n ∈ names, IsName n) {n : Name} (hn : IsName n) :
    (ofNames names).join n = ofNames (names ++ [n]) := by
  have hrelative : isAbsolute n = false := by
    rcases n with _ | ⟨g, rest⟩
    · rfl
    · exact hn.no_slash g (by simp)
  rcases List.eq_nil_or_concat names with rfl | ⟨rest, m, rfl⟩
  · simp [join, hrelative, ofNames]
  · rw [List.concat_eq_append] at hnames ⊢
    have hm : IsName m := hnames m (by simp)
    have hlast : (ofNames (rest ++ [m])).getLast? = some (m.getLast hm.ne_nil) := by
      rw [ofNames_concat, List.getLast?_append, List.getLast?_cons,
        List.getLast?_eq_getLast_of_ne_nil hm.ne_nil]
      rfl
    have hend : (m.getLast hm.ne_nil).isSlash = false := hm.no_slash _ (List.getLast_mem hm.ne_nil)
    simp only [join, hrelative, hlast, hend, Bool.false_eq_true, if_false]
    rw [ofNames_concat (rest ++ [m]), ofNames_concat, List.flatMap_append, List.flatMap_singleton]

/-! ### Joins -/

theorem lexical_join (d q : Path) :
    lexical (d.join q) = walk (if q.isAbsolute then [] else lexical d) q := by
  unfold join
  split
  · rfl
  · rcases List.eq_nil_or_concat d with rfl | ⟨rest, g, rfl⟩
    · rfl
    · rw [List.concat_eq_append, List.getLast?_concat]
      dsimp only
      split
      · next hg =>
        rw [eq_slash hg, lexical_eq_walk, List.append_assoc, List.singleton_append, walk_append_slash,
          lexical_eq_walk, walk_slash_end]
      · rw [lexical_eq_walk, walk_append_slash, lexical_eq_walk]

/-! ### Text at the end of a walk

A path that is put at the end of another one joins its last piece, unless it starts with a separator. The walk
along both is the walk along the second from the normal form of the first only if that last piece is still there
in the normal form, at its end. -/

/-- Whether a path put after the piece `piece`, which was reached from `before`, continues the last name of the
normal form: because it starts a segment of its own, because the piece is that name, or because both are the root. -/
def Continues (before : List Name) (piece : Name) (q : Path) : Prop :=
  (q = [] ∨ q.isAbsolute = true) ∨ IsName piece ∨ (piece = [] ∧ before = [])

theorem walk_append_of_continues {before : List Name} (hbefore : ∀ n ∈ before, IsName n) {piece : Name}
    {q : Path} (h : Continues before piece q) :
    walk before (piece ++ q) = lexical (ofNames (walk before piece) ++ q) := by
  have hnames := isName_of_mem_walk hbefore piece
  rcases h with (rfl | hq) | hname | ⟨rfl, rfl⟩
  · rw [List.append_nil, List.append_nil, lexical_ofNames hnames]
  · rcases q with _ | ⟨g, rest⟩
    · simp [isAbsolute] at hq
    · rw [eq_slash hq, walk_append_slash, lexical_eq_walk, walk_append_slash, ← lexical_eq_walk,
        lexical_ofNames hnames]
  · rw [walk_isName before hname, lexical_ofNames_concat_append hbefore]
  · rw [List.nil_append, walk_nil, lexical_root_append]

theorem segments_flatMap {names : List Name} (hnames : ∀ n ∈ names, IsName n) :
    segments (names.flatMap (Glyph.slash :: ·)) = names := by
  induction names using List.reverseRecOn with
  | nil => rfl
  | append_singleton rest n ih =>
    have hn : IsName n := hnames n (by simp)
    rw [List.flatMap_append, List.flatMap_singleton, segments_append_slash,
      ih fun m hm => hnames m (by simp [hm]), segments_of_no_slash hn.ne_nil hn.no_slash]

theorem segments_ofNames {names : List Name} (hnames : ∀ n ∈ names, IsName n) :
    segments (ofNames names) = names := by
  rcases names with _ | ⟨n, rest⟩
  · rfl
  · exact segments_flatMap hnames

theorem foldl_enter_of_isName {names : List Name} (hnames : ∀ n ∈ names, IsName n) (start : List Name) :
    names.foldl enter start = start ++ names := by
  induction names generalizing start with
  | nil => simp
  | cons n rest ih =>
    rw [List.foldl_cons, enter_of_isName (hnames n (by simp)), ih fun m hm => hnames m (by simp [hm]),
      List.append_assoc, List.singleton_append]

theorem exists_segments_append {q : Path} (hq : ¬(q = [] ∨ q.isAbsolute = true)) :
    ∃ first others, first ≠ [] ∧
      ∀ n : Name, (∀ g ∈ n, g.isSlash = false) → segments (n ++ q) = (n ++ first) :: others := by
  rcases q with _ | ⟨g, rest⟩
  · simp at hq
  · have hg : g.isSlash = false := by simpa [isAbsolute] using hq
    obtain ⟨piece, pieces, hrest⟩ := List.exists_cons_of_ne_nil (List.splitOn_ne_nil Glyph.slash rest)
    have hsplit : (g :: rest).splitOn Glyph.slash = (g :: piece) :: pieces := by
      rw [List.splitOn_cons_eq_if_modifyHead, if_neg (by simpa [Glyph.isSlash] using hg), hrest]
      rfl
    refine ⟨g :: piece, pieces.filter (!·.isEmpty), by simp, fun n hn => ?_⟩
    rw [segments, splitOn_append_of_forall hn hsplit]
    simp

theorem segments_ofNames_append {names : List Name} (hnames : ∀ n ∈ names, IsName n) {q : Path}
    {first : Name} {others : List Name}
    (hq : ∀ n : Name, (∀ g ∈ n, g.isSlash = false) → segments (n ++ q) = (n ++ first) :: others) :
    segments (ofNames names ++ q) = names.dropLast ++ (names.getLastD [] ++ first) :: others := by
  rcases List.eq_nil_or_concat names with rfl | ⟨rest, n, rfl⟩
  · exact (segments_append_slash [] q).trans (hq [] (by simp))
  · rw [List.concat_eq_append] at hnames ⊢
    have hrest : ∀ m ∈ rest, IsName m := fun m hm => hnames m (by simp [hm])
    rw [ofNames_concat, List.append_assoc, List.cons_append, segments_append_slash,
      segments_flatMap hrest, hq n (hnames n (by simp)).no_slash]
    simp

theorem walk_dot (names : List Name) : walk names dot = names := by
  rw [walk_of_no_slash names (by decide)]
  rfl

theorem walk_dotDot (names : List Name) : walk names dotDot = names.dropLast := by
  rw [walk_of_no_slash names (by decide)]
  rfl

/-- One step along a piece that is no name, made longer, never ends where the normal form made longer does: it
enters a name too many, or leaves the name that should have been made longer. -/
theorem enter_append_ne {before : List Name} {piece first : Name} (hfirst : first ≠ [])
    (hpiece : (piece = [] ∧ before ≠ []) ∨ piece = dot ∨ piece = dotDot) :
    enter before (piece ++ first) ≠
      (walk before piece).dropLast ++ [(walk before piece).getLastD [] ++ first] := by
  have hlonger : ∀ n : Name, n ++ first ≠ n := by simp [hfirst]
  intro h
  rcases hpiece with ⟨rfl, hne⟩ | rfl | rfl
  · obtain ⟨rest, n, rfl⟩ := (List.eq_nil_or_concat before).resolve_left hne
    simp only [List.nil_append, walk_nil, List.concat_eq_append, enter] at h
    split at h
    · exact hlonger n (by simpa using h.symm)
    · split at h <;> simpa using congrArg List.length h
  · rw [walk_dot] at h
    simp only [enter, hlonger, if_false] at h
    split at h
    · simpa using congrArg List.length h
    · rcases before with _ | ⟨n, rest⟩
      · simp [dot, ofText] at h
      · simpa using congrArg List.length h
  · have hdot : dotDot ++ first ≠ dot := by simp [dot, dotDot, ofText]
    rw [walk_dotDot] at h
    simp only [enter, hlonger, hdot, if_false] at h
    rcases before with _ | ⟨n, rest⟩
    · have hlength := congrArg (fun names => (names.map List.length).sum) h
      simp [dotDot, ofText] at hlength
      omega
    · have hcount := congrArg List.length h
      simp only [List.length_append, List.length_dropLast, List.length_cons, List.length_nil] at hcount
      omega

theorem cases_of_not_continues {before : List Name} {piece : Name} {q : Path}
    (hpiece : ∀ g ∈ piece, g.isSlash = false) (h : ¬Continues before piece q) :
    (piece = [] ∧ before ≠ []) ∨ piece = dot ∨ piece = dotDot := by
  simp only [Continues, not_or] at h
  obtain ⟨_, hname, hroot⟩ := h
  by_contra hnone
  simp only [not_or] at hnone
  have hne : piece ≠ [] := fun hnil => hnone.1 ⟨hnil, fun hb => hroot ⟨hnil, hb⟩⟩
  exact hname ⟨hne, hnone.2.1, hnone.2.2, hpiece⟩

theorem ofNames_walk_append_ne {before : List Name} (hbefore : ∀ n ∈ before, IsName n) {piece : Name}
    (hpiece : ∀ g ∈ piece, g.isSlash = false) {q : Path} (h : ¬Continues before piece q) :
    ofNames (walk before (piece ++ q)) ≠ ofNames (walk before piece) ++ q := by
  obtain ⟨first, others, hfirst, hsegments⟩ := exists_segments_append fun hq => h (.inl hq)
  have hcases := cases_of_not_continues hpiece h
  intro heq
  have hwalk : walk before (piece ++ q) = others.foldl enter (enter before (piece ++ first)) := by
    rw [walk, hsegments piece hpiece, List.foldl_cons]
  have hnames := isName_of_mem_walk hbefore (piece ++ q)
  have hends : walk before (piece ++ q) =
      (walk before piece).dropLast ++ ((walk before piece).getLastD [] ++ first) :: others := by
    rw [← segments_ofNames hnames, heq,
      segments_ofNames_append (isName_of_mem_walk hbefore piece) hsegments]
  -- The segments after the first are names, as part of a normal path, so the walk along them only appends.
  have hothers : ∀ n ∈ others, IsName n := fun n hn => hnames n (by rw [hends]; simp [hn])
  rw [hwalk, foldl_enter_of_isName hothers, ← List.singleton_append, ← List.append_assoc] at hends
  exact enter_append_ne hfirst hcases (List.append_cancel_right hends)

end Path

namespace Specifier

open ExplicitImports.Path

/-! ### Specifiers as walks -/

def origin (directory : Path) (s : Text) : List Name :=
  if (ofText s).isAbsolute then [] else directory.lexical

theorem resolvePath_eq (directory : Path) (s : Text) :
    resolvePath directory s = ofNames (walk (origin directory s) (ofText s)) := by
  rw [resolvePath, Path.normalize, lexical_join, origin]

theorem isName_of_mem_origin (directory : Path) (s : Text) : ∀ n ∈ origin directory s, IsName n := by
  unfold origin
  split
  · simp
  · exact isName_of_mem_lexical directory

theorem origin_append (directory : Path) {s : Text} (hs : s ≠ []) (t : Text) :
    origin directory (s ++ t) = origin directory s := by
  rcases s with _ | ⟨c, rest⟩
  · exact absurd rfl hs
  · rfl

theorem ofText_append (s t : Text) : ofText (s ++ t) = ofText s ++ ofText t := by
  simp [ofText]

theorem ofText_slash_cons (t : Text) : ofText ('/' :: t) = Glyph.slash :: ofText t := rfl

theorem ofText_no_slash {t : Text} (ht : ∀ c ∈ t, (c != '/') = true) :
    ∀ g ∈ ofText t, g.isSlash = false := by
  intro g hg
  obtain ⟨c, hc, rfl⟩ := List.mem_map.mp hg
  have hne : c ≠ '/' := by simpa using ht c hc
  simp [Glyph.isSlash, Glyph.slash, hne]

theorem lastPiece_no_slash (s : Text) : ∀ g ∈ ofText (lastPiece s), g.isSlash = false :=
  ofText_no_slash fun _ hc => List.mem_rtakeWhile_imp (p := (· != '/')) hc

theorem exists_walk_append (names : List Name) (s : Text) :
    ∃ before : List Name, (names.Forall IsName → before.Forall IsName) ∧
      ∀ q, walk names (ofText s ++ q) = walk before (ofText (lastPiece s) ++ q) := by
  rcases eq_rtakeWhile_or (· == '/') s with hs | ⟨ys, a, ha, hs⟩
  · refine ⟨names, id, fun q => ?_⟩
    rw [show lastPiece s = s from hs.symm]
  · obtain rfl : a = '/' := by simpa using ha
    have hlast : s = ys ++ '/' :: lastPiece s := hs
    refine ⟨walk names (ofText ys), ?_, fun q => ?_⟩
    · intro hnames
      exact List.forall_iff_forall_mem.mpr (isName_of_mem_walk (List.forall_iff_forall_mem.mp hnames) _)
    · conv_lhs => rw [hlast]
      rw [ofText_append, ofText_slash_cons, List.append_assoc, List.cons_append, walk_append_slash]

/-! ### Specifiers with text at their end -/

/-- Whether text after a specifier ends up after the path of the specifier: because it starts a segment of its own,
because the specifier ends in a name, or because it ends in a slash and leads to the root. -/
def Carries (directory : Path) (s e : Text) : Prop :=
  (e = [] ∨ (ofText e).isAbsolute = true) ∨ IsName (ofText (lastPiece s)) ∨
    (lastPiece s = [] ∧ resolvePath directory s = ofNames [])

theorem ofNames_eq_root_iff {names : List Name} (hnames : ∀ n ∈ names, IsName n) :
    ofNames names = ofNames [] ↔ names = [] := by
  constructor
  · intro h
    rw [← lexical_ofNames hnames, h, lexical_ofNames (by simp)]
  · rintro rfl
    rfl

theorem exists_resolvePath_append (directory : Path) {s : Text} (hs : s ≠ []) :
    ∃ before : List Name, (∀ n ∈ before, IsName n) ∧
      resolvePath directory s = ofNames (walk before (ofText (lastPiece s))) ∧
      ∀ e, resolvePath directory (s ++ e) = ofNames (walk before (ofText (lastPiece s) ++ ofText e)) ∧
        (Carries directory s e ↔ Continues before (ofText (lastPiece s)) (ofText e)) := by
  obtain ⟨before, hbefore, hwalk⟩ := exists_walk_append (origin directory s) s
  have hnames : ∀ n ∈ before, IsName n := by
    rw [← List.forall_iff_forall_mem]
    exact hbefore (List.forall_iff_forall_mem.mpr (isName_of_mem_origin directory s))
  have hself : resolvePath directory s = ofNames (walk before (ofText (lastPiece s))) := by
    have h := hwalk []
    rw [List.append_nil, List.append_nil] at h
    rw [resolvePath_eq, h]
  refine ⟨before, hnames, hself, fun e => ⟨?_, ?_⟩⟩
  · rw [resolvePath_eq, origin_append directory hs, ofText_append, hwalk]
  · have hroot : lastPiece s = [] → (resolvePath directory s = ofNames [] ↔ before = []) := by
      intro hnil
      rw [hself, hnil]
      exact ofNames_eq_root_iff hnames
    have hpiece : ofText (lastPiece s) = [] ↔ lastPiece s = [] := List.map_eq_nil_iff
    have hempty : ofText e = [] ↔ e = [] := List.map_eq_nil_iff
    unfold Carries Continues
    rw [hpiece, hempty]
    constructor
    · rintro (h | h | ⟨hnil, h⟩)
      exacts [.inl h, .inr (.inl h), .inr (.inr ⟨hnil, (hroot hnil).mp h⟩)]
    · rintro (h | h | ⟨hnil, h⟩)
      exacts [.inl h, .inr (.inl h), .inr (.inr ⟨hnil, (hroot hnil).mpr h⟩)]

theorem resolvePath_append {directory : Path} {s e : Text} (hs : s ≠ []) (h : Carries directory s e) :
    resolvePath directory (s ++ e) = Path.normalize ((resolvePath directory s).withSuffix e) := by
  obtain ⟨before, hbefore, hself, happend⟩ := exists_resolvePath_append directory hs
  obtain ⟨hlonger, hcarries⟩ := happend e
  rw [hlonger, hself, withSuffix, Path.normalize, walk_append_of_continues hbefore (hcarries.mp h)]

theorem resolvePath_append_ne {directory : Path} {s e : Text} (hs : s ≠ []) (h : ¬Carries directory s e) :
    resolvePath directory (s ++ e) ≠ (resolvePath directory s).withSuffix e := by
  obtain ⟨before, hbefore, hself, happend⟩ := exists_resolvePath_append directory hs
  obtain ⟨hlonger, hcarries⟩ := happend e
  rw [hlonger, hself, withSuffix]
  exact ofNames_walk_append_ne hbefore (lastPiece_no_slash s) (mt hcarries.mpr h)

theorem IsExtension.isName_append {e : Text} (he : IsExtension e) {piece : Name}
    (hpiece : ∀ g ∈ piece, g.isSlash = false) : IsName (piece ++ ofText e) where
  ne_nil := by
    obtain ⟨name, rfl, _⟩ := he.eq_cons
    simp [ofText]
  ne_dot := by
    obtain ⟨name, rfl, hne, _⟩ := he.eq_cons
    have hlength := List.length_pos_of_ne_nil hne
    intro h
    have := congrArg List.length h
    simp only [dot, ofText, List.length_append, List.length_map, List.length_cons, List.length_nil] at this
    omega
  ne_dotDot := by
    obtain ⟨name, rfl, hne, hname⟩ := he.eq_cons
    intro h
    rcases piece with _ | ⟨g, rest⟩
    · obtain rfl : name = ['.'] := by
        rcases name with _ | ⟨c, _ | ⟨c', more⟩⟩ <;> simp_all [dotDot, ofText]
      exact (hname '.' (by simp)).1 rfl
    · have hlength := List.length_pos_of_ne_nil hne
      have := congrArg List.length h
      simp only [dotDot, ofText, List.length_append, List.length_map, List.length_cons, List.length_nil] at this
      omega
  no_slash := by
    intro g hg
    rcases List.mem_append.mp hg with hg | hg
    exacts [hpiece g hg, ofText_no_slash he.no_slash g hg]

theorem IsExtension.isName {e : Text} (he : IsExtension e) : IsName (ofText e) := by
  simpa using he.isName_append (show ∀ g ∈ ([] : Name), g.isSlash = false by simp)

theorem IsExtension.ne_two_dots {e : Text} (he : IsExtension e) (rest : Path) :
    Glyph.char '.' :: Glyph.char '.' :: rest ≠ ofText e := by
  obtain ⟨name, rfl, _, hname⟩ := he.eq_cons
  intro h
  have htail : ofText name = Glyph.char '.' :: rest := (List.cons.inj h).2.symm
  obtain ⟨c, hc, hdot⟩ := List.mem_map.mp (show Glyph.char '.' ∈ ofText name by simp [htail])
  exact (hname c hc).1 (Glyph.char.inj hdot)

theorem IsExtension.carries_iff {e : Text} (he : IsExtension e) (directory : Path) (s : Text) :
    Carries directory s e ↔
      IsName (ofText (lastPiece s)) ∨ (lastPiece s = [] ∧ resolvePath directory s = ofNames []) := by
  have hinside : ¬(e = [] ∨ (ofText e).isAbsolute = true) := by
    obtain ⟨name, rfl, _⟩ := he.eq_cons
    simp [ofText, isAbsolute, Glyph.isSlash, Glyph.slash]
  simp [Carries, hinside]

/-- An extension that a specifier does not carry lands on a segment that the path of the specifier does not have,
so that no other extension after that path makes up for it. -/
theorem resolvePath_append_ne_withSuffix {directory : Path} {s e other : Text} (hs : s ≠ [])
    (he : IsExtension e) (hother : IsExtension other) (h : ¬Carries directory s e) :
    resolvePath directory (s ++ e) ≠ (resolvePath directory s).withSuffix other := by
  obtain ⟨before, hbefore, hself, happend⟩ := exists_resolvePath_append directory hs
  obtain ⟨hlonger, hcarries⟩ := happend e
  have hname := he.isName_append (lastPiece_no_slash s)
  have hnames : ∀ n ∈ before ++ [ofText (lastPiece s) ++ ofText e], IsName n := by
    intro n hn
    rcases List.mem_append.mp hn with hn | hn
    · exact hbefore n hn
    · obtain rfl := List.mem_singleton.mp hn
      exact hname
  have hsegments (n : Name) (hn : ∀ g ∈ n, g.isSlash = false) :
      segments (n ++ ofText other) = [n ++ ofText other] :=
    have hn' := hother.isName_append hn
    segments_of_no_slash hn'.ne_nil hn'.no_slash
  rw [hlonger, hself, withSuffix, walk_isName before hname]
  intro heq
  have hends := congrArg segments heq
  rw [segments_ofNames hnames,
    segments_ofNames_append (isName_of_mem_walk hbefore _) hsegments] at hends
  have hcount := congrArg List.length hends
  rcases cases_of_not_continues (lastPiece_no_slash s) (mt hcarries.mpr h) with ⟨hb, hne⟩ | hb | hb
  · have := List.length_pos_of_ne_nil hne
    simp only [hb, walk_nil, List.length_append, List.length_dropLast, List.length_singleton] at hcount
    omega
  · obtain rfl : before = [] := by
      rw [hb, walk_dot] at hcount
      simp only [List.length_append, List.length_dropLast, List.length_singleton] at hcount
      exact List.eq_nil_of_length_eq_zero (by omega)
    obtain ⟨name, rfl, _⟩ := he.eq_cons
    rw [hb] at hends
    exact hother.ne_two_dots _ (List.singleton_inj.mp hends)
  · obtain rfl : before = [] := by
      rw [hb, walk_dotDot] at hcount
      simp only [List.length_append, List.length_dropLast, List.length_singleton] at hcount
      exact List.eq_nil_of_length_eq_zero (by omega)
    rw [hb] at hends
    exact hother.ne_two_dots _ (List.singleton_inj.mp hends)

theorem exists_resolvePath_eq_ofNames (directory : Path) (s : Text) :
    ∃ names : List Name, (∀ n ∈ names, IsName n) ∧ resolvePath directory s = ofNames names :=
  ⟨_, isName_of_mem_walk (isName_of_mem_origin directory s) _, resolvePath_eq directory s⟩

theorem normalize_withSuffix_of_isName {directory : Path} {s e : Text} (hs : s ≠ [])
    (hname : IsName (ofText (lastPiece s))) (he : ∀ c ∈ e, (c != '/') = true) :
    ((resolvePath directory s).withSuffix e).normalize = (resolvePath directory s).withSuffix e := by
  obtain ⟨before, hbefore, hself, _⟩ := exists_resolvePath_append directory hs
  rw [hself, withSuffix]
  refine normalize_ofNames_append (isName_of_mem_walk hbefore _) ?_ (ofText_no_slash he)
  simp [walk_isName before hname]

theorem normalize_withSuffix_of_carries {directory : Path} {s e : Text} (hs : s ≠ []) (he : IsExtension e)
    (h : Carries directory s e) :
    ((resolvePath directory s).withSuffix e).normalize = (resolvePath directory s).withSuffix e := by
  rcases (he.carries_iff directory s).mp h with hname | ⟨_, hroot⟩
  · exact normalize_withSuffix_of_isName hs hname he.no_slash
  · have hsingle : ofNames [] ++ ofText e = ofNames [ofText e] := by simp [ofNames]
    rw [hroot, withSuffix, hsingle]
    exact normalize_ofNames (by simp [he.isName])

theorem walk_append_slashes (names : List Name) (p : Path) (k : Nat) :
    walk names (p ++ List.replicate k Glyph.slash) = walk names p := by
  induction k with
  | zero => simp
  | succ k ih => rw [List.replicate_succ', ← List.append_assoc, walk_slash_end, ih]

theorem resolvePath_trimSlashes_append (directory : Path) {s : Text} (hs : s ≠ []) {n : Text}
    (hn : IsName (ofText n)) (e : Text) :
    resolvePath directory ((s.trimSlashes ++ '/' :: n) ++ e) =
      Path.normalize (((resolvePath directory s).join (ofText n)).withSuffix e) := by
  obtain ⟨k, hk⟩ := trimSlashes_append_replicate s
  have horigin : origin directory ((s.trimSlashes ++ '/' :: n) ++ e) = origin directory s := by
    rcases ht : s.trimSlashes with _ | ⟨c, rest⟩
    · rw [ht, List.nil_append] at hk
      rcases k with _ | k
      · exact absurd hk hs
      · rw [hk]
        rfl
    · rw [hk, ht]
      rfl
  have hwalk (names : List Name) : walk names (ofText s) = walk names (ofText s.trimSlashes) := by
    have hslashes : ofText (List.replicate k '/') = List.replicate k Glyph.slash := List.map_replicate
    conv_lhs => rw [hk, ofText_append, hslashes, walk_append_slashes]
  have hnames := isName_of_mem_walk (isName_of_mem_origin directory s) (ofText s.trimSlashes)
  rw [resolvePath_eq, resolvePath_eq, horigin, hwalk, ofNames_join hnames hn, withSuffix, Path.normalize,
    lexical_ofNames_concat_append hnames, List.append_assoc, List.cons_append, ofText_append,
    ofText_slash_cons, walk_append_slash, ofText_append]

end Specifier

end ExplicitImports
