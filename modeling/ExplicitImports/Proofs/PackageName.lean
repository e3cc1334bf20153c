import ExplicitImports.Package.Name
import ExplicitImports.Specifier
import ExplicitImports.Proofs.Text

/-!
The grammar of bare specifiers. A name is one segment, or a scope and one segment in it, and what follows the next
slash is a path in the package. The reader accepts just the texts that the grammar spells, with the only way to split
them; of all others it names the first rule that they break.
-/
namespace ExplicitImports.PackageSpecifier

open Specifier

/-! ### Segments -/

structure IsSegment (s : Text) : Prop where
  ne_nil : s ≠ []
  no_slash : '/' ∉ s
  no_colon : ':' ∉ s

structure Cut (t s rest : Text) : Prop where
  append : s ++ rest = t
  no_slash : '/' ∉ s
  slash : ∀ c ∈ rest.head?, c = '/'

inductive SegmentFault (t : Text) : Reason → Prop where
  | empty (cut : Cut t [] t) : SegmentFault t .emptySegment
  | colon {s rest : Text} (cut : Cut t s rest) (colon : ':' ∈ s) : SegmentFault t .colon

theorem cut_takeWhile (t : Text) : Cut t (t.takeWhile (· != '/')) (t.dropWhile (· != '/')) where
  append := List.takeWhile_append_dropWhile
  no_slash := by
    intro hslash
    simpa using List.mem_takeWhile_imp hslash
  slash := by
    intro c hc
    have hstop := List.head?_dropWhile_not (· != '/') t
    rw [Option.mem_def.mp hc] at hstop
    simpa using hstop

theorem Cut.segment_eq {t s rest : Text} (h : Cut t s rest) :
    segment t = if s = [] then .error .emptySegment else if ':' ∈ s then .error .colon else .ok (s, rest) := by
  obtain ⟨rfl, hs, hrest⟩ := h
  have hpass : ∀ c ∈ s, (c != '/') = true := by
    intro c hc
    rw [bne_iff_ne]
    rintro rfl
    exact hs hc
  have hstop : rest.takeWhile (· != '/') = [] ∧ rest.dropWhile (· != '/') = rest := by
    rcases rest with _ | ⟨c, more⟩
    · simp
    · simp [hrest c rfl]
  have htake : (s ++ rest).takeWhile (· != '/') = s := by
    rw [List.takeWhile_append_of_pos hpass, hstop.1, List.append_nil]
  have hdrop : (s ++ rest).dropWhile (· != '/') = rest := by
    rw [List.dropWhile_append_of_pos hpass, hstop.2]
  simp only [segment, htake, hdrop, List.isEmpty_iff, List.contains_iff_mem]

theorem IsSegment.segment_eq {t s rest : Text} (hs : IsSegment s) (h : Cut t s rest) :
    segment t = .ok (s, rest) := by
  rw [h.segment_eq, if_neg hs.ne_nil, if_neg hs.no_colon]

theorem SegmentFault.segment_eq {t : Text} {reason : Reason} (h : SegmentFault t reason) :
    segment t = .error reason := by
  cases h with
  | empty cut => rw [cut.segment_eq, if_pos rfl]
  | colon cut colon => rw [cut.segment_eq, if_neg (List.ne_nil_of_mem colon), if_pos colon]

theorem isSegment_or_fault (t : Text) :
    (∃ s rest, IsSegment s ∧ Cut t s rest) ∨ ∃ reason, SegmentFault t reason := by
  have hcut := cut_takeWhile t
  by_cases hnil : t.takeWhile (· != '/') = []
  · right
    have happend := hcut.append
    rw [hnil, List.nil_append] at happend
    rw [hnil, happend] at hcut
    exact ⟨_, .empty hcut⟩
  · by_cases hcolon : ':' ∈ t.takeWhile (· != '/')
    · exact .inr ⟨_, .colon hcut hcolon⟩
    · exact .inl ⟨_, _, ⟨hnil, hcut.no_slash, hcolon⟩, hcut⟩

/-! ### The grammar -/

inductive IsPackageName : Text → Prop where
  | plain {s : Text} (segment : IsSegment s) (no_scope : s.head? ≠ some '@') : IsPackageName s
  | inScope {scope s : Text} (scope_segment : IsSegment scope) (at_sign : scope.head? = some '@')
      (segment : IsSegment s) : IsPackageName (scope ++ '/' :: s)

theorem IsPackageName.ne_nil {name : Text} (h : IsPackageName name) : name ≠ [] := by
  cases h with
  | plain segment _ => exact segment.ne_nil
  | inScope _ _ _ => simp

/-- What may stand behind a name, and the path in the package that it spells. A slash alone spells none. -/
inductive SpellsPath : Text → Option Text → Prop where
  | none : SpellsPath [] none
  | slash : SpellsPath ['/'] none
  | path {p : Text} (ne_nil : p ≠ []) : SpellsPath ('/' :: p) (some p)

structure Spells (t : Text) (p : PackageSpecifier) : Prop where
  bare : isLocal t = false
  name : IsPackageName p.name
  path : ∃ tail, t = p.name ++ tail ∧ SpellsPath tail p.subPath

/-- The first rule that a text breaks, and the rest of the text from where it does. -/
inductive Breaks : Text → Reason → Text → Prop where
  | notBare {t : Text} (not_bare : isLocal t = true) : Breaks t .notBare t
  | firstSegment {t : Text} {reason : Reason} (bare : isLocal t = false) (fault : SegmentFault t reason) :
      Breaks t reason t
  | scopeAlone {scope : Text} (segment : IsSegment scope) (at_sign : scope.head? = some '@') :
      Breaks scope .noSlashAfterScope scope
  | segmentInScope {scope rest : Text} {reason : Reason} (segment : IsSegment scope)
      (at_sign : scope.head? = some '@') (fault : SegmentFault rest reason) :
      Breaks (scope ++ '/' :: rest) reason rest

theorem SpellsPath.head {tail : Text} {sub : Option Text} (h : SpellsPath tail sub) :
    ∀ c ∈ tail.head?, c = '/' := by
  cases h <;> simp

theorem SpellsPath.pathAfter_eq {tail : Text} {sub : Option Text} (h : SpellsPath tail sub) :
    pathAfter tail = sub := by
  cases h with
  | none => rfl
  | slash => rfl
  | path ne_nil =>
    obtain ⟨c, more, rfl⟩ := List.exists_cons_of_ne_nil ne_nil
    rfl

theorem exists_spellsPath {tail : Text} (h : ∀ c ∈ tail.head?, c = '/') : ∃ sub, SpellsPath tail sub := by
  rcases tail with _ | ⟨c, p⟩
  · exact ⟨_, .none⟩
  · obtain rfl := h c rfl
    rcases p with _ | ⟨d, more⟩
    · exact ⟨_, .slash⟩
    · exact ⟨_, .path (by simp)⟩

/-! ### Reading -/

section
variable {t : Text}

theorem parse_of_isLocal (h : isLocal t = true) : parse t = .error ⟨.notBare, t, t⟩ := by
  rcases t with _ | ⟨c, rest⟩
  · simp [isLocal] at h
  · rcases (by simpa [isLocal] using h : c = '.' ∨ c = '/') with rfl | rfl <;> rfl

theorem parse_of_no_scope (h : isLocal t = false) (hat : t.head? ≠ some '@') :
    parse t = match segment t with
      | .error reason => .error ⟨reason, t, t⟩
      | .ok (name, after) => .ok ⟨name, pathAfter after⟩ := by
  unfold parse
  split
  · simp [isLocal] at h
  · simp [isLocal] at h
  · simp at hat
  · rfl

theorem parse_of_scope (hat : t.head? = some '@') :
    parse t = match segment t with
      | .error reason => .error ⟨reason, t, t⟩
      | .ok (_, []) => .error ⟨.noSlashAfterScope, t, t⟩
      | .ok (scope, slash :: rest) =>
        match segment rest with
        | .error reason => .error ⟨reason, t, rest⟩
        | .ok (name, after) => .ok ⟨scope ++ slash :: name, pathAfter after⟩ := by
  rcases t with _ | ⟨c, rest⟩
  · simp at hat
  · obtain rfl : c = '@' := by simpa using hat
    simp only [parse]
    cases segment ('@' :: rest) with
    | error reason => rfl
    | ok cut => rcases cut with ⟨scope, _ | ⟨slash, more⟩⟩ <;> rfl

end

theorem Spells.parse_eq {t : Text} {p : PackageSpecifier} (h : Spells t p) : parse t = .ok p := by
  obtain ⟨name, sub⟩ := p
  obtain ⟨hbare, hname, tail, rfl, htail⟩ := h
  dsimp only at hname htail hbare ⊢
  cases hname with
  | plain hs hat =>
    have hcut : Cut (name ++ tail) name tail := ⟨rfl, hs.no_slash, htail.head⟩
    rw [← List.head?_append_of_ne_nil name hs.ne_nil] at hat
    rw [parse_of_no_scope hbare hat, hs.segment_eq hcut]
    simp [htail.pathAfter_eq]
  | @inScope scope s hscope hat hs =>
    rw [List.append_assoc, List.cons_append] at hbare ⊢
    have houter : Cut (scope ++ '/' :: (s ++ tail)) scope ('/' :: (s ++ tail)) :=
      ⟨rfl, hscope.no_slash, by simp⟩
    have hinner : Cut (s ++ tail) s tail := ⟨rfl, hs.no_slash, htail.head⟩
    rw [← List.head?_append_of_ne_nil scope hscope.ne_nil] at hat
    rw [parse_of_scope hat, hscope.segment_eq houter]
    dsimp only
    rw [hs.segment_eq hinner]
    simp [htail.pathAfter_eq]

theorem Breaks.parse_eq {t rest : Text} {reason : Reason} (h : Breaks t reason rest) :
    parse t = .error ⟨reason, t, rest⟩ := by
  cases h with
  | notBare not_bare => exact parse_of_isLocal not_bare
  | firstSegment bare fault =>
    by_cases hat : t.head? = some '@'
    · rw [parse_of_scope hat, fault.segment_eq]
    · rw [parse_of_no_scope bare hat, fault.segment_eq]
  | scopeAlone segment at_sign =>
    have hcut : Cut t t [] := ⟨List.append_nil t, segment.no_slash, by simp⟩
    rw [parse_of_scope at_sign, segment.segment_eq hcut]
  | @segmentInScope scope _ _ segment at_sign fault =>
    have hcut : Cut (scope ++ '/' :: rest) scope ('/' :: rest) := ⟨rfl, segment.no_slash, by simp⟩
    rw [← List.head?_append_of_ne_nil scope segment.ne_nil] at at_sign
    rw [parse_of_scope at_sign, segment.segment_eq hcut]
    dsimp only
    rw [fault.segment_eq]

theorem spells_or_breaks (t : Text) : (∃ p, Spells t p) ∨ ∃ reason rest, Breaks t reason rest := by
  by_cases hlocal : isLocal t = true
  · exact .inr ⟨_, _, .notBare hlocal⟩
  have hbare : isLocal t = false := by simpa using hlocal
  rcases isSegment_or_fault t with ⟨s, rest, hs, hcut⟩ | ⟨reason, hfault⟩
  swap
  · exact .inr ⟨_, _, .firstSegment hbare hfault⟩
  by_cases hat : s.head? = some '@'
  · -- The first segment is a scope only, so the rest is cut once more.
    rcases rest with _ | ⟨c, more⟩
    · obtain rfl : s = t := by simpa using hcut.append
      exact .inr ⟨_, _, .scopeAlone hs hat⟩
    · obtain rfl := hcut.slash c rfl
      obtain rfl := hcut.append
      rcases isSegment_or_fault more with ⟨last, tail, hlast, htail⟩ | ⟨reason, hfault⟩
      · obtain ⟨sub, hsub⟩ := exists_spellsPath htail.slash
        obtain rfl := htail.append
        exact .inl ⟨⟨_, sub⟩, hbare, .inScope hs hat hlast, tail, by simp, hsub⟩
      · exact .inr ⟨_, _, .segmentInScope hs hat hfault⟩
  · obtain ⟨sub, hsub⟩ := exists_spellsPath hcut.slash
    exact .inl ⟨⟨s, sub⟩, hbare, .plain hs hat, rest, hcut.append.symm, hsub⟩

theorem parse_eq_ok_iff {t : Text} {p : PackageSpecifier} : parse t = .ok p ↔ Spells t p := by
  constructor
  · intro hparse
    rcases spells_or_breaks t with ⟨q, hq⟩ | ⟨reason, rest, h⟩
    · rw [hq.parse_eq] at hparse
      rwa [← Except.ok.inj hparse]
    · simp [h.parse_eq] at hparse
  · exact Spells.parse_eq

theorem parse_eq_error_iff {t : Text} {e : Invalid} :
    parse t = .error e ↔ e.text = t ∧ Breaks t e.reason e.rest := by
  constructor
  · intro hparse
    rcases spells_or_breaks t with ⟨q, hq⟩ | ⟨reason, rest, h⟩
    · simp [hq.parse_eq] at hparse
    · rw [h.parse_eq] at hparse
      obtain rfl := Except.error.inj hparse
      exact ⟨rfl, h⟩
  · rintro ⟨rfl, h⟩
    exact h.parse_eq

theorem Spells.eq_of_path {t name p : Text} (h : Spells t ⟨name, some p⟩) : t = name ++ '/' :: p ∧ p ≠ [] := by
  obtain ⟨_, _, tail, rfl, htail⟩ := h
  cases htail with
  | path ne_nil => exact ⟨rfl, ne_nil⟩

theorem Spells.append {t name p : Text} (h : Spells t ⟨name, some p⟩) (y : Text) :
    Spells (t ++ y) ⟨name, some (p ++ y)⟩ := by
  obtain ⟨rfl, hp⟩ := h.eq_of_path
  refine ⟨?_, h.name, '/' :: (p ++ y), by simp, .path (by simp [hp])⟩
  have hbare := h.bare
  rcases name with _ | ⟨c, more⟩
  · simp [isLocal] at hbare
  · exact hbare

/-- What is read is what the grammar spells, and it spells a text in one way only. Any other text is rejected for the
first rule that it breaks, at the place where it does. -/
theorem parse_agrees_with_grammar (t : Text) :
    (∀ p, parse t = .ok p ↔ Spells t p) ∧ (∀ p q, Spells t p → Spells t q → p = q) ∧
      ∀ e, parse t = .error e ↔ e.text = t ∧ Breaks t e.reason e.rest := by
  refine ⟨fun p => parse_eq_ok_iff, fun p q hp hq => ?_, fun e => parse_eq_error_iff⟩
  apply Except.ok.inj
  exact hp.parse_eq.symm.trans hq.parse_eq

theorem grammar_of_doubled_slash :
    let p : PackageSpecifier := ⟨"@s/q".toList, some "/a:b".toList⟩
    Spells "@s/q//a:b".toList p ∧ (∀ q, Spells "@s/q//a:b".toList q → q = p) ∧
      Breaks "@s/a:b/q".toList .colon "a:b/q".toList ∧ Breaks "@s/".toList .emptySegment [] ∧
      Breaks "@s".toList .noSlashAfterScope "@s".toList := by
  intro p
  have hp : Spells "@s/q//a:b".toList p := ((parse_agrees_with_grammar _).1 p).mp rfl
  have hbreaks (t : Text) (e : Invalid) (h : parse t = .error e) : Breaks t e.reason e.rest :=
    (((parse_agrees_with_grammar t).2.2 e).mp h).2
  exact ⟨hp, fun q hq => (parse_agrees_with_grammar _).2.1 q p hq hp, hbreaks _ ⟨_, _, _⟩ rfl, hbreaks _ ⟨_, _, _⟩ rfl,
    hbreaks _ ⟨_, _, _⟩ rfl⟩

end ExplicitImports.PackageSpecifier
