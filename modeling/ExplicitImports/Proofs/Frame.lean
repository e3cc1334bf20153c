import ExplicitImports.Proofs.Edit
import ExplicitImports.Proofs.Program
import ExplicitImports.Source

/-!
What an edited text keeps. Of a program whose literals stand in a source and are apart, only literals are edited, one
for each record, and the edited text is a splice of the source.
-/
namespace ExplicitImports

/-! ### Edits of literals in place -/

/-- The literal stands where its range says, begins and ends between characters and is not empty; a quote that opens
it also closes it. -/
def StringLiteral.StandsIn (source : Text) (l : StringLiteral) : Prop :=
  ∃ text, l.range.CutsOut source text ∧ text ≠ [] ∧
    ∀ q, text.head? = some q → Literal.isQuote q = true → text.getLast? = some q

namespace TextEdit

/-- An edit that gives a literal a value: all of it lies in the literal, and it either puts the value between the
quotes, which stay, or replaces the literal by a JSON string. -/
structure Rewrites (e : TextEdit) (source : Text) (l : StringLiteral) (v : Text) : Prop where
  start_le_stop : e.range.start ≤ e.range.stop
  starts_inside : l.range.start ≤ e.range.start
  stops_inside : e.range.stop ≤ l.range.stop
  replaced : (∃ q body, Literal.isQuote q = true ∧ source.slice l.range = q :: body ++ [q] ∧
      e.range = ⟨l.range.start + 1, l.range.stop - 1⟩ ∧ e.text = v) ∨
    (e.range = l.range ∧ e.text = Json.quote v)

theorem cutsOut_inner {source : Text} {range : ByteRange} {q : Char} {body : Text}
    (hcut : range.CutsOut source (q :: body ++ [q])) (hq : Literal.isQuote q = true) :
    (⟨range.start + 1, range.stop - 1⟩ : ByteRange).CutsOut source body := by
  have hsize := Literal.utf8Size_of_isQuote hq
  obtain ⟨before, after, hsource, hstart, hstop⟩ := hcut
  refine ⟨before ++ [q], q :: after, by simp [hsource], ?_, ?_⟩
  · simp [hstart, hsize]
  · simp only [List.cons_append, Text.byteLength_cons, Text.byteLength_append, Text.byteLength_nil, hsize] at hstop
    show range.stop - 1 = range.start + 1 + body.byteLength
    omega

theorem ofLiteral_rewrites {source : Text} {l : StringLiteral} (h : l.StandsIn source) (v : Text) :
    (ofLiteral source l.range v).Rewrites source l v ∧
      (∃ cut, (ofLiteral source l.range v).range.CutsOut source cut) ∧
      (ofLiteral source l.range v).range.start < l.range.stop := by
  obtain ⟨text, hcut, hne, hclosed⟩ := h
  have hnonempty : l.range.start < l.range.stop := by
    have hpos := Text.byteLength_pos hne
    obtain ⟨_, _, _, _, hstop⟩ := hcut
    omega
  have hwhole : (⟨l.range, Json.quote v⟩ : TextEdit).Rewrites source l v :=
    ⟨hcut.start_le_stop, le_refl _, le_refl _, .inr ⟨rfl, rfl⟩⟩
  have hslice := hcut.slice
  unfold ofLiteral
  rw [hslice]
  split
  · next q c more =>
    split
    · next hfits =>
      have hq := (Bool.and_eq_true_iff.mp hfits).1
      have hlast := hclosed q rfl hq
      obtain ⟨body, hbody⟩ : ∃ body, c :: more = body ++ [q] :=
        List.getLast?_eq_some_iff.mp (by simpa using hlast)
      rw [hbody] at hcut hslice
      have hinner := cutsOut_inner hcut hq
      have hle := hinner.start_le_stop
      dsimp only at hle
      refine ⟨⟨hle, ?_, ?_, .inl ⟨q, body, hq, hslice, rfl, rfl⟩⟩, ⟨body, hinner⟩, ?_⟩ <;> dsimp only <;> omega
    · exact ⟨hwhole, ⟨_, hcut⟩, hnonempty⟩
  · exact ⟨hwhole, ⟨_, hcut⟩, hnonempty⟩

end TextEdit

/-! ### Literals of a program -/

/-- The literals that name modules, in order, but for those inside other declarations, where nothing is edited. -/
def Program.literals (p : Program) : List StringLiteral := (p.reached fun _ => false).filterMap Declaration.source?

namespace Setting

def rewritten? (s : Setting) (d : Declaration) : Option (StringLiteral × Text) :=
  d.source?.bind fun l => (s.evaluate d).value.map fun t => (l, t.specifier)

theorem rewritten?_of_source? {s : Setting} {d : Declaration} {l : StringLiteral} (hl : d.source? = some l) :
    s.rewritten? d = (s.evaluate d).value.map fun t => (l, t.specifier) := by
  simp [rewritten?, hl]

theorem source?_of_rewritten? {s : Setting} {d : Declaration} {l : StringLiteral} {v : Text}
    (h : s.rewritten? d = some (l, v)) : d.source? = some l := by
  obtain ⟨l', hl, h⟩ := Option.bind_eq_some_iff.mp h
  obtain ⟨t, _, heq⟩ := Option.map_eq_some_iff.mp h
  rw [hl, (Prod.mk.inj heq).1]

theorem editsOf_eq_toList (s : Setting) (source : Text) (d : Declaration) :
    s.editsOf source d =
      ((s.rewritten? d).map fun (l, v) => TextEdit.ofLiteral source l.range v).toList := by
  cases ht : (s.evaluate d).value with
  | none => simp [editsOf, rewritten?, ht]
  | some t =>
    obtain ⟨l, hl⟩ := source?_of_evaluate ht
    simp [editsOf, rewritten?_of_source? hl, ht, Declaration.edits_eq_singleton hl]

theorem record?_eq_rewritten? (s : Setting) (d : Declaration) :
    ((s.record? d).map fun r => (r.source, r.target)) = (s.rewritten? d).map fun (l, v) => (l.value, v) := by
  cases ht : (s.evaluate d).value with
  | none => simp [record?_eq_none_iff.mpr ht, rewritten?, ht]
  | some t =>
    obtain ⟨l, hl⟩ := source?_of_evaluate ht
    simp [record?_of_evaluate ht, rewritten?_of_source? hl, ht, SpecifierChange.ofTarget, Declaration.specifier?, hl]

theorem rewritten_sublist (s : Setting) (ds : List Declaration) :
    ((ds.filterMap s.rewritten?).map Prod.fst).Sublist (ds.filterMap Declaration.source?) := by
  induction ds with
  | nil => exact .slnil
  | cons d ds ih =>
    cases hd : s.rewritten? d with
    | none =>
      rw [List.filterMap_cons_none hd]
      exact ih.trans ((List.sublist_cons_self d ds).filterMap _)
    | some r =>
      rw [List.filterMap_cons_some hd, List.filterMap_cons_some (source?_of_rewritten? hd), List.map_cons]
      exact ih.cons_cons _

theorem editsOf_flatMap (s : Setting) (source : Text) (ds : List Declaration) :
    ds.flatMap (s.editsOf source) =
      (ds.filterMap s.rewritten?).map fun (l, v) => TextEdit.ofLiteral source l.range v := by
  rw [List.map_filterMap, List.filterMap_eq_flatMap_toList]
  exact congrArg (ds.flatMap ·) (funext fun d => editsOf_eq_toList s source d)

theorem records_eq_rewritten (s : Setting) (ds : List Declaration) :
    ((ds.filterMap s.record?).map fun r => (r.source, r.target)) =
      (ds.filterMap s.rewritten?).map fun (l, v) => (l.value, v) := by
  simp only [List.map_filterMap, record?_eq_rewritten?]

theorem value_specifyModule (s : Setting) {m : MediaType} {source : Text} {p : Program}
    (h : Source.parse m.forModule source = some p) :
    (s.specifyModule m source).value = some (s.editProgram source p).value := by
  unfold specifyModule
  rw [h]
  rfl

theorem pairwise_edits {source : Text} {rewritten : List (StringLiteral × Text)}
    (stands : ∀ r ∈ rewritten, r.1.StandsIn source)
    (apart : rewritten.Pairwise fun a b => a.1.range.Apart b.1.range) :
    (rewritten.map fun (l, v) => TextEdit.ofLiteral source l.range v).Pairwise
      fun a b => a.range.Apart b.range ∧ a.range.start ≠ b.range.start := by
  rw [List.pairwise_map]
  refine apart.imp_of_mem ?_
  rintro ⟨l, v⟩ ⟨l', v'⟩ hl hl' hapart
  have hstands : l.StandsIn source := stands _ hl
  have hstands' : l'.StandsIn source := stands _ hl'
  obtain ⟨⟨_, hstart, hstop, _⟩, _, hbefore⟩ := TextEdit.ofLiteral_rewrites hstands v
  obtain ⟨⟨_, hstart', hstop', _⟩, _, hbefore'⟩ := TextEdit.ofLiteral_rewrites hstands' v'
  simp only [ByteRange.Apart] at hapart ⊢
  omega

/-- Of a program whose literals stand in the source and are apart, some literals are rewritten, in order: each has one
record and one edit, which lies in it, and no two edits meet. The edited text is the source with the ranges of these
edits replaced and all else kept, which for no record is the source itself; and it is what the module becomes. -/
theorem edited_text_is_splice (s : Setting) (source : Text) (p : Program)
    (stands : ∀ l ∈ p.literals, l.StandsIn source)
    (apart : p.literals.Pairwise fun a b => a.range.Apart b.range) :
    let (edits, records) := (s.editItems source p).value
    let out := (s.editProgram source p).value.1
    (∃ rewritten : List (StringLiteral × Text),
      (rewritten.map Prod.fst).Sublist p.literals ∧
      (records.map fun r => (r.source, r.target)) = rewritten.map (fun (l, v) => (l.value, v)) ∧
      List.Forall₂ (fun e (l, v) => e.Rewrites source l v) edits rewritten) ∧
    (edits.Pairwise fun a b => a.range.Apart b.range) ∧
    (∃ sorted, sorted.Perm edits ∧ Splice 0 source sorted out) ∧
    (records = [] → out = source) ∧
    ∀ m, Source.parse m.forModule source = some p → (s.specifyModule m source).value = some (out, records) := by
  simp only [value_editItems, value_editProgram, editsOf_flatMap]
  have hsublist := rewritten_sublist s (p.reached fun _ => false)
  have hrecords := records_eq_rewritten s (p.reached fun _ => false)
  set rewritten := (p.reached fun _ => false).filterMap s.rewritten?
  have hstands : ∀ r ∈ rewritten, r.1.StandsIn source :=
    fun r hr => stands r.1 (hsublist.subset (List.mem_map_of_mem hr))
  have hapart : (rewritten.map Prod.fst).Pairwise fun a b => a.range.Apart b.range := apart.sublist hsublist
  rw [List.pairwise_map] at hapart
  have hedits := pairwise_edits hstands hapart
  refine ⟨⟨rewritten, hsublist, hrecords, ?_⟩, hedits.imp And.left, ⟨_, TextEdit.inOrder_perm _, ?_⟩, ?_, ?_⟩
  · rw [List.forall₂_map_left_iff, List.forall₂_same]
    rintro ⟨l, v⟩ hr
    exact (TextEdit.ofLiteral_rewrites (hstands _ hr) v).1
  · refine TextEdit.splice_apply ?_ hedits
    rw [List.forall_mem_map]
    rintro ⟨l, v⟩ hr
    exact (TextEdit.ofLiteral_rewrites (hstands _ hr) v).2.1
  · intro hnone
    rw [hnone, List.map_nil, eq_comm, List.map_eq_nil_iff] at hrecords
    rw [hrecords, List.map_nil, TextEdit.apply_nil]
  · intro m hparse
    rw [value_specifyModule s hparse, value_editProgram, editsOf_flatMap]

theorem splice_of_both_edits :
    let source := "/* é */ import './ü'; export * from './a\\'b';".toList
    let info : DeclarationInfo := ⟨false, none, ⟨0, 0⟩⟩
    let p : Program := [
      .declaration (.importFrom [] ⟨"./ü".toList, some "'./ü'".toList, ⟨16, 22⟩⟩ info) [],
      .block [.declaration (.exportAll ⟨"./a'b".toList, some "'./a\\'b'".toList, ⟨38, 46⟩⟩ info) []]]
    (∀ l ∈ p.literals, l.StandsIn source) ∧ (p.literals.Pairwise fun a b => a.range.Apart b.range) ∧
      (alone.editItems source p).value.1 =
        [⟨⟨17, 21⟩, "./ü.js".toList⟩, ⟨⟨38, 46⟩, "\"./a'b.js\"".toList⟩] ∧
      ∃ sorted, sorted.Perm (alone.editItems source p).value.1 ∧
        Splice 0 source sorted "/* é */ import './ü.js'; export * from \"./a'b.js\";".toList := by
  intro source info p
  have stands : ∀ l ∈ p.literals, l.StandsIn source := by
    refine List.forall_mem_cons.mpr ⟨?_, List.forall_mem_singleton.mpr ?_⟩
    · exact ⟨"'./ü'".toList, ⟨"/* é */ import ".toList, "; export * from './a\\'b';".toList, by decide⟩,
        by decide, fun q hq _ => hq⟩
    · exact ⟨"'./a\\'b'".toList, ⟨"/* é */ import './ü'; export * from ".toList, ";".toList, by decide⟩,
        by decide, fun q hq _ => hq⟩
  have apart : p.literals.Pairwise fun a b => a.range.Apart b.range := by decide
  have hsplice := (edited_text_is_splice alone source p stands apart).2.2.1
  have hedits : (alone.editItems source p).value.1 =
      [⟨⟨17, 21⟩, "./ü.js".toList⟩, ⟨⟨38, 46⟩, "\"./a'b.js\"".toList⟩] := by decide
  have hout : (alone.editProgram source p).value.1 =
      "/* é */ import './ü.js'; export * from \"./a'b.js\";".toList := by
    change TextEdit.apply source (alone.editItems source p).value.1 = _
    rw [hedits, TextEdit.apply, TextEdit.inOrder, List.mergeSort_of_pairwise (by decide)]
    decide
  rw [hout] at hsplice
  exact ⟨stands, apart, hedits, hsplice⟩

end Setting

end ExplicitImports
