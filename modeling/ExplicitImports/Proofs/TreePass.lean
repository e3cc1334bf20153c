import ExplicitImports.Proofs.Program
import ExplicitImports.Proofs.Session

/-!
The pass over a tree, declaration by declaration. What becomes of a declaration that the pass comes to, and what is
recorded of it, depends on that declaration alone; all around it stays, and two bodies side by side are changed as each
is by itself. But the pass does not come to what stands inside a declaration that it changes.
-/
namespace ExplicitImports

/-- A declaration beside the same one with another value in its literal, which stays in place and has no spelling. -/
inductive Declaration.Revalued (v : Text) : Declaration → Declaration → Prop where
  | importFrom (bindings : List ImportBinding) (l : StringLiteral) (info : DeclarationInfo) :
    Revalued v (.importFrom bindings l info) (.importFrom bindings ⟨v, none, l.range⟩ info)
  | exportNamed (bindings : List ExportBinding) (l : StringLiteral) (info : DeclarationInfo) :
    Revalued v (.exportNamed bindings (some l) info) (.exportNamed bindings (some ⟨v, none, l.range⟩) info)
  | exportAll (l : StringLiteral) (info : DeclarationInfo) :
    Revalued v (.exportAll l info) (.exportAll ⟨v, none, l.range⟩ info)

theorem Declaration.revalued_withSpecifier {d : Declaration} {l : StringLiteral} (hl : d.source? = some l) (v : Text) :
    d.Revalued v (d.withSpecifier v) := by
  cases d with
  | importFrom bindings l info => exact .importFrom bindings l info
  | exportNamed bindings source info =>
    obtain rfl : source = some l := hl
    exact .exportNamed bindings l info
  | exportAll l info => exact .exportAll l info

/-! ### Bodies side by side -/

namespace Program

variable {enters : Declaration → Bool} {f : Declaration → Declaration}

theorem reached_append (p q : Program) : reached enters (p ++ q) = p.reached enters ++ q.reached enters := by
  induction p with
  | nil => rfl
  | cons item rest ih => simp only [List.cons_append, reached, ih, List.append_assoc]

theorem mapReached_append (p q : Program) :
    mapReached enters f (p ++ q) = p.mapReached enters f ++ q.mapReached enters f := by
  induction p with
  | nil => rfl
  | cons item rest ih => simp only [List.cons_append, mapReached, ih]

end Program

/-! ### The pass -/

namespace Setting

theorem changed_revalued {s : Setting} {d : Declaration} {t : Target} (ht : (s.evaluate d).value = some t) :
    d.Revalued t.specifier (s.changed d) := by
  obtain ⟨l, hl⟩ := source?_of_evaluate ht
  unfold changed
  rw [ht]
  exact Declaration.revalued_withSpecifier hl t.specifier

theorem value_changeProgram_append (s : Setting) (p q : Program) :
    (s.changeProgram (p ++ q)).value =
      ((s.changeProgram p).value.1 ++ (s.changeProgram q).value.1,
       (s.changeProgram p).value.2 ++ (s.changeProgram q).value.2) := by
  simp only [value_changeProgram, Program.mapReached_append, Program.reached_append, List.filterMap_append]

theorem changes_run_declarations (s : Setting) (log : List SpecifierChange) (ds : List Declaration) :
    (Session.run (fun _ : Unit => s) ⟨(), log⟩ (ds.map .change)).value.1.changes = log ++ ds.filterMap s.record? := by
  rw [Session.changes_run]
  apply congrArg (log ++ ·)
  induction ds with
  | nil => rfl
  | cons d rest ih =>
    have hrecord : (Session.Step.change (F := Unit) d).record? s = s.record? d := rfl
    rw [List.map_cons, Session.records, hrecord, List.filterMap_cons]
    cases s.record? d with
    | none => exact ih
    | some r => exact congrArg (r :: ·) ih

theorem records_eq_iff_hidden_kept (s : Setting) (p : Program) :
    (p.reached s.keeps).filterMap s.record? = p.declarations.filterMap s.record? ↔
      ∀ d ∈ p.hidden s.keeps, (s.evaluate d).value = none := by
  have hlength : (p.declarations.filterMap s.record?).length =
      ((p.reached s.keeps).filterMap s.record?).length + ((p.hidden s.keeps).filterMap s.record?).length := by
    rw [← List.length_append, ← List.filterMap_append]
    exact ((p.reached_append_hidden_perm s.keeps).filterMap s.record?).length_eq.symm
  have hnone : (p.hidden s.keeps).filterMap s.record? = [] ↔ ∀ d ∈ p.hidden s.keeps, (s.evaluate d).value = none := by
    simp only [List.filterMap_eq_nil_iff, record?_eq_none_iff]
  rw [← hnone]
  constructor
  · intro hsame
    rw [hsame] at hlength
    exact List.eq_nil_of_length_eq_zero (by omega)
  · intro hnil
    rw [hnil, List.length_nil, Nat.add_zero] at hlength
    exact ((p.reached_sublist s.keeps).filterMap s.record?).eq_of_length hlength.symm

/-- The pass changes each declaration that it comes to by itself: to the value of its target, or not at all. All else
stays, and what is recorded is a log of changing these declarations one after the other. Hidden from it is what stands
inside a declaration that it changes. So it is the map over all declarations, with the records of all of them, exactly
if none of the hidden ones gets a target; in particular if no declaration stands inside another. -/
theorem tree_pass_by_declaration (s : Setting) (p : Program) :
    let (tree, records) := (s.changeProgram p).value
    records = (p.reached s.keeps).filterMap s.record? ∧
    (∀ log, (Session.run (fun _ : Unit => s) ⟨(), log⟩ ((p.reached s.keeps).map .change)).value.1.changes =
      log ++ records) ∧
    (∃ after : Declaration → Declaration,
      (∀ d, match (s.evaluate d).value with
        | some t => d.Revalued t.specifier (after d)
        | none => after d = d) ∧
      tree = p.mapReached s.keeps after ∧
      tree.declarations.Perm ((p.reached s.keeps).map after ++ p.hidden s.keeps) ∧
      ((∀ d ∈ p.hidden s.keeps, (s.evaluate d).value = none) →
        tree = p.mapDeclarations after ∧ tree.listing = p.listing.map (Option.map after))) ∧
    (records = p.declarations.filterMap s.record? ↔ ∀ d ∈ p.hidden s.keeps, (s.evaluate d).value = none) ∧
    (p.Flat → p.hidden s.keeps = []) ∧
    ∀ q : Program, (s.changeProgram (p ++ q)).value =
      (tree ++ (s.changeProgram q).value.1, records ++ (s.changeProgram q).value.2) := by
  have happend := value_changeProgram_append s p
  rw [value_changeProgram s p] at happend ⊢
  refine ⟨rfl, fun log => changes_run_declarations s log _, ⟨s.changed, fun d => ?_, rfl,
    p.declarations_mapReached_perm s.keeps s.changed, fun hkept => ?_⟩, records_eq_iff_hidden_kept s p,
    fun hflat => hflat.hidden_eq s.keeps, happend⟩
  · split
    · next t ht => exact changed_revalued ht
    · next hnone => exact changed_eq_self hnone
  · have hall : p.mapReached s.keeps s.changed = p.mapDeclarations s.changed :=
      Program.mapReached_eq_mapDeclarations fun d hd => changed_eq_self (hkept d hd)
    exact ⟨hall, by rw [hall, Program.listing_mapDeclarations]⟩

/-- An import with a declared module in a value of its attributes. The export in the module would get an extension, but
is hidden behind the import, which gets one; behind an import that stays it is changed. -/
theorem export_in_attributes_hidden :
    let clause : AttributeClause :=
      ⟨"\x7b x: function () \x7b namespace N \x7b export * from './b' \x7d \x7d \x7d".toList, ⟨18, 76⟩⟩
    let importFrom (l : StringLiteral) := Declaration.importFrom [] l ⟨false, some clause, ⟨0, 77⟩⟩
    let nested : Declaration := .exportAll ⟨"./b".toList, some "'./b'".toList, ⟨65, 70⟩⟩ ⟨false, none, ⟨51, 70⟩⟩
    let inner : Program := [.block [.declaration nested []]]
    let changing : Program := [.declaration (importFrom ⟨"./a".toList, some "'./a'".toList, ⟨7, 12⟩⟩) inner]
    let staying : Program := [.declaration (importFrom ⟨"./a.js".toList, none, ⟨7, 12⟩⟩) inner]
    changing.hidden alone.keeps = [nested] ∧
      (alone.changeProgram changing).value = (staying, [⟨.importFrom, "./a".toList, "./a.js".toList⟩]) ∧
      (alone.changeProgram changing).value.2 ≠ changing.declarations.filterMap alone.record? ∧
      (alone.changeProgram staying).value.2 = [⟨.exportAll, "./b".toList, "./b.js".toList⟩] ∧
      (alone.changeProgram staying).value.2 = staying.declarations.filterMap alone.record? := by
  intro clause importFrom nested inner changing staying
  have hhidden : changing.hidden alone.keeps = [nested] := by decide
  have hstaying : staying.hidden alone.keeps = [] := by decide
  refine ⟨hhidden, by rfl, fun hsame => ?_, by decide, ?_⟩
  · have hkept := (tree_pass_by_declaration alone changing).2.2.2.1.mp hsame nested (by simp [hhidden])
    revert hkept
    decide
  · exact (tree_pass_by_declaration alone staying).2.2.2.1.mpr (by simp [hstaying])

end Setting

end ExplicitImports
