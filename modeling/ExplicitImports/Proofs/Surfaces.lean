import ExplicitImports.Proofs.Literal
import ExplicitImports.Proofs.Program

/-!
The two ways to make a program explicit say the same. Editing the text and changing the tree leave one list of
records, and they agree on every declaration: what its edit writes is the value that its literal gets in the tree.
-/
namespace ExplicitImports

namespace Declaration

/-- The literal of a declaration as it was written, so that a replaced literal is told from one that was read. -/
def Spelled (d : Declaration) : Prop := ∀ l ∈ d.source?, l.raw.isSome = true

instance (d : Declaration) : Decidable d.Spelled :=
  inferInstanceAs (Decidable (∀ l ∈ d.source?, l.raw.isSome = true))

theorem Spelled.raw_ne_none {d : Declaration} (h : d.Spelled) {l : StringLiteral} (hl : l ∈ d.source?) :
    l.raw ≠ none := by
  have hsome := h l hl
  intro hraw
  rw [hraw] at hsome
  contradiction

theorem source?_withSpecifier (d : Declaration) (v : Text) :
    (d.withSpecifier v).source? = d.source?.map (·.withValue v) := by
  cases d <;> rfl

end Declaration

namespace Setting

variable {s : Setting} {source : Text} {d : Declaration}

theorem editsOf_eq_nil_iff : s.editsOf source d = [] ↔ (s.evaluate d).value = none := by
  cases ht : (s.evaluate d).value with
  | none => simp [editsOf, ht]
  | some t =>
    obtain ⟨l, hl⟩ := source?_of_evaluate ht
    simp [editsOf, ht, Declaration.edits_eq_singleton hl]

theorem editsOf_eq_singleton_iff {l : StringLiteral} (hl : d.source? = some l) {v : Text} :
    s.editsOf source d = [TextEdit.ofLiteral source l.range v] ↔
      ∃ t, (s.evaluate d).value = some t ∧ t.specifier = v := by
  cases ht : (s.evaluate d).value with
  | none => simp [editsOf, ht]
  | some t =>
    simp only [editsOf, ht, Declaration.edits_eq_singleton hl, List.cons.injEq, and_true, Option.some.injEq,
      exists_eq_left']
    exact ⟨TextEdit.ofLiteral_injective, fun h => by rw [h]⟩

theorem source?_changed_iff (spelled : d.Spelled) {v : Text} :
    (∃ l ∈ (s.changed d).source?, l.value = v ∧ l.raw = none) ↔
      ∃ t, (s.evaluate d).value = some t ∧ t.specifier = v := by
  cases ht : (s.evaluate d).value with
  | none =>
    simp only [changed, ht, reduceCtorEq, false_and, exists_false, iff_false]
    rintro ⟨l, hl, _, hraw⟩
    exact spelled.raw_ne_none hl hraw
  | some t =>
    obtain ⟨l, hl⟩ := source?_of_evaluate ht
    simp [changed, ht, Declaration.source?_withSpecifier, hl, StringLiteral.withValue]

theorem changed_eq_self_iff (spelled : d.Spelled) : s.changed d = d ↔ (s.evaluate d).value = none := by
  cases ht : (s.evaluate d).value with
  | none => simp [changed, ht]
  | some t =>
    obtain ⟨l, hl, _, hraw⟩ := (source?_changed_iff spelled).mpr ⟨t, ht, rfl⟩
    simp only [reduceCtorEq, iff_false]
    intro hsame
    rw [hsame] at hl
    exact spelled.raw_ne_none hl hraw

/-- Both surfaces keep the same records in the same order. Each declaration stands at its place in the changed tree,
which differs from the program in declarations only, and has its edits at its place among the edits; its literal is
edited to a value exactly if it has that value, and no spelling, in the tree. -/
theorem text_and_tree_agree (s : Setting) (source : Text) (p : Program) (flat : p.Flat)
    (spelled : ∀ d ∈ p.declarations, d.Spelled) :
    let edited := (s.editItems source p).value
    let tree := (s.changeProgram p).value
    edited.2 = tree.2 ∧
      (s.editProgram source p).value = (TextEdit.apply source edited.1, tree.2) ∧
      ∃ (edits : Declaration → List TextEdit) (after : Declaration → Declaration),
        edited.1 = p.declarations.flatMap edits ∧ tree.1 = p.mapDeclarations after ∧
        ∀ d ∈ p.declarations, (edits d = [] ↔ after d = d) ∧
          ∀ l ∈ d.source?, ∀ v, edits d = [TextEdit.ofLiteral source l.range v] ↔
            ∃ l' ∈ (after d).source?, l'.value = v ∧ l'.raw = none := by
  have hreached (enters : Declaration → Bool) : p.reached enters = p.declarations :=
    Program.reached_eq_declarations (flat.hidden_eq enters)
  have htree : p.mapReached s.keeps s.changed = p.mapDeclarations s.changed :=
    Program.mapReached_eq_mapDeclarations (by simp [flat.hidden_eq])
  simp only [value_editItems, value_changeProgram, value_editProgram, hreached, htree, true_and]
  refine ⟨s.editsOf source, s.changed, rfl, rfl, fun d hd => ⟨?_, fun l hl v => ?_⟩⟩
  · rw [editsOf_eq_nil_iff, changed_eq_self_iff (spelled d hd)]
  · rw [editsOf_eq_singleton_iff hl, source?_changed_iff (spelled d hd)]

theorem nested_text_and_tree_agree :
    let source :=
      "import './é'; module M \x7b export * from \"./b\"; module N \x7b export * from './c.js' \x7d \x7d".toList
    let info : DeclarationInfo := ⟨false, none, ⟨0, 0⟩⟩
    let p : Program := [
      .declaration (.importFrom [] ⟨"./é".toList, some "'./é'".toList, ⟨7, 13⟩⟩ info) [],
      .block [
        .declaration (.exportAll ⟨"./b".toList, some "\"./b\"".toList, ⟨40, 45⟩⟩ info) [],
        .other [.declaration (.exportAll ⟨"./c.js".toList, some "'./c.js'".toList, ⟨72, 80⟩⟩ info) []]]]
    p.Flat ∧ (∀ d ∈ p.declarations, d.Spelled) ∧
      (alone.editItems source p).value.1 = [⟨⟨8, 12⟩, "./é.js".toList⟩, ⟨⟨41, 44⟩, "./b.js".toList⟩] ∧
      (alone.editItems source p).value.2 = (alone.changeProgram p).value.2 := by
  intro source info p
  have flat : p.Flat := by decide
  have spelled : ∀ d ∈ p.declarations, d.Spelled := by decide
  exact ⟨flat, spelled, by decide, (text_and_tree_agree alone source p flat spelled).1⟩

end Setting

end ExplicitImports
