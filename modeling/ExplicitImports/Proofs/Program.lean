import ExplicitImports.Program
import ExplicitImports.Proofs.Decision
import Mathlib.Data.List.ReduceOption

/-!
Both passes over a program, declaration by declaration. Neither lets one declaration see another, and they differ only
in the declarations that they enter: editing the text never looks inside a declaration, and changing the tree looks
inside those that stay.
-/
namespace ExplicitImports

/-! ### Declarations of a program -/

theorem Program.induction {Q : Program → Prop} (nil : Q [])
    (declaration : ∀ d inner rest, Q inner → Q rest → Q (.declaration d inner :: rest))
    (other : ∀ inner rest, Q inner → Q rest → Q (.other inner :: rest))
    (block : ∀ inner rest, Q inner → Q rest → Q (.block inner :: rest)) (p : Program) : Q p :=
  @ProgramItem.rec_1 (fun item => ∀ rest, Q rest → Q (item :: rest)) Q
    (fun d inner hinner rest => declaration d inner rest hinner)
    (fun inner hinner rest => other inner rest hinner)
    (fun inner hinner rest => block inner rest hinner)
    nil (fun _ rest hitem hrest => hitem rest hrest) p

def Program.declarations (p : Program) : List Declaration := p.listing.reduceOption

/-! A pass enters some declarations, and leaves what stands inside the others alone. -/

mutual

def ProgramItem.reached (enters : Declaration → Bool) : ProgramItem → List Declaration
  | .declaration d inner => d :: if enters d then Program.reached enters inner else []
  | .other inner | .block inner => Program.reached enters inner

def Program.reached (enters : Declaration → Bool) : Program → List Declaration
  | [] => []
  | item :: rest => item.reached enters ++ Program.reached enters rest

end

mutual

def ProgramItem.hidden (enters : Declaration → Bool) : ProgramItem → List Declaration
  | .declaration d inner => if enters d then Program.hidden enters inner else Program.declarations inner
  | .other inner | .block inner => Program.hidden enters inner

/-- The declarations that a pass does not come to, as they stand inside one that it does not enter. -/
def Program.hidden (enters : Declaration → Bool) : Program → List Declaration
  | [] => []
  | item :: rest => item.hidden enters ++ Program.hidden enters rest

end

mutual

def ProgramItem.mapReached (enters : Declaration → Bool) (f : Declaration → Declaration) : ProgramItem → ProgramItem
  | .declaration d inner => .declaration (f d) (if enters d then Program.mapReached enters f inner else inner)
  | .other inner => .other (Program.mapReached enters f inner)
  | .block inner => .block (Program.mapReached enters f inner)

def Program.mapReached (enters : Declaration → Bool) (f : Declaration → Declaration) : Program → Program
  | [] => []
  | item :: rest => item.mapReached enters f :: Program.mapReached enters f rest

end

namespace Program

/-- No declaration stands inside another. -/
def Flat (p : Program) : Prop := p.hidden (fun _ => false) = []

instance (p : Program) : Decidable p.Flat := inferInstanceAs (Decidable (_ = []))

def mapDeclarations (f : Declaration → Declaration) (p : Program) : Program := p.mapReached (fun _ => true) f

variable {enters : Declaration → Bool} {f : Declaration → Declaration}

@[simp] theorem declarations_declaration (d : Declaration) (inner rest : Program) :
    declarations (.declaration d inner :: rest) = d :: (declarations inner ++ declarations rest) := by
  simp [declarations, listing, ProgramItem.listing, List.reduceOption_append]

@[simp] theorem declarations_other (inner rest : Program) :
    declarations (.other inner :: rest) = declarations inner ++ declarations rest := by
  simp [declarations, listing, ProgramItem.listing, List.reduceOption_append]

@[simp] theorem declarations_block (inner rest : Program) :
    declarations (.block inner :: rest) = declarations inner ++ declarations rest := by
  simp [declarations, listing, ProgramItem.listing, List.reduceOption_append]

/-! ### What a pass comes to -/

theorem perm_regroup (as bs cs ds : List α) : ((as ++ bs) ++ (cs ++ ds)).Perm ((as ++ cs) ++ (bs ++ ds)) := by
  simp only [List.append_assoc]
  exact (List.perm_append_comm_assoc bs cs ds).append_left as

theorem reached_append_hidden_perm (enters : Declaration → Bool) (p : Program) :
    (p.reached enters ++ p.hidden enters).Perm p.declarations := by
  induction p using Program.induction with
  | nil => exact .nil
  | declaration d inner rest hinner hrest =>
    have hinside : ((if enters d then reached enters inner else []) ++
        (if enters d then hidden enters inner else declarations inner)).Perm (declarations inner) := by
      split
      · exact hinner
      · exact .refl _
    simp only [reached, hidden, ProgramItem.reached, ProgramItem.hidden, declarations_declaration, List.cons_append]
    exact ((perm_regroup ..).trans (hinside.append hrest)).cons d
  | other inner rest hinner hrest | block inner rest hinner hrest =>
    simp only [declarations_other, declarations_block]
    exact (perm_regroup ..).trans (hinner.append hrest)

theorem reached_sublist (enters : Declaration → Bool) (p : Program) : (p.reached enters).Sublist p.declarations := by
  induction p using Program.induction with
  | nil => exact .slnil
  | declaration d inner rest hinner hrest =>
    have hinside : (if enters d then reached enters inner else []).Sublist (declarations inner) := by
      split
      · exact hinner
      · exact List.nil_sublist _
    rw [declarations_declaration]
    exact (hinside.append hrest).cons_cons d
  | other inner rest hinner hrest | block inner rest hinner hrest =>
    simp only [declarations_other, declarations_block]
    exact hinner.append hrest

theorem mem_hidden_of_mem {p : Program} {d : Declaration} (h : d ∈ p.hidden enters) : d ∈ p.hidden fun _ => false := by
  induction p using Program.induction with
  | nil => exact h
  | declaration e inner rest hinner hrest =>
    refine List.mem_append.mpr ((List.mem_append.mp h).imp (fun hinside => ?_) hrest)
    simp only [ProgramItem.hidden] at hinside
    split at hinside
    · exact (reached_append_hidden_perm enters inner).subset (List.mem_append_right _ hinside)
    · exact hinside
  | other inner rest hinner hrest | block inner rest hinner hrest =>
    exact List.mem_append.mpr ((List.mem_append.mp h).imp hinner hrest)

theorem hidden_eq_nil {p : Program} (h : ∀ d ∈ p.reached enters, enters d = true) : p.hidden enters = [] := by
  induction p using Program.induction with
  | nil => rfl
  | declaration d inner rest hinner hrest =>
    simp only [reached, ProgramItem.reached, List.cons_append, List.forall_mem_cons] at h
    rw [if_pos h.1, List.forall_mem_append] at h
    simp only [hidden, ProgramItem.hidden, if_pos h.1, hinner h.2.1, hrest h.2.2, List.append_nil]
  | other inner rest hinner hrest | block inner rest hinner hrest =>
    obtain ⟨hinside, hafter⟩ := List.forall_mem_append.mp h
    simp only [hidden, ProgramItem.hidden, hinner hinside, hrest hafter, List.append_nil]

theorem reached_eq_declarations {p : Program} (h : p.hidden enters = []) : p.reached enters = p.declarations := by
  have hperm := reached_append_hidden_perm enters p
  rw [h, List.append_nil] at hperm
  exact (reached_sublist enters p).eq_of_length hperm.length_eq

theorem Flat.hidden_eq {p : Program} (h : p.Flat) (enters : Declaration → Bool) : p.hidden enters = [] := by
  rw [List.eq_nil_iff_forall_not_mem]
  intro d hd
  have hnone := mem_hidden_of_mem hd
  rw [show p.hidden (fun _ => false) = [] from h] at hnone
  contradiction

/-! ### What a pass changes -/

theorem mapReached_eq_self {p : Program} (h : ∀ d ∈ p.reached enters, f d = d) : p.mapReached enters f = p := by
  induction p using Program.induction with
  | nil => rfl
  | declaration d inner rest hinner hrest =>
    simp only [reached, ProgramItem.reached, List.cons_append, List.forall_mem_cons, List.forall_mem_append] at h
    obtain ⟨hd, hinside, hafter⟩ := h
    have hsame : (if enters d then mapReached enters f inner else inner) = inner := by
      split
      · next hd => exact hinner (by simpa [hd] using hinside)
      · rfl
    simp only [mapReached, ProgramItem.mapReached, hd, hsame, hrest hafter]
  | other inner rest hinner hrest | block inner rest hinner hrest =>
    obtain ⟨hinside, hafter⟩ := List.forall_mem_append.mp h
    simp only [mapReached, ProgramItem.mapReached, hinner hinside, hrest hafter]

theorem reached_all (p : Program) : p.reached (fun _ => true) = p.declarations :=
  reached_eq_declarations (hidden_eq_nil fun _ _ => rfl)

/-- A function that keeps what a pass does not come to is applied as if the pass came to everything. -/
theorem mapReached_eq_mapDeclarations {p : Program} (h : ∀ d ∈ p.hidden enters, f d = d) :
    p.mapReached enters f = p.mapDeclarations f := by
  induction p using Program.induction with
  | nil => rfl
  | declaration d inner rest hinner hrest =>
    obtain ⟨hinside, hafter⟩ := List.forall_mem_append.mp h
    have hsame : (if enters d then mapReached enters f inner else inner) = mapDeclarations f inner := by
      simp only [ProgramItem.hidden] at hinside
      split
      · next hd => exact hinner (by simpa [hd] using hinside)
      · next hd => exact (mapReached_eq_self (by simpa [hd, reached_all] using hinside)).symm
    simp only [mapReached, ProgramItem.mapReached, hsame, hrest hafter, mapDeclarations, if_true]
  | other inner rest hinner hrest | block inner rest hinner hrest =>
    obtain ⟨hinside, hafter⟩ := List.forall_mem_append.mp h
    simp only [mapReached, ProgramItem.mapReached, hinner hinside, hrest hafter, mapDeclarations]

theorem declarations_mapReached_perm (enters : Declaration → Bool) (f : Declaration → Declaration) (p : Program) :
    (p.mapReached enters f).declarations.Perm ((p.reached enters).map f ++ p.hidden enters) := by
  induction p using Program.induction with
  | nil => exact .nil
  | declaration d inner rest hinner hrest =>
    have hinside : (declarations (if enters d then mapReached enters f inner else inner)).Perm
        ((if enters d then reached enters inner else []).map f ++
          if enters d then hidden enters inner else declarations inner) := by
      split
      · exact hinner
      · exact .refl _
    simp only [mapReached, ProgramItem.mapReached, declarations_declaration, reached, ProgramItem.reached, hidden,
      ProgramItem.hidden, List.map_cons, List.map_append, List.cons_append]
    exact ((hinside.append hrest).trans (perm_regroup ..)).cons (f d)
  | other inner rest hinner hrest | block inner rest hinner hrest =>
    simp only [mapReached, ProgramItem.mapReached, declarations_other, declarations_block, reached,
      ProgramItem.reached, hidden, ProgramItem.hidden, List.map_append]
    exact (hinner.append hrest).trans (perm_regroup ..)

theorem listing_mapDeclarations (f : Declaration → Declaration) (p : Program) :
    (p.mapDeclarations f).listing = p.listing.map (Option.map f) := by
  unfold mapDeclarations
  induction p using Program.induction with
  | nil => rfl
  | declaration d inner rest hinner hrest | other inner rest hinner hrest | block inner rest hinner hrest =>
    simp [mapReached, ProgramItem.mapReached, listing, ProgramItem.listing, hinner, hrest]

end Program

/-! ### What becomes of one declaration -/

theorem Declaration.edits_eq_singleton {source : Text} {d : Declaration} {l : StringLiteral}
    (hl : d.source? = some l) (t : Target) :
    d.edits source t = [TextEdit.ofLiteral source l.range t.specifier] := by
  simp [edits, hl]

namespace Setting

def keeps (s : Setting) (d : Declaration) : Bool := (s.evaluate d).value.isNone

def changed (s : Setting) (d : Declaration) : Declaration :=
  match (s.evaluate d).value with
  | some t => d.withSpecifier t.specifier
  | none => d

def editsOf (s : Setting) (source : Text) (d : Declaration) : List TextEdit :=
  match (s.evaluate d).value with
  | some t => d.edits source t
  | none => []

@[simp] theorem keeps_eq_true_iff {s : Setting} {d : Declaration} :
    s.keeps d = true ↔ (s.evaluate d).value = none :=
  Option.isNone_iff_eq_none

theorem changed_eq_self {s : Setting} {d : Declaration} (h : (s.evaluate d).value = none) : s.changed d = d := by
  rw [changed, h]

/-! ### The passes -/

/-- Changing the tree enters the declarations that stay. It changes each one that it comes to by itself and records the
changes in order. -/
theorem value_changeProgram (s : Setting) (p : Program) :
    (s.changeProgram p).value = (p.mapReached s.keeps s.changed, (p.reached s.keeps).filterMap s.record?) := by
  induction p using Program.induction with
  | nil => rfl
  | declaration d inner rest hinner hrest =>
    simp only [changeProgram, changeItem, Traced.value_bind, value_change, hrest, Program.mapReached,
      ProgramItem.mapReached, Program.reached, ProgramItem.reached, List.cons_append]
    cases ht : (s.evaluate d).value with
    | none =>
      have hkeeps : s.keeps d = true := keeps_eq_true_iff.mpr ht
      have hrecord : s.record? d = none := record?_eq_none_iff.mpr ht
      simp [hinner, hkeeps, hrecord, changed_eq_self ht]
    | some t =>
      have hkeeps : s.keeps d = false := by simp [keeps, ht]
      have hrecord : s.record? d = some (SpecifierChange.ofTarget d t) := record?_of_evaluate ht
      simp [hkeeps, hrecord, changed, ht]
  | other inner rest hinner hrest | block inner rest hinner hrest =>
    simp [changeProgram, changeItem, hinner, hrest, Program.mapReached, ProgramItem.mapReached, Program.reached,
      ProgramItem.reached]

theorem value_editItems (s : Setting) (source : Text) (p : Program) :
    (s.editItems source p).value =
      ((p.reached fun _ => false).flatMap (s.editsOf source), (p.reached fun _ => false).filterMap s.record?) := by
  induction p using Program.induction with
  | nil => rfl
  | declaration d inner rest hinner hrest =>
    simp only [editItems, editItem, Traced.value_bind, value_change, hrest, Program.reached, ProgramItem.reached]
    cases ht : (s.evaluate d).value with
    | none =>
      have hrecord : s.record? d = none := record?_eq_none_iff.mpr ht
      simp [editsOf, ht, hrecord]
    | some t =>
      have hrecord : s.record? d = some (SpecifierChange.ofTarget d t) := record?_of_evaluate ht
      simp [editsOf, ht, hrecord]
  | other inner rest hinner hrest | block inner rest hinner hrest =>
    simp [editItems, editItem, hinner, hrest, Program.reached, ProgramItem.reached]

theorem value_editProgram (s : Setting) (source : Text) (p : Program) :
    (s.editProgram source p).value =
      (TextEdit.apply source ((p.reached fun _ => false).flatMap (s.editsOf source)),
       (p.reached fun _ => false).filterMap s.record?) := by
  simp only [editProgram, Traced.value_bind, value_editItems, Traced.value_pure]

end Setting

end ExplicitImports
