import ExplicitImports.Proofs.Decision
import ExplicitImports.Session

/-!
The records of a session. Each step is answered from the files of the moment and adds at most one record, so that a
run leaves the records of its successful changes and nothing else.
-/
namespace ExplicitImports.Session

variable {F : Type} {setting : F → Setting} {s : Session F}

/-! ### One step -/

inductive Logged (setting : F → Setting) (s : Session F) : Step F → Answer → Session F → Prop where
  | evaluated (d : Declaration) :
    Logged setting s (.evaluate d) (.evaluated ((setting s.files).evaluate d).value s.changes.length) s
  | left {d : Declaration} (stays : ((setting s.files).evaluate d).value = none) :
    Logged setting s (.change d) (.changed none none s.changes.length) s
  | recorded {d : Declaration} {x : Text} {t : Target} (named : d.specifier? = some x)
      (decided : ((setting s.files).evaluate d).value = some t) :
    Logged setting s (.change d) (.changed (some t) (some (d.withSpecifier t.specifier)) (s.changes.length + 1))
      ⟨s.files, s.changes ++ [⟨d.kind, x, t.specifier⟩]⟩
  | listed : Logged setting s .changes (.changes s.changes) s
  | altered (f : F → F × Answer) : Logged setting s (.alter f) (f s.files).2 ⟨(f s.files).1, s.changes⟩

theorem advance_logged (setting : F → Setting) (s : Session F) (step : Step F) :
    Logged setting s step (advance setting s step).value.2 (advance setting s step).value.1 := by
  cases step with
  | evaluate d => exact .evaluated d
  | change d =>
    simp only [advance, Traced.value_bind, Setting.value_change]
    cases ht : ((setting s.files).evaluate d).value with
    | none => exact .left ht
    | some t =>
      obtain ⟨x, hx⟩ := Setting.specifier?_of_evaluate ht
      simpa [SpecifierChange.ofTarget, hx] using Logged.recorded hx ht
  | changes => exact .listed
  | alter f => exact .altered f

def Step.filesAfter (files : F) : Step F → F
  | .alter f => (f files).1
  | _ => files

def Step.record? (s : Setting) : Step F → Option SpecifierChange
  | .change d => s.record? d
  | _ => none

theorem Logged.files {step : Step F} {answer : Answer} {next : Session F} (h : Logged setting s step answer next) :
    next.files = step.filesAfter s.files := by
  cases h <;> rfl

theorem Logged.changes {step : Step F} {answer : Answer} {next : Session F} (h : Logged setting s step answer next) :
    next.changes = s.changes ++ (step.record? (setting s.files)).toList := by
  cases h with
  | evaluated | listed | altered => simp [Step.record?]
  | left stays => simp [Step.record?, Setting.record?_eq_none_iff.mpr stays]
  | recorded named decided => simp [Step.record?, Setting.record?, named, decided]

/-! ### Runs -/

def filesAfter (files : F) (steps : List (Step F)) : F := steps.foldl Step.filesAfter files

def records (setting : F → Setting) : F → List (Step F) → List SpecifierChange
  | _, [] => []
  | files, step :: rest => (step.record? (setting files)).toList ++ records setting (step.filesAfter files) rest

@[simp] theorem value_run_nil : (run setting s []).value = (s, []) := rfl

@[simp] theorem value_run_cons (step : Step F) (rest : List (Step F)) :
    (run setting s (step :: rest)).value =
      ((run setting (advance setting s step).value.1 rest).value.1,
       (advance setting s step).value.2 :: (run setting (advance setting s step).value.1 rest).value.2) :=
  rfl

theorem value_run_append (before rest : List (Step F)) :
    (run setting s (before ++ rest)).value =
      ((run setting (run setting s before).value.1 rest).value.1,
       (run setting s before).value.2 ++ (run setting (run setting s before).value.1 rest).value.2) := by
  induction before generalizing s with
  | nil => rfl
  | cons step more ih => simp only [List.cons_append, value_run_cons, ih]

theorem files_run (steps : List (Step F)) : (run setting s steps).value.1.files = filesAfter s.files steps := by
  induction steps generalizing s with
  | nil => rfl
  | cons step rest ih =>
    rw [value_run_cons, ih, (advance_logged setting s step).files]
    rfl

theorem changes_run (steps : List (Step F)) :
    (run setting s steps).value.1.changes = s.changes ++ records setting s.files steps := by
  induction steps generalizing s with
  | nil => simp [records]
  | cons step rest ih =>
    have hstep := advance_logged setting s step
    rw [value_run_cons, ih, hstep.changes, hstep.files, List.append_assoc]
    rfl

theorem length_answers (steps : List (Step F)) : (run setting s steps).value.2.length = steps.length := by
  induction steps generalizing s with
  | nil => rfl
  | cons step rest ih => rw [value_run_cons, List.length_cons, ih, List.length_cons]

theorem session_run_concat (before : List (Step F)) (step : Step F) :
    (run setting s (before ++ [step])).value.1 = (advance setting (run setting s before).value.1 step).value.1 := by
  rw [value_run_append]
  rfl

theorem getElem?_answers (before rest : List (Step F)) (step : Step F) :
    (run setting s (before ++ step :: rest)).value.2[before.length]? =
      some (advance setting (run setting s before).value.1 step).value.2 := by
  rw [value_run_append, value_run_cons, List.getElem?_append_right (by rw [length_answers]), length_answers,
    Nat.sub_self, List.getElem?_cons_zero]

theorem changes_prefix_run (setting : F → Setting) (s : Session F) (before rest : List (Step F)) :
    (run setting s before).value.1.changes <+: (run setting s (before ++ rest)).value.1.changes := by
  rw [value_run_append, changes_run rest]
  exact List.prefix_append _ _

/-- A run leaves the records of its successful changes, in order, after those that were there. Every step of it is
answered from the files of the moment alone, adds the record of its own change if there is one, and all records stay
for good. -/
theorem run_keeps_log (setting : F → Setting) (s : Session F) (steps : List (Step F)) :
    let last := (run setting s steps).value.1
    let answers := (run setting s steps).value.2
    last.changes = s.changes ++ records setting s.files steps ∧ answers.length = steps.length ∧
      ∀ before step rest, steps = before ++ step :: rest →
        let now := (run setting s before).value.1
        let next := (run setting s (before ++ [step])).value.1
        now.files = filesAfter s.files before ∧
          (∃ answer, answers[before.length]? = some answer ∧ Logged setting now step answer next) ∧
          next.changes <+: last.changes := by
  refine ⟨changes_run steps, length_answers steps, ?_⟩
  rintro before step rest rfl
  refine ⟨files_run before, ⟨_, getElem?_answers before rest step, ?_⟩, ?_⟩
  · rw [session_run_concat]
    exact advance_logged setting _ step
  · have hprefix := changes_prefix_run setting s (before ++ [step]) rest
    rwa [List.append_assoc, List.singleton_append] at hprefix

theorem log_of_vanished_file :
    let p : Project := ⟨Setting.alone.referrer, { Options.default with ensureFileExists := true }, .none⟩
    let d := Declaration.importFrom [] ⟨"./foo".toList, none, ⟨7, 14⟩⟩ ⟨false, none, ⟨0, 15⟩⟩
    let file := Path.ofText "/p/foo.js".toList
    let before : List Step := [.change d, .write file []]
    let rest : List Step := [.remove file, .change d, .evaluate d]
    let steps := before ++ .change d :: rest
    let now := (run p.setting ⟨some FileTree.empty, []⟩ before).value.1
    let next := (run p.setting ⟨some FileTree.empty, []⟩ (before ++ [.change d])).value.1
    let last := (run p.setting ⟨some FileTree.empty, []⟩ steps).value.1
    now.changes = [] ∧ last.changes = [⟨.importFrom, "./foo".toList, "./foo.js".toList⟩] ∧
      (∃ answer, Logged p.setting now (.change d) answer next) ∧ next.changes <+: last.changes := by
  intro p d file before rest steps now next last
  obtain ⟨hlast, _, hsteps⟩ := run_keeps_log p.setting ⟨some FileTree.empty, []⟩ steps
  obtain ⟨_, ⟨answer, _, hlogged⟩, hprefix⟩ := hsteps before (.change d) rest rfl
  exact ⟨by decide, hlast.trans (by decide), ⟨answer, hlogged⟩, hprefix⟩

end ExplicitImports.Session
