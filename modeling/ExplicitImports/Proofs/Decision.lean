import ExplicitImports.Change
import ExplicitImports.Proofs.Package
import ExplicitImports.Proofs.Target

/-!
Decisions without their events: when a specifier may be changed, and that a change is the target of one of the two
kinds of specifier.
-/
namespace ExplicitImports.Setting

open Specifier

def lookup (s : Setting) (x : Text) : Option PackageEntry :=
  match s.packages, s.referrer.directory with
  | some resolver, some directory => (resolver x directory).value
  | _, _ => none

def Provided (s : Setting) : Prop := ∀ resolver ∈ s.packages, resolver.Provided

def BareEligible (s : Setting) (x : Text) : Prop :=
  s.options.includePackages.includes x = true ∧ PackageTable.namesSubPath x = true ∧
    (s.options.handlePackageModules = true → (s.lookup x).isSome = true)

theorem value_classifyPackage {s : Setting} (hs : s.Provided) (x : Text) :
    (s.BareEligible x ∧ ∃ entry, (s.classifyPackage x).value = some (.package entry)) ∨
      (¬s.BareEligible x ∧ (s.classifyPackage x).value = none) := by
  unfold classifyPackage BareEligible
  cases hincluded : s.options.includePackages.includes x
  · simp
  cases hhandle : s.options.handlePackageModules
  · cases hparse : PackageSpecifier.parse x with
    | error e => simp [PackageTable.namesSubPath, hparse]
    | ok q => rcases q with ⟨name, _ | p⟩ <;> simp [PackageTable.namesSubPath, hparse]
  · cases hresolver : s.packages with
    | none => simp [lookup, hresolver]
    | some resolver =>
      cases hdirectory : s.referrer.directory with
      | none => simp [lookup, hdirectory]
      | some directory =>
        cases hentry : (resolver x directory).value with
        | none => simp [lookup, hresolver, hdirectory, hentry]
        | some entry =>
          have hsub := (hs resolver hresolver).hasSubPath hentry
          cases hnames : PackageTable.namesSubPath x <;>
            simp [lookup, hresolver, hdirectory, hentry, hsub, hnames]

/-! ### Targets of declarations -/

theorem value_evaluate {s : Setting} {d : Declaration} {x : Text} (hx : d.specifier? = some x) :
    (s.evaluate d).value =
      (s.classify d).value.bind fun kind => Target.resolve x kind s.referrer s.options s.files := by
  simp only [evaluate, hx, Traced.value_bind]
  cases (s.classify d).value with
  | none => rfl
  | some kind =>
    dsimp only [Option.bind_some]
    cases Target.resolve x kind s.referrer s.options s.files <;> rfl

theorem value_evaluate_of_none {s : Setting} {d : Declaration} (hx : d.specifier? = none) :
    (s.evaluate d).value = none := by
  simp [evaluate, hx]

theorem value_classify {s : Setting} {d : Declaration} {x : Text} (hx : d.specifier? = some x) :
    (s.classify d).value =
      if d.typeOnly then none
      else if isLocal x then some .localPath
      else (s.classifyPackage x).value := by
  simp only [classify, hx]
  split
  · rfl
  · split <;> rfl

theorem value_evaluate_local {s : Setting} {d : Declaration} {x : Text} (hx : d.specifier? = some x)
    (hlocal : isLocal x = true) {t : Target} :
    (s.evaluate d).value = some t ↔
      d.typeOnly = false ∧ Target.resolve x .localPath s.referrer s.options s.files = some t := by
  rw [value_evaluate hx, value_classify hx]
  cases d.typeOnly <;> simp [hlocal]

theorem value_evaluate_bare {s : Setting} (hs : s.Provided) {d : Declaration} {x : Text}
    (hx : d.specifier? = some x) (hbare : isLocal x = false) {t : Target} :
    (s.evaluate d).value = some t ↔
      d.typeOnly = false ∧ s.BareEligible x ∧
        Target.resolve x (.package none) s.referrer s.options s.files = some t := by
  rw [value_evaluate hx, value_classify hx]
  cases d.typeOnly
  · rcases value_classifyPackage hs x with ⟨heligible, entry, hvalue⟩ | ⟨hnot, hvalue⟩
    · have hsame : Target.resolve x (.package entry) s.referrer s.options s.files =
          Target.resolve x (.package none) s.referrer s.options s.files := rfl
      simp [hbare, hvalue, heligible, hsame]
    · simp [hbare, hvalue, hnot]
  · simp

theorem specifier?_of_evaluate {s : Setting} {d : Declaration} {t : Target}
    (h : (s.evaluate d).value = some t) : ∃ x, d.specifier? = some x := by
  cases hx : d.specifier? with
  | none => simp [value_evaluate_of_none hx] at h
  | some x => exact ⟨x, rfl⟩

theorem source?_of_evaluate {s : Setting} {d : Declaration} {t : Target}
    (h : (s.evaluate d).value = some t) : ∃ l, d.source? = some l := by
  obtain ⟨x, hx⟩ := specifier?_of_evaluate h
  obtain ⟨l, hl, _⟩ := Option.map_eq_some_iff.mp hx
  exact ⟨l, hl⟩

def record? (s : Setting) (d : Declaration) : Option SpecifierChange :=
  d.specifier?.bind fun x => (s.evaluate d).value.map fun t => ⟨d.kind, x, t.specifier⟩

theorem record?_of_evaluate {s : Setting} {d : Declaration} {t : Target} (h : (s.evaluate d).value = some t) :
    s.record? d = some (SpecifierChange.ofTarget d t) := by
  obtain ⟨x, hx⟩ := specifier?_of_evaluate h
  simp [record?, SpecifierChange.ofTarget, h, hx]

theorem record?_eq_none_iff {s : Setting} {d : Declaration} : s.record? d = none ↔ (s.evaluate d).value = none := by
  cases ht : (s.evaluate d).value with
  | none => simp [record?, ht]
  | some t => simp [record?_of_evaluate ht]

@[simp] theorem value_change (s : Setting) (d : Declaration) : (s.change d).value = (s.evaluate d).value := by
  simp only [change, Traced.value_bind]
  cases (s.evaluate d).value <;> rfl

def alone : Setting where
  referrer := Referrer.ofUrl
    ⟨Url.file, some ⟨[], [], none, none⟩, .segments ["p".toList, "a.js".toList], none, none⟩
  options := Options.default
  files := FileSystem.null
  packages := none

end ExplicitImports.Setting
