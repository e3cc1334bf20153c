import ExplicitImports.Proofs.Program

/-!
Making a program explicit twice. A second pass reads the new specifiers like any others: it leaves those whose
extension it reads back, and changes those that relapse. Which ones relapse is told exactly. It also comes to what the
first one left out, inside the declarations that no longer change.
-/
namespace ExplicitImports

open Specifier

/-! ### Reading a target back -/

namespace Target

theorem lastPiece_stem_eq_nil_iff {s : Text} (hs : s ≠ []) (index : Bool) :
    lastPiece (stem s index) = [] ↔ index = false ∧ s.getLast? = some '/' := by
  cases index
  · simp [stem, lastPiece_eq_nil_iff hs]
  · simp [lastPiece_stem_index, indexName]

theorem extname_ofStem {s e : Text} (hs : s ≠ []) (he : IsExtension e) (index : Bool) :
    extname (ofStem (stem s index) e).specifier =
      if index = false ∧ s.getLast? = some '/' then [] else e := by
  rw [ofStem, extname_append _ he]
  simp only [lastPiece_stem_eq_nil_iff hs]

theorem isLocal_stem_append {s : Text} (hs : isLocal s = true) (index : Bool) (e : Text) :
    isLocal (stem s index ++ e) = true := by
  rcases s with _ | ⟨c, rest⟩
  · simp [isLocal] at hs
  · cases index
    · exact hs
    · obtain ⟨k, hk⟩ := trimSlashes_append_replicate (c :: rest)
      rcases ht : Text.trimSlashes (c :: rest) with _ | ⟨a, more⟩
      · simp [stem, ht, isLocal]
      · rw [ht] at hk
        obtain rfl : c = a := (List.cons.inj hk).1
        simpa [stem, ht, isLocal] using hs

end Target

/-! ### Relapses -/

/-- The ways in which a specifier `x` that got the target `t` is changed again. -/
inductive Setting.Relapses (s : Setting) (x : Text) (t : Target) : Prop where
  /-- A path in a package ends in a slash, so that the extension is read as a hidden name; where packages are looked
  up, the new path is there too. -/
  | package (bare : isLocal x = false) (slash : x.getLast? = some '/')
      (found : s.options.handlePackageModules = true → (s.lookup t.specifier).isSome = true)
  /-- A local specifier ends in a slash and got no index file; where files must exist, another extension finds one. -/
  | hidden (local_ : isLocal x = true) (slash : x.getLast? = some '/')
      (plain : Target.takesIndex x s.referrer s.options s.files = false)
      (found : s.options.ensureFileExists = true →
        (Target.choice t.specifier s.referrer s.options s.files).isSome = true)
  /-- Files must exist, but what was found is a directory, in which or beside which there is a file with another
  extension. -/
  | directory (local_ : isLocal x = true) (probes : s.options.ensureFileExists = true)
      (accepted : s.options.isEs t.extension = true)
      (leads : Target.leadsToDir t.specifier s.referrer s.files = true)
      (found : ∃ e, Target.choice t.specifier s.referrer s.options s.files = some e ∧ e ≠ t.extension)

namespace Setting

section
variable {s : Setting} {x : Text} {t : Target}

theorem resolve_package_again_iff (ho : s.options.WellFormed) (hx : x ≠ []) (hbare : isLocal x = false)
    (heligible : s.BareEligible x)
    (ht : Target.resolve x (.package none) s.referrer s.options s.files = some t) :
    (s.BareEligible t.specifier ∧
      ∃ t', Target.resolve t.specifier (.package none) s.referrer s.options s.files = some t') ↔
      s.Relapses x t := by
  obtain ⟨_, rfl, _⟩ := Target.resolve_package_eq_some_iff.mp ht
  obtain ⟨hincluded, hnames, _⟩ := heligible
  have hextname := Target.extname_ofStem hx ho.fallback false
  simp only [Target.stem, Bool.false_eq_true, if_false, true_and] at hextname
  simp only [Target.resolve_package_eq_some_iff, hextname]
  by_cases hslash : x.getLast? = some '/'
  · have hopen : s.options.esExtensionDefault ≠ [] := ho.fallback.ne_nil
    constructor
    · rintro ⟨⟨_, _, hfound⟩, _⟩
      exact .package hbare hslash hfound
    · intro h
      refine ⟨⟨IncludePackages.includes_append hslash _ hincluded,
        PackageTable.namesSubPath_append hnames _, ?_⟩, _, by simp [hslash], rfl, by simpa [hslash] using hopen⟩
      cases h with
      | package _ _ found => exact found
      | hidden local_ => simp [hbare] at local_
      | directory local_ => simp [hbare] at local_
  · constructor
    · rintro ⟨_, t', _, _, hne⟩
      simp [hslash] at hne
    · intro h
      cases h with
      | package _ slash => exact absurd slash hslash
      | hidden local_ => simp [hbare] at local_
      | directory local_ => simp [hbare] at local_

theorem resolve_localPath_again_iff (ho : s.options.WellFormed) (hlocal : isLocal x = true)
    (ht : Target.resolve x .localPath s.referrer s.options s.files = some t) :
    (∃ t', Target.resolve t.specifier .localPath s.referrer s.options s.files = some t') ↔ s.Relapses x t := by
  obtain ⟨_, hchoice, htarget, _⟩ := Target.resolve_localPath_eq_some_iff.mp ht
  have he := Target.choice_wellFormed ho hchoice
  have hextname := Target.extname_ofStem (ne_nil_of_isLocal hlocal) he
    (Target.takesIndex x s.referrer s.options s.files)
  rw [← htarget] at hextname
  rw [Target.exists_resolve_localPath_iff, hextname]
  by_cases hhidden : Target.takesIndex x s.referrer s.options s.files = false ∧ x.getLast? = some '/'
  · rw [if_pos hhidden]
    constructor
    · rintro ⟨_, e, hagain, _⟩
      exact .hidden hlocal hhidden.2 hhidden.1 fun _ => by simp [hagain]
    · intro h
      obtain ⟨e, hagain⟩ : ∃ e, Target.choice t.specifier s.referrer s.options s.files = some e := by
        cases h with
        | package bare => simp [hlocal] at bare
        | hidden _ _ _ found =>
          cases hprobes : s.options.ensureFileExists
          · exact ⟨_, Target.choice_of_not_ensure hprobes⟩
          · exact Option.isSome_iff_exists.mp (found hprobes)
        | directory _ _ _ _ found => exact ⟨_, found.choose_spec.1⟩
      exact ⟨.inl rfl, e, hagain, (Target.choice_wellFormed ho hagain).ne_nil⟩
  · rw [if_neg hhidden]
    constructor
    · rintro ⟨hgate, e, hagain, hne⟩
      obtain ⟨haccepted, hleads⟩ := hgate.resolve_left he.ne_nil
      -- Without looking at files both passes choose the same extension.
      have hprobes : s.options.ensureFileExists = true := by
        by_contra hnot
        rw [Bool.not_eq_true] at hnot
        rw [Target.choice_of_not_ensure hnot] at hchoice hagain
        exact hne (Option.some.inj (hagain.symm.trans hchoice))
      exact .directory hlocal hprobes haccepted hleads ⟨e, hagain, hne⟩
    · intro h
      cases h with
      | package bare => simp [hlocal] at bare
      | hidden _ slash plain => exact absurd ⟨plain, slash⟩ hhidden
      | directory _ _ accepted leads found => exact ⟨.inr ⟨accepted, leads⟩, found⟩

end

theorem specifier?_withSpecifier {d : Declaration} {x : Text} (hx : d.specifier? = some x) (y : Text) :
    (d.withSpecifier y).specifier? = some y := by
  cases d with
  | importFrom b l i => rfl
  | exportNamed b l i =>
    cases l with
    | none => simp [Declaration.specifier?, Declaration.source?] at hx
    | some l => rfl
  | exportAll l i => rfl

theorem typeOnly_withSpecifier (d : Declaration) (y : Text) : (d.withSpecifier y).typeOnly = d.typeOnly := by
  cases d <;> rfl

theorem evaluate_again_iff {s : Setting} (hs : s.Provided) (ho : s.options.WellFormed) {d : Declaration}
    {x : Text} {t : Target} (hx : d.specifier? = some x) (ht : (s.evaluate d).value = some t) :
    (s.evaluate (d.withSpecifier t.specifier)).value = none ↔ ¬s.Relapses x t := by
  have hy := specifier?_withSpecifier hx t.specifier
  rw [← not_iff_not, not_not, ← ne_eq, Option.ne_none_iff_exists']
  cases hlocal : isLocal x
  · obtain ⟨htype, heligible, hresolve⟩ := (value_evaluate_bare hs hx hlocal).mp ht
    have hne : x ≠ [] := by
      rintro rfl
      simp [BareEligible, PackageTable.namesSubPath, PackageSpecifier.parse_nil] at heligible
    have hbare : isLocal t.specifier = false := by
      obtain ⟨_, rfl, _⟩ := Target.resolve_package_eq_some_iff.mp hresolve
      rcases x with _ | ⟨c, rest⟩
      · exact absurd rfl hne
      · exact hlocal
    rw [← resolve_package_again_iff ho hne hlocal heligible hresolve]
    simp only [value_evaluate_bare hs hy hbare, typeOnly_withSpecifier, htype, true_and, exists_and_left]
  · obtain ⟨htype, hresolve⟩ := (value_evaluate_local hx hlocal).mp ht
    have hagain : isLocal t.specifier = true := by
      obtain ⟨_, _, htarget, _⟩ := Target.resolve_localPath_eq_some_iff.mp hresolve
      rw [htarget]
      exact Target.isLocal_stem_append hlocal _ _
    rw [← resolve_localPath_again_iff ho hlocal hresolve]
    simp only [value_evaluate_local hy hagain, typeOnly_withSpecifier, htype, true_and]

/-! ### Two passes -/

theorem evaluate_changed_iff {s : Setting} (hs : s.Provided) (ho : s.options.WellFormed) (d : Declaration) :
    (s.evaluate (s.changed d)).value = none ↔
      ∀ x t, d.specifier? = some x → (s.evaluate d).value = some t → ¬s.Relapses x t := by
  cases ht : (s.evaluate d).value with
  | none => simp [changed, ht]
  | some t =>
    obtain ⟨x, hx⟩ := specifier?_of_evaluate ht
    simp only [changed, ht, hx, evaluate_again_iff hs ho hx ht, Option.some.injEq]
    constructor
    · rintro h _ _ rfl rfl
      exact h
    · intro h
      exact h x t rfl rfl

/-- A pass does nothing exactly if no declaration gets a target, for then none is hidden from it. -/
theorem changeProgram_eq_self_iff (s : Setting) (p : Program) :
    (s.changeProgram p).value = (p, []) ↔ ∀ d ∈ p.declarations, (s.evaluate d).value = none := by
  rw [value_changeProgram, Prod.mk.injEq, List.filterMap_eq_nil_iff]
  simp only [record?_eq_none_iff, ← keeps_eq_true_iff]
  constructor
  · rintro ⟨_, hkept⟩
    rwa [← Program.reached_eq_declarations (Program.hidden_eq_nil hkept)]
  · intro hkept
    have hreached : ∀ d ∈ p.reached s.keeps, s.keeps d = true :=
      fun d hd => hkept d ((p.reached_sublist s.keeps).subset hd)
    exact ⟨Program.mapReached_eq_self fun d hd => changed_eq_self (keeps_eq_true_iff.mp (hreached d hd)), hreached⟩

theorem changeProgram_again_iff (s : Setting) (p : Program) :
    (s.changeProgram (s.changeProgram p).value.1).value = ((s.changeProgram p).value.1, []) ↔
      (∀ d ∈ p.reached s.keeps, (s.evaluate (s.changed d)).value = none) ∧
        ∀ d ∈ p.hidden s.keeps, (s.evaluate d).value = none := by
  have hperm := p.declarations_mapReached_perm s.keeps s.changed
  rw [changeProgram_eq_self_iff, value_changeProgram]
  simp only [hperm.mem_iff, List.forall_mem_append, List.forall_mem_map]

/-- A declaration that got a target stays as it is from then on exactly if it does not relapse. A program is left by a
second pass as it is, with nothing recorded, exactly if no declaration relapses that the first one came to, and none was
hidden from it that gets a target. -/
theorem second_pass_empty_iff_no_relapse {s : Setting} (hs : s.Provided) (ho : s.options.WellFormed) :
    (∀ d x t, d.specifier? = some x → (s.evaluate d).value = some t →
      ((s.evaluate (d.withSpecifier t.specifier)).value = none ↔ ¬s.Relapses x t)) ∧
    ∀ p : Program,
      (s.changeProgram (s.changeProgram p).value.1).value = ((s.changeProgram p).value.1, []) ↔
        (∀ d ∈ p.reached s.keeps, ∀ x t, d.specifier? = some x → (s.evaluate d).value = some t →
          ¬s.Relapses x t) ∧
        ∀ d ∈ p.hidden s.keeps, (s.evaluate d).value = none := by
  refine ⟨fun d x t hx ht => evaluate_again_iff hs ho hx ht, fun p => ?_⟩
  simp only [changeProgram_again_iff, evaluate_changed_iff hs ho]

/-- A slash at the end is enough for a relapse: a second pass gives the specifier a second extension. A declaration that
does not relapse is no longer changed, but the second pass then comes to what stands inside. -/
theorem slash_relapses :
    let importFrom (x : Text) := Declaration.importFrom [] ⟨x, none, ⟨7, 15⟩⟩ ⟨false, none, ⟨0, 16⟩⟩
    let t : Target := ⟨"./foo/.js".toList, ".js".toList⟩
    let inner : Program := [.block [.declaration (importFrom "./b".toList) []]]
    let nested : Program := [.declaration (importFrom "./a".toList) inner]
    alone.Provided ∧ alone.options.WellFormed ∧ (alone.evaluate (importFrom "./foo/".toList)).value = some t ∧
      (alone.changeProgram (alone.changeProgram [.declaration (importFrom "./foo/".toList) []]).value.1).value.2 =
        [⟨.importFrom, "./foo/.js".toList, "./foo/.js.js".toList⟩] ∧
      alone.Relapses "./foo/".toList t ∧
      (alone.changeProgram (alone.changeProgram nested).value.1).value.2 =
        [⟨.importFrom, "./b".toList, "./b.js".toList⟩] ∧
      ¬alone.Relapses "./a".toList ⟨"./a.js".toList, ".js".toList⟩ := by
  intro importFrom t inner nested
  have hs : alone.Provided := by simp [Provided, alone]
  have ho : alone.options.WellFormed := Options.default_wellFormed
  have ht : (alone.evaluate (importFrom "./foo/".toList)).value = some t := by decide
  have hagain := (second_pass_empty_iff_no_relapse hs ho).1
  refine ⟨hs, ho, ht, by decide, ?_, by decide, ?_⟩
  · by_contra hnot
    have hsettled := (hagain _ _ t rfl ht).mpr hnot
    revert hsettled
    decide
  · exact (hagain (importFrom "./a".toList) _ _ rfl (by decide)).mp (by decide)

end Setting

end ExplicitImports
