import ExplicitImports.FileTree
import ExplicitImports.Proofs.Decision

/-!
Bare specifiers. One is changed only as a path in an included package, and becomes a longer path in the same package;
URLs, packages by themselves and scopes are never changed. Looking packages up leaves some of the changes out and
makes no others.
-/
namespace ExplicitImports

open Specifier

theorem Url.cutScheme_isSome {x : Text} (h : (Url.cutScheme x).isSome = true) :
    isLocal x = false ∧ ∃ scheme rest, x = scheme ++ ':' :: rest ∧ '/' ∉ scheme := by
  unfold Url.cutScheme at h
  split at h
  · simp at h
  · next c more =>
    extract_lets isPart at h
    split at h
    · next rest hrest =>
      split at h
      · next halpha =>
        refine ⟨?_, (c :: more).takeWhile isPart, rest, ?_, fun hslash => ?_⟩
        · simp only [isLocal, Bool.or_eq_false_iff, beq_eq_false_iff_ne]
          constructor <;> (rintro rfl; revert halpha; decide)
        · rw [← hrest, List.takeWhile_append_dropWhile]
        · have hpart := List.mem_takeWhile_imp hslash
          revert hpart
          decide
      · simp at h
    · simp at h

namespace PackageSpecifier

theorem parse_eq_ok_some {x name p : Text} (h : parse x = .ok ⟨name, some p⟩) :
    x = name ++ '/' :: p ∧ p ≠ [] ∧ IsPackageName name := by
  have hspells := parse_eq_ok_iff.mp h
  obtain ⟨hx, hp⟩ := hspells.eq_of_path
  exact ⟨hx, hp, hspells.name⟩

/-! ### Texts that lead into no package -/

/-- A bare specifier that is no path in a package. -/
inductive NoPath : Text → Prop where
  | url {x : Text} (scheme : (Url.cutScheme x).isSome = true) : NoPath x
  /-- One segment, be it a package or a scope by itself, and perhaps a slash. -/
  | single {name tail : Text} (bare : isLocal name = false) (ne_nil : name ≠ []) (no_slash : '/' ∉ name)
      (slash : tail = [] ∨ tail = ['/']) : NoPath (name ++ tail)
  | inScope {scope name tail : Text} (in_scope : '/' ∉ scope) (no_slash : '/' ∉ name)
      (slash : tail = [] ∨ tail = ['/']) : NoPath ('@' :: scope ++ '/' :: (name ++ tail))

theorem append_tail_ne {name tail a p : Text} (hname : '/' ∉ name) (htail : tail = [] ∨ tail = ['/']) (hp : p ≠ []) :
    name ++ tail ≠ a ++ '/' :: p := by
  intro h
  rcases htail with rfl | rfl
  · rw [List.append_nil] at h
    exact hname (by simp [h])
  · have hdrop := congrArg List.dropLast h
    rw [List.dropLast_concat, List.dropLast_append_of_ne_nil (by simp), List.dropLast_cons_of_ne_nil hp] at hdrop
    exact hname (by simp [hdrop])

theorem IsSegment.append_slash_ne {s : Text} (hs : IsSegment s) {u scheme rest : Text} (hscheme : '/' ∉ scheme) :
    s ++ '/' :: u ≠ scheme ++ ':' :: rest := by
  intro h
  rcases List.append_eq_append_iff.mp h with ⟨c, rfl, hc⟩ | ⟨c, rfl, hc⟩
  · rcases c with _ | ⟨d, c⟩
    · simp at hc
    · obtain rfl := (List.cons.inj hc).1
      simp at hscheme
  · rcases c with _ | ⟨d, c⟩
    · simp at hc
    · obtain rfl := (List.cons.inj hc).1
      exact hs.no_colon (by simp)

theorem NoPath.isLocal_eq_false {x : Text} (h : NoPath x) : isLocal x = false := by
  cases h with
  | url scheme => exact (Url.cutScheme_isSome scheme).1
  | @single name tail bare ne_nil =>
    obtain ⟨c, more, rfl⟩ := List.exists_cons_of_ne_nil ne_nil
    exact bare
  | inScope => rfl

theorem NoPath.parse_ne {x name p : Text} (h : NoPath x) : parse x ≠ .ok ⟨name, some p⟩ := by
  intro hparse
  obtain ⟨hx, hp, hname⟩ := parse_eq_ok_some hparse
  cases h with
  | url scheme =>
    obtain ⟨_, scheme, rest, rfl, hscheme⟩ := Url.cutScheme_isSome scheme
    cases hname with
    | plain hsegment => exact hsegment.append_slash_ne hscheme hx.symm
    | inScope hscope =>
      rw [List.append_assoc, List.cons_append] at hx
      exact hscope.append_slash_ne hscheme hx.symm
  | single _ _ no_slash slash => exact append_tail_ne no_slash slash hp hx
  | @inScope outer inner tail in_scope no_slash slash =>
    cases hname with
    | plain hsegment hat =>
      obtain ⟨a, more, rfl⟩ := List.exists_cons_of_ne_nil hsegment.ne_nil
      obtain rfl := (List.cons.inj hx).1
      simp at hat
    | @inScope scope last hscope =>
      have hfirst : '/' ∉ '@' :: outer := by simpa using in_scope
      have hsame : ('@' :: outer) ++ '/' :: (inner ++ tail) = scope ++ '/' :: (last ++ '/' :: p) := by simpa using hx
      exact append_tail_ne no_slash slash hp (append_separator_inj hfirst hscope.no_slash hsame).2

end PackageSpecifier

/-! ### Changes of bare specifiers -/

namespace Setting

/-- A bare specifier that is changed is an included path in a package, and what it becomes is the path with the
default extension in the same package. What is no path in a package is never changed. -/
theorem bare_change_keeps_package {s : Setting} (hs : s.Provided) {d : Declaration} {x : Text}
    (hx : d.specifier? = some x) :
    (isLocal x = false → ∀ t, (s.evaluate d).value = some t →
      s.options.includePackages.includes x = true ∧ ∃ name sub, sub ≠ [] ∧
        PackageSpecifier.parse x = .ok ⟨name, some sub⟩ ∧
        PackageSpecifier.parse t.specifier = .ok ⟨name, some (sub ++ s.options.esExtensionDefault)⟩) ∧
    (PackageSpecifier.NoPath x → (s.evaluate d).value = none) := by
  constructor
  · intro hbare t ht
    obtain ⟨_, ⟨hincluded, hnames, _⟩, hresolve⟩ := (value_evaluate_bare hs hx hbare).mp ht
    obtain ⟨_, rfl, _⟩ := Target.resolve_package_eq_some_iff.mp hresolve
    obtain ⟨name, sub, hparse⟩ := PackageTable.namesSubPath_eq_true_iff.mp hnames
    obtain ⟨_, hsub, _⟩ := PackageSpecifier.parse_eq_ok_some hparse
    exact ⟨hincluded, name, sub, hsub, hparse, PackageSpecifier.parse_append hparse _⟩
  · intro hnone
    rw [Option.eq_none_iff_forall_ne_some]
    intro t ht
    obtain ⟨_, ⟨_, hnames, _⟩, _⟩ := (value_evaluate_bare hs hx hnone.isLocal_eq_false).mp ht
    obtain ⟨name, sub, hparse⟩ := PackageTable.namesSubPath_eq_true_iff.mp hnames
    exact hnone.parse_ne hparse

def besidePackage : Setting where
  referrer := alone.referrer
  options := { Options.default with includePackages := .all true }
  files := FileSystem.null
  packages := some (Installation.resolver
    (FileTree.empty.write (Path.ofText "/p/node_modules/@s/q/r.mjs".toList) []).1.toStore)

theorem besidePackage_provided : besidePackage.Provided := by
  rintro resolver hresolver
  obtain rfl := Option.some.inj hresolver
  exact .installation _

theorem scoped_path_keeps_package :
    let d (x : Text) := Declaration.exportAll ⟨x, none, ⟨14, 24⟩⟩ ⟨false, none, ⟨0, 25⟩⟩
    let t : Target := ⟨"@s/q/r.js".toList, ".js".toList⟩
    besidePackage.Provided ∧ (besidePackage.evaluate (d "@s/q/r".toList)).value = some t ∧
      (∃ name sub, sub ≠ [] ∧ PackageSpecifier.parse "@s/q/r".toList = .ok ⟨name, some sub⟩ ∧
        PackageSpecifier.parse t.specifier = .ok ⟨name, some (sub ++ ".js".toList)⟩) ∧
      PackageSpecifier.NoPath "node:fs/promises".toList ∧
      (besidePackage.evaluate (d "node:fs/promises".toList)).value = none := by
  intro d t
  have ht : (besidePackage.evaluate (d "@s/q/r".toList)).value = some t := by decide
  have hurl : PackageSpecifier.NoPath "node:fs/promises".toList := .url rfl
  exact ⟨besidePackage_provided, ht, ((bare_change_keeps_package besidePackage_provided rfl).1 rfl t ht).2, hurl,
    (bare_change_keeps_package besidePackage_provided rfl).2 hurl⟩

/-! ### Looking packages up -/

def lookingUp (s : Setting) (handle : Bool) : Setting :=
  { s with options := { s.options with handlePackageModules := handle } }

theorem bareEligible_lookingUp {s : Setting} {handle : Bool} {x : Text} :
    (s.lookingUp handle).BareEligible x ↔
      (s.options.includePackages.includes x = true ∧ PackageTable.namesSubPath x = true) ∧
        (handle = true → (s.lookup x).isSome = true) :=
  and_assoc.symm

theorem resolve_lookingUp (s : Setting) (handle : Bool) (x : Text) (kind : SpecifierKind) :
    Target.resolve x kind (s.lookingUp handle).referrer (s.lookingUp handle).options (s.lookingUp handle).files =
      Target.resolve x kind s.referrer s.options s.files :=
  rfl

theorem evaluate_lookingUp_local {s : Setting} {d : Declaration} {x : Text} (hx : d.specifier? = some x)
    (hlocal : isLocal x = true) :
    ((s.lookingUp true).evaluate d).value = ((s.lookingUp false).evaluate d).value := by
  apply Option.ext
  intro t
  simp only [value_evaluate_local hx hlocal, resolve_lookingUp]

theorem evaluate_lookingUp_bare {s : Setting} (hs : s.Provided) {d : Declaration} {x : Text}
    (hx : d.specifier? = some x) (hbare : isLocal x = false) :
    ((s.lookingUp true).evaluate d).value =
      if (s.lookup x).isSome then ((s.lookingUp false).evaluate d).value else none := by
  apply Option.ext
  intro t
  have hprovided : ∀ handle, (s.lookingUp handle).Provided := fun _ => hs
  rw [value_evaluate_bare (hprovided true) hx hbare, bareEligible_lookingUp, resolve_lookingUp]
  by_cases hfound : (s.lookup x).isSome = true
  · rw [if_pos hfound, value_evaluate_bare (hprovided false) hx hbare, bareEligible_lookingUp, resolve_lookingUp]
    simp [hfound]
  · simp [hfound]

/-- With packages looked up a declaration gets no target, or the very target that it gets without. Local specifiers
make no difference, and of the bare ones exactly those that are not found are left out. -/
theorem lookup_only_filters {s : Setting} (hs : s.Provided) (d : Declaration) :
    let looked := ((s.lookingUp true).evaluate d).value
    let plain := ((s.lookingUp false).evaluate d).value
    (looked = none ∨ looked = plain) ∧
      ∀ x, d.specifier? = some x →
        (isLocal x = true → looked = plain) ∧
        (isLocal x = false → looked = if (s.lookup x).isSome then plain else none) := by
  intro looked plain
  cases hx : d.specifier? with
  | none => exact ⟨.inl (value_evaluate_of_none hx), by simp⟩
  | some x =>
    refine ⟨?_, ?_⟩
    · cases hlocal : isLocal x with
      | true => exact .inr (evaluate_lookingUp_local hx hlocal)
      | false =>
        have hbare : looked = _ := evaluate_lookingUp_bare hs hx hlocal
        by_cases hfound : (s.lookup x).isSome = true
        · exact .inr (hbare.trans (if_pos hfound))
        · exact .inl (hbare.trans (if_neg hfound))
    · rintro _ ⟨rfl⟩
      exact ⟨evaluate_lookingUp_local hx, evaluate_lookingUp_bare hs hx⟩

theorem missing_path_filtered :
    let d (x : Text) := Declaration.exportAll ⟨x, none, ⟨14, 24⟩⟩ ⟨false, none, ⟨0, 25⟩⟩
    let looked (x : Text) := ((besidePackage.lookingUp true).evaluate (d x)).value
    let plain (x : Text) := ((besidePackage.lookingUp false).evaluate (d x)).value
    besidePackage.Provided ∧ looked "@s/q/r".toList = plain "@s/q/r".toList ∧
      plain "@s/q/r".toList = some ⟨"@s/q/r.js".toList, ".js".toList⟩ ∧
      looked "@s/q/t".toList = none ∧ plain "@s/q/t".toList = some ⟨"@s/q/t.js".toList, ".js".toList⟩ := by
  intro d looked plain
  have hthere : (besidePackage.lookup "@s/q/r".toList).isSome = true := by decide
  have hmissing : ¬(besidePackage.lookup "@s/q/t".toList).isSome = true := by decide
  have hfilter (x : Text) := (lookup_only_filters besidePackage_provided (d x)).2 x rfl
  exact ⟨besidePackage_provided, ((hfilter _).2 rfl).trans (if_pos hthere), by decide,
    ((hfilter _).2 rfl).trans (if_neg hmissing), by decide⟩

end Setting

end ExplicitImports
