import ExplicitImports.Options
import ExplicitImports.Change
import ExplicitImports.Proofs.Record

/-!
The JSON forms of options and of records of changes. What is written of either is read back, be it as an object or as a
list. Options are also read from some of their fields only, and are then the default in the others.
-/
namespace ExplicitImports

open Json Json.Record

/-! ### Values of fields -/

theorem texts_ofValue (ts : List Text) : (Decoder.list Decoder.text).ofValue (.array (ts.map .string)) = .ok ts :=
  Decoder.list_ofValue (fun _ => rfl) ts

theorem IncludePackages.ofJson_toJson (packages : IncludePackages) : ofJson packages.toJson = .ok packages := by
  cases packages with
  | all value => rfl
  | only names => simp only [toJson, ofJson, texts_ofValue]

theorem DeclarationKind.ofJson_name (kind : DeclarationKind) : ofJson (.string kind.name) = .ok kind := by
  cases kind <;> rfl

/-! ### Options -/

namespace Options

def restrict (o : Options) (chosen : List Text) : Options where
  ensureFileExists :=
    bif chosen.contains "ensureFileExists".toList then o.ensureFileExists else default.ensureFileExists
  tryExtensions := bif chosen.contains "tryExtensions".toList then o.tryExtensions else default.tryExtensions
  esExtensions := bif chosen.contains "esExtensions".toList then o.esExtensions else default.esExtensions
  esExtensionDefault :=
    bif chosen.contains "esExtensionDefault".toList then o.esExtensionDefault else default.esExtensionDefault
  includePackages := bif chosen.contains "includePackages".toList then o.includePackages else default.includePackages
  handlePackageModules :=
    bif chosen.contains "handlePackageModules".toList then o.handlePackageModules else default.handlePackageModules

def writing (o : Options) : Writing record where
  fields := o.toFields
  part := o.restrict
  part_nil := rfl
  part_congr := by
    intro chosen chosen' h
    have hkeys : record.fields.map Field.key = o.toFields.map Prod.fst := rfl
    rw [hkeys] at h
    simp only [toFields, List.map_cons, List.map_nil, List.forall_mem_cons] at h
    simp only [← List.contains_iff_mem, ← Bool.eq_iff_iff] at h
    simp only [restrict, h]
  distinct := by decide +kernel
  readsBack := by
    have hpackages :
        (Decoder.buffered IncludePackages.ofJson).ofValue o.includePackages.toJson = .ok o.includePackages :=
      o.includePackages.ofJson_toJson
    refine .cons ⟨rfl, fun seen => ⟨_, Decoder.map_ofValue rfl _, ?_⟩⟩ <|
      .cons ⟨rfl, fun seen => ⟨_, Decoder.map_ofValue (texts_ofValue _) _, ?_⟩⟩ <|
      .cons ⟨rfl, fun seen => ⟨_, Decoder.map_ofValue (texts_ofValue _) _, ?_⟩⟩ <|
      .cons ⟨rfl, fun seen => ⟨_, Decoder.map_ofValue rfl _, ?_⟩⟩ <|
      .cons ⟨rfl, fun seen => ⟨_, Decoder.map_ofValue hpackages _, ?_⟩⟩ <|
      .cons ⟨rfl, fun seen => ⟨_, Decoder.map_ofValue rfl _, ?_⟩⟩ .nil
    all_goals
      dsimp only [restrict]
      simp

theorem restrict_keys (o : Options) : o.restrict (o.toFields.map Prod.fst) = o := by
  simp [restrict, toFields]

end Options

/-! ### Records of changes -/

namespace SpecifierChange

/-- The record in the fields with the chosen keys. All of them are needed, so the rest is never seen. -/
def restrict (c : SpecifierChange) (chosen : List Text) : SpecifierChange where
  kind := bif chosen.contains "kind".toList then c.kind else record.default.kind
  source := bif chosen.contains "from".toList then c.source else record.default.source
  target := bif chosen.contains "to".toList then c.target else record.default.target

def writing (c : SpecifierChange) : Writing record where
  fields := c.toFields
  part := c.restrict
  part_nil := rfl
  part_congr := by
    intro chosen chosen' h
    have hkeys : record.fields.map Field.key = c.toFields.map Prod.fst := rfl
    rw [hkeys] at h
    simp only [toFields, List.map_cons, List.map_nil, List.forall_mem_cons] at h
    simp only [← List.contains_iff_mem, ← Bool.eq_iff_iff] at h
    simp only [restrict, h]
  distinct := by decide +kernel
  readsBack := by
    have hkind : (Decoder.buffered DeclarationKind.ofJson).ofValue (.string c.kind.name) = .ok c.kind :=
      c.kind.ofJson_name
    refine .cons ⟨rfl, fun seen => ⟨_, Decoder.map_ofValue hkind _, ?_⟩⟩ <|
      .cons ⟨rfl, fun seen => ⟨_, Decoder.map_ofValue rfl _, ?_⟩⟩ <|
      .cons ⟨rfl, fun seen => ⟨_, Decoder.map_ofValue rfl _, ?_⟩⟩ .nil
    all_goals
      dsimp only [restrict]
      simp

theorem restrict_keys (c : SpecifierChange) : c.restrict (c.toFields.map Prod.fst) = c := by
  simp [restrict, toFields]

end SpecifierChange

/-! ### Forms -/

/-- Options are read back from any of their fields, in any order and among strangers, as the default in the others, and
so are they from a list of the first fields. Records of changes are read back from all of their fields. -/
theorem json_forms_read_back :
    (∀ (o : Options) (chosen : List Text) (fields : List (Text × Json)),
      (fields.filter (·.1 ∈ o.toFields.map Prod.fst)).Perm (o.toFields.filter (·.1 ∈ chosen)) →
        Options.ofJson (.object fields) = .ok (o.restrict chosen)) ∧
    (∀ o : Options, Options.ofJson o.toJson = .ok o) ∧
    (∀ (o : Options) (n : Nat), Options.ofJson (.array ((o.toFields.map Prod.snd).take n)) =
      .ok (o.restrict ((o.toFields.map Prod.fst).take n))) ∧
    (∀ (c : SpecifierChange) (fields : List (Text × Json)),
      (fields.filter (·.1 ∈ c.toFields.map Prod.fst)).Perm c.toFields →
        SpecifierChange.ofJson (.object fields) = .ok c) ∧
    (∀ c : SpecifierChange, SpecifierChange.ofJson c.toJson = .ok c) ∧
    ∀ c : SpecifierChange, SpecifierChange.ofJson (.array (c.toFields.map Prod.snd)) = .ok c := by
  have hself (fields : List (Text × Json)) : (fields.filter (·.1 ∈ fields.map Prod.fst)).Perm fields :=
    .of_eq (filter_own_keys fields)
  refine ⟨fun o chosen fields h => ?_, fun o => ?_, fun o n => ?_, fun c fields h => ?_, fun c => ?_, fun c => ?_⟩
  · refine o.writing.ofValue_object h fun f hf hrequired => ?_
    have hoptional : ∀ f ∈ Options.record.fields, f.optional = true := by decide +kernel
    simp [hoptional f hf] at hrequired
  · exact (o.writing.ofValue_object_complete (hself _)).trans (congrArg _ o.restrict_keys)
  · exact o.writing.ofValue_array (.inl rfl)
  · exact (c.writing.ofValue_object_complete h).trans (congrArg _ c.restrict_keys)
  · exact (c.writing.ofValue_object_complete (hself _)).trans (congrArg _ c.restrict_keys)
  · exact c.writing.ofValue_array_complete.trans (congrArg _ c.restrict_keys)

theorem shuffled_fields_read_back :
    let packages : IncludePackages := .only ["@s".toList]
    let o : Options :=
      { Options.default with ensureFileExists := true, tryExtensions := [], includePackages := packages }
    let chosen : List Text := ["ensureFileExists".toList, "includePackages".toList]
    let fields : List (Text × Json) :=
      [("base".toList, .null), ("includePackages".toList, .array [.string "@s".toList]),
        ("base".toList, .object []), ("ensureFileExists".toList, .bool true)]
    let c : SpecifierChange := ⟨.exportAll, "./a".toList, "./a.js".toList⟩
    let changed : List (Text × Json) :=
      [("to".toList, .string "./a.js".toList), ("from".toList, .string "./a".toList),
        ("kind".toList, .string "exportAll".toList)]
    (fields.filter (·.1 ∈ o.toFields.map Prod.fst)).Perm (o.toFields.filter (·.1 ∈ chosen)) ∧
      (changed.filter (·.1 ∈ c.toFields.map Prod.fst)).Perm c.toFields ∧
      Options.ofJson (.object fields) =
        .ok { Options.default with ensureFileExists := true, includePackages := packages } ∧
      Options.ofJson (.array [.bool true, .array []]) =
        .ok { Options.default with ensureFileExists := true, tryExtensions := [] } ∧
      SpecifierChange.ofJson (.object changed) = .ok c ∧
      SpecifierChange.ofJson (.array [.string "exportAll".toList, .string "./a".toList, .string "./a.js".toList]) =
        .ok c := by
  intro packages o chosen fields c changed
  obtain ⟨hobject, _, hlist, hchanged, _, harray⟩ := json_forms_read_back
  have hfields : (fields.filter (·.1 ∈ o.toFields.map Prod.fst)).Perm (o.toFields.filter (·.1 ∈ chosen)) := by
    have hkept : fields.filter (·.1 ∈ o.toFields.map Prod.fst) =
        (o.toFields.filter (·.1 ∈ chosen)).reverse := by
      rfl
    exact hkept ▸ List.reverse_perm _
  have hreversed : (changed.filter (·.1 ∈ c.toFields.map Prod.fst)).Perm c.toFields := by
    have hkept : changed.filter (·.1 ∈ c.toFields.map Prod.fst) = c.toFields.reverse := by
      rfl
    exact hkept ▸ List.reverse_perm _
  exact ⟨hfields, hreversed, (hobject o chosen fields hfields).trans rfl, (hlist o 2).trans rfl,
    hchanged c changed hreversed, harray c⟩

end ExplicitImports
