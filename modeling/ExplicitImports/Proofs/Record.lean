import ExplicitImports.Json.Decoder
import Mathlib.Data.List.Forall2
import Mathlib.Data.List.Nodup

/-!
Records read back from what was written of them. A record that is written field by field is read back from any of its
fields: from an object, where they stand in any order with strangers among them, or from a list that holds the first of
them. What was not written is as in the record that stands for absent fields.
-/
namespace ExplicitImports.Json

namespace Decoder

theorem map_ofValue {d : Decoder α} {v : Json} {a : α} (h : d.ofValue v = .ok a) (f : α → β) :
    (d.map f).ofValue v = .ok (f a) := by
  change f <$> d.ofValue v = .ok (f a)
  rw [h]
  rfl

theorem list_ofValue {d : Decoder α} {write : α → Json} (h : ∀ a, d.ofValue (write a) = .ok a) (items : List α) :
    (list d).ofValue (.array (items.map write)) = .ok items := by
  have hpure : d.ofValue ∘ write = fun a => pure (id a) := funext h
  change (items.map write).mapM d.ofValue = .ok items
  rw [List.mapM_map, hpure, List.mapM_pure, List.map_id]
  rfl

end Decoder

namespace Record

variable {σ : Type} {r : Record σ}

theorem missing?_eq_none_iff {seen : List Text} :
    r.missing? seen = none ↔ ∀ f ∈ r.fields, f.optional = false → f.key ∈ seen := by
  simp [missing?]

theorem filter_own_keys (fields : List (Text × Json)) : fields.filter (·.1 ∈ fields.map Prod.fst) = fields :=
  List.filter_eq_self.mpr fun _ hp => decide_eq_true (List.mem_map_of_mem hp)

def ReadsBack (part : List Text → σ) (f : Field σ) (p : Text × Json) : Prop :=
  f.key = p.1 ∧ ∀ seen, ∃ g, f.set.ofValue p.2 = .ok g ∧ g (part seen) = part (f.key :: seen)

theorem exists_of_mem_right {R : α → β → Prop} {as : List α} {bs : List β} (h : List.Forall₂ R as bs) {b : β}
    (hb : b ∈ bs) : ∃ a ∈ as, R a b := by
  induction h with
  | nil => simp at hb
  | cons hab _ ih =>
    rcases List.mem_cons.mp hb with rfl | hb
    · exact ⟨_, List.mem_cons_self, hab⟩
    · obtain ⟨a, ha, hrel⟩ := ih hb
      exact ⟨a, List.mem_cons_of_mem _ ha, hrel⟩

/-- What is written of a record, with the parts of it: the record that has the fields with given keys as they were
written, and the others as they are when absent. -/
structure Writing (r : Record σ) where
  fields : List (Text × Json)
  part : List Text → σ
  part_nil : part [] = r.default
  part_congr : ∀ {chosen chosen'},
    (∀ key ∈ r.fields.map Field.key, key ∈ chosen ↔ key ∈ chosen') → part chosen = part chosen'
  distinct : (r.fields.map Field.key).Nodup
  readsBack : List.Forall₂ (ReadsBack part) r.fields fields

namespace Writing

variable (w : Writing r)

def keys : List Text := w.fields.map Prod.fst

def known (fields : List (Text × Json)) : List Text := (fields.map Prod.fst).filter (· ∈ w.keys)

theorem keys_eq : w.keys = r.fields.map Field.key := by
  have hkeys : List.Forall₂ (fun f p => f.key = p.1) r.fields w.fields := w.readsBack.imp fun _ _ h => h.1
  rw [keys, eq_comm, ← List.forall₂_eq_eq_eq]
  exact List.forall₂_map_left_iff.mpr (List.forall₂_map_right_iff.mpr hkeys)

theorem field?_of_mem {p : Text × Json} (hp : p ∈ w.fields) :
    ∃ f, r.field? p.1 = some f ∧ ReadsBack w.part f p := by
  obtain ⟨f, hf, hback⟩ := exists_of_mem_right w.readsBack hp
  obtain ⟨other, hother⟩ : ∃ other, r.field? p.1 = some other := by
    rw [← Option.isSome_iff_exists, field?, List.find?_isSome]
    exact ⟨f, hf, by simpa using hback.1⟩
  have hkey : other.key = p.1 := by simpa using List.find?_some hother
  have hsame : other = f :=
    List.inj_on_of_nodup_map w.distinct (List.mem_of_find?_eq_some hother) hf (hkey.trans hback.1.symm)
  exact ⟨f, hsame ▸ hother, hback⟩

theorem field?_of_not_mem {key : Text} (hkey : key ∉ w.keys) : r.field? key = none := by
  rw [keys_eq] at hkey
  simpa [field?] using hkey

/-- The invariant of reading an object: the record so far is the part with the fields seen so far. -/
theorem ofFields_eq {fields : List (Text × Json)} {seen : List Text}
    (hwritten : ∀ p ∈ fields, p.1 ∈ w.keys → p ∈ w.fields) (hdistinct : (w.known fields ++ seen).Nodup)
    (hcomplete : ∀ f ∈ r.fields, f.optional = false → f.key ∈ w.known fields ++ seen) :
    r.ofFields fields seen (w.part seen) = .ok (w.part (w.known fields ++ seen)) := by
  induction fields generalizing seen with
  | nil =>
    have hnone : r.missing? seen = none := missing?_eq_none_iff.mpr hcomplete
    simp only [ofFields, hnone]
    rfl
  | cons p rest ih =>
    have hrest : ∀ q ∈ rest, q.1 ∈ w.keys → q ∈ w.fields := fun q hq => hwritten q (List.mem_cons_of_mem _ hq)
    by_cases hkey : p.1 ∈ w.keys
    · have hknown : w.known (p :: rest) = p.1 :: w.known rest := by simp [known, hkey]
      obtain ⟨f, hfield, hsame, hback⟩ := w.field?_of_mem (hwritten p List.mem_cons_self hkey)
      obtain ⟨g, hread, hset⟩ := hback seen
      rw [hsame] at hset
      rw [hknown, List.cons_append, ← List.nodup_middle] at hdistinct
      have hnew : p.1 ∉ seen := (List.nodup_cons.mp hdistinct.of_append_right).1
      have hmoved (key : Text) : key ∈ w.known rest ++ p.1 :: seen ↔ key ∈ w.known (p :: rest) ++ seen := by
        rw [hknown]
        simp [or_left_comm]
      have hafter := ih hrest hdistinct fun f hf hrequired => (hmoved f.key).mpr (hcomplete f hf hrequired)
      simp only [ofFields, hfield, hread, hset, List.contains_iff_mem, hnew, if_false]
      rw [hafter, w.part_congr fun key _ => hmoved key]
    · have hknown : w.known (p :: rest) = w.known rest := by simp [known, hkey]
      rw [hknown] at hdistinct hcomplete ⊢
      simp only [ofFields, w.field?_of_not_mem hkey]
      exact ih hrest hdistinct hcomplete

theorem ofValue_object {fields : List (Text × Json)} {chosen : List Text}
    (hwritten : (fields.filter (·.1 ∈ w.keys)).Perm (w.fields.filter (·.1 ∈ chosen)))
    (hrequired : ∀ f ∈ r.fields, f.optional = false → f.key ∈ chosen) :
    r.ofValue (.object fields) = .ok (w.part chosen) := by
  have hknown : (w.known fields).Perm (w.keys.filter (· ∈ chosen)) := by
    rw [known, keys, List.filter_map, List.filter_map]
    exact hwritten.map Prod.fst
  have hmem (key : Text) : key ∈ w.known fields ++ [] ↔ key ∈ w.keys ∧ key ∈ chosen := by
    simp [hknown.mem_iff]
  have hdistinct : (w.known fields ++ []).Nodup := by
    rw [List.append_nil, hknown.nodup_iff]
    exact (w.keys_eq ▸ w.distinct).filter _
  have hfields : ∀ p ∈ fields, p.1 ∈ w.keys → p ∈ w.fields := by
    intro p hp hkey
    have hkept : p ∈ fields.filter (·.1 ∈ w.keys) := by simp [hp, hkey]
    exact List.mem_of_mem_filter (hwritten.mem_iff.mp hkept)
  have hread := w.ofFields_eq hfields hdistinct fun f hf hopt =>
    (hmem f.key).mpr ⟨w.keys_eq ▸ List.mem_map_of_mem hf, hrequired f hf hopt⟩
  have hchosen : w.part (w.known fields ++ []) = w.part chosen :=
    w.part_congr fun key hkey => by rw [hmem key, w.keys_eq, and_iff_right hkey]
  rwa [w.part_nil, hchosen] at hread

theorem ofValue_object_complete {fields : List (Text × Json)}
    (hwritten : (fields.filter (·.1 ∈ w.keys)).Perm w.fields) : r.ofValue (.object fields) = .ok (w.part w.keys) := by
  rw [← filter_own_keys w.fields] at hwritten
  exact w.ofValue_object hwritten fun f hf _ => w.keys_eq ▸ List.mem_map_of_mem hf

/-- The invariant of reading a list: the record so far is the part with the fields read so far. -/
theorem ofItems_eq {total n : Nat} {fs : List (Field σ)} {ps : List (Text × Json)}
    (h : List.Forall₂ (ReadsBack w.part) fs ps) (hstop : r.mayStopEarly = true ∨ fs.length ≤ n) (seen : List Text) :
    r.ofItems total fs ((ps.map Prod.snd).take n) (w.part seen) =
      .ok (w.part (((ps.take n).map Prod.fst).reverse ++ seen)) := by
  induction h generalizing n seen with
  | nil => simp [ofItems]
  | @cons f p fs ps hback _ ih =>
    cases n with
    | zero =>
      have hearly : r.mayStopEarly = true := by simpa using hstop
      simp [ofItems, hearly]
    | succ n =>
      obtain ⟨hsame, hreads⟩ := hback
      obtain ⟨g, hread, hset⟩ := hreads seen
      rw [hsame] at hset
      have hafter := ih (hstop.imp_right Nat.le_of_succ_le_succ) (p.1 :: seen)
      simp only [List.map_cons, List.take_succ_cons, ofItems, hread, hset, hafter]
      simp

theorem ofValue_array {n : Nat} (hstop : r.mayStopEarly = true ∨ r.fields.length ≤ n) :
    r.ofValue (.array ((w.fields.map Prod.snd).take n)) = .ok (w.part (w.keys.take n)) := by
  have htaken : w.part (((w.fields.take n).map Prod.fst).reverse ++ []) = w.part (w.keys.take n) :=
    w.part_congr fun key _ => by simp [keys, List.map_take]
  rw [← htaken, ofValue, ← w.part_nil]
  exact w.ofItems_eq w.readsBack hstop []

theorem ofValue_array_complete : r.ofValue (.array (w.fields.map Prod.snd)) = .ok (w.part w.keys) := by
  have hlength : w.fields.length = r.fields.length := w.readsBack.length_eq.symm
  have hread := w.ofValue_array (n := w.fields.length) (.inr (Nat.le_of_eq hlength.symm))
  rwa [List.take_of_length_le (by simp), List.take_of_length_le (by simp [keys])] at hread

end Writing

end Record

end ExplicitImports.Json
