import ExplicitImports.Edit

/-!
Literals that are written are read back: what stands between the quotes of a JSON string is read, as part of a
literal, as the text it was made from. So the edit of a literal tells the value it gives.
-/
namespace ExplicitImports

namespace Literal

/-! ### JSON strings as literals -/

theorem hexNumber?_hexDigit : ∀ n < 32,
    hexNumber? ['0', '0', Json.hexDigit (n / 16), Json.hexDigit n] = some n := by decide

theorem unicodeEscape?_control {c : Char} (hc : c.toNat < 0x20) (rest : Text) :
    unicodeEscape? ('0' :: '0' :: Json.hexDigit (c.toNat / 16) :: Json.hexDigit c.toNat :: rest) =
      some ([c], rest) := by
  have hpoint (spelling : Text) : codePoint? c.toNat spelling = some [c] := by
    simp only [codePoint?]
    rw [if_pos (by omega), if_neg (by omega), Char.ofNat_toNat]
  simp [unicodeEscape?, hexNumber?_hexDigit c.toNat hc, hpoint]

theorem escapeChar_cases (c : Char) :
    (∃ spelling, Json.escapeChar c = '\\' :: spelling ∧ ∀ rest, escape? (spelling ++ rest) = some ([c], rest)) ∨
      (Json.escapeChar c = [c] ∧ c ≠ '"' ∧ c ≠ '\\' ∧ c ≠ '\n' ∧ c ≠ '\r') := by
  unfold Json.escapeChar
  split
  · next h => exact .inl ⟨_, rfl, fun rest => by rw [h]; rfl⟩
  split
  · next h => exact .inl ⟨_, rfl, fun rest => by rw [h]; rfl⟩
  split
  · next h => exact .inl ⟨_, rfl, fun rest => by rw [h]; rfl⟩
  split
  · next h => exact .inl ⟨_, rfl, fun rest => by rw [h]; rfl⟩
  split
  · next h => exact .inl ⟨_, rfl, fun rest => by rw [h]; rfl⟩
  split
  · next h => exact .inl ⟨_, rfl, fun rest => by rw [h]; rfl⟩
  split
  · next h => exact .inl ⟨_, rfl, fun rest => by rw [h]; rfl⟩
  split
  · next h => exact .inl ⟨_, rfl, fun rest => unicodeEscape?_control h rest⟩
  · next hquote hslash _ _ hfeed hreturn _ _ => exact .inr ⟨rfl, hquote, hslash, hfeed, hreturn⟩

theorem bodyUpTo_escapeChar (c : Char) (n : Nat) (rest : Text) :
    bodyUpTo '"' (n + 1) (Json.escapeChar c ++ rest) =
      (bodyUpTo '"' n rest).map fun (more, after) => (c :: more, after) := by
  rcases escapeChar_cases c with ⟨spelling, hspelling, hescape⟩ | ⟨hself, hquote, hslash, hfeed, hreturn⟩
  · rw [hspelling, List.cons_append]
    have hopen : ('\\' : Char) ≠ '"' := by decide
    simp only [bodyUpTo, hescape, hopen, if_false, if_true, Option.bind_eq_bind, Option.bind_some]
    cases bodyUpTo '"' n rest <;> rfl
  · rw [hself, List.singleton_append]
    simp only [bodyUpTo, hquote, hslash, hfeed, hreturn, or_self, if_false]
    cases bodyUpTo '"' n rest <;> rfl

theorem bodyUpTo_flatMap_escapeChar (v : Text) (n : Nat) (hn : v.length < n) (rest : Text) :
    bodyUpTo '"' n (v.flatMap Json.escapeChar ++ '"' :: rest) = some (v, rest) := by
  induction v generalizing n with
  | nil =>
    obtain ⟨m, rfl⟩ := Nat.exists_eq_add_of_lt hn
    simp [bodyUpTo]
  | cons c v ih =>
    rcases n with _ | n
    · simp at hn
    · rw [List.flatMap_cons, List.append_assoc, bodyUpTo_escapeChar, ih n (by simpa using hn)]
      rfl

theorem length_le_flatMap_escapeChar (v : Text) : v.length ≤ (v.flatMap Json.escapeChar).length := by
  induction v with
  | nil => simp
  | cons c v ih =>
    have hc : 0 < (Json.escapeChar c).length := by
      rcases escapeChar_cases c with ⟨spelling, hspelling, _⟩ | ⟨hself, _⟩
      · simp [hspelling]
      · simp [hself]
    rw [List.flatMap_cons, List.length_append, List.length_cons]
    omega

theorem read?_quote_append (v rest : Text) : read? (Json.quote v ++ rest) = some (v, rest) := by
  have hlength := length_le_flatMap_escapeChar v
  simp only [Json.quote, List.cons_append, List.append_assoc, List.nil_append, read?]
  rw [if_pos (by decide)]
  refine bodyUpTo_flatMap_escapeChar v _ ?_ rest
  simp only [List.length_append, List.length_cons]
  omega

theorem read?_quote (v : Text) : read? (Json.quote v) = some (v, []) := by
  simpa using read?_quote_append v []

end Literal

theorem Json.quote_injective {v w : Text} (h : Json.quote v = Json.quote w) : v = w := by
  have hread := Literal.read?_quote v
  rw [h, Literal.read?_quote w] at hread
  exact (Prod.mk.inj (Option.some.inj hread)).1.symm

theorem TextEdit.ofLiteral_injective {source : Text} {range : ByteRange} {v w : Text}
    (h : ofLiteral source range v = ofLiteral source range w) : v = w := by
  have hinner : ∀ text text', (⟨⟨range.start + 1, range.stop - 1⟩, text⟩ : TextEdit) ≠ ⟨range, text'⟩ := by
    intro text text' heq
    have := congrArg (·.range.start) heq
    simp at this
  unfold ofLiteral at h
  split at h
  · split at h
    · split at h
      · exact congrArg TextEdit.text h
      · exact absurd h (hinner _ _)
    · split at h
      · exact absurd h.symm (hinner _ _)
      · exact Json.quote_injective (congrArg TextEdit.text h)
  · exact Json.quote_injective (congrArg TextEdit.text h)

end ExplicitImports
