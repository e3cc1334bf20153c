import ExplicitImports.Proofs.Edit
import ExplicitImports.Proofs.Literal
import ExplicitImports.Proofs.Text

/-!
The grammar of string literals, beside the reader. A literal denotes a sequence of UTF-16 code units, since an escape
can name a single unit. The forms of the grammar are told apart by their first characters, so a text begins with at
most one literal. What an edit leaves in the place of a literal is such a literal, and it denotes the new value.
-/
namespace ExplicitImports

namespace Text

def codeUnits (n : Nat) : List Nat :=
  if n < 0x10000 then [n] else [0xD800 + (n - 0x10000) / 0x400, 0xDC00 + (n - 0x10000) % 0x400]

def units (t : Text) : List Nat := t.flatMap fun c => codeUnits c.toNat

theorem codeUnits_append_inj {c d : Char} {u w : List Nat}
    (h : codeUnits c.toNat ++ u = codeUnits d.toNat ++ w) : c = d ∧ u = w := by
  -- a character is no surrogate, so that one unit is never the first of a pair
  have hc : c.toNat < 0xD800 ∨ (0xDFFF < c.toNat ∧ c.toNat < 0x110000) := c.valid
  have hd : d.toNat < 0xD800 ∨ (0xDFFF < d.toNat ∧ d.toNat < 0x110000) := d.valid
  unfold codeUnits at h
  split at h <;> split at h <;> simp only [List.cons_append, List.nil_append, List.cons.injEq] at h
  · exact ⟨Char.toNat_inj.mp h.1, h.2⟩
  · omega
  · omega
  · obtain ⟨hhigh, hlow, htail⟩ := h
    refine ⟨Char.toNat_inj.mp ?_, htail⟩
    omega

theorem codeUnits_ne_nil (n : Nat) : codeUnits n ≠ [] := by
  unfold codeUnits
  split <;> simp

theorem units_injective {v w : Text} (h : units v = units w) : v = w := by
  induction v generalizing w with
  | nil =>
    cases w with
    | nil => rfl
    | cons d w => simp [units, codeUnits_ne_nil] at h
  | cons c v ih =>
    cases w with
    | nil => simp [units, codeUnits_ne_nil] at h
    | cons d w =>
      obtain ⟨rfl, htail⟩ := codeUnits_append_inj (u := units v) (w := units w) h
      rw [ih htail]

end Text

namespace Literal

open Text

/-! ### The grammar -/

def escapedChar : Char → Char
  | 'b' => '\x08'
  | 't' => '\t'
  | 'n' => '\n'
  | 'v' => '\x0b'
  | 'f' => '\x0c'
  | 'r' => '\r'
  | c => c

def afterLineEnd? : Text → Option Text
  | '\r' :: '\n' :: rest => some rest
  | c :: rest => if isLineEnd c then some rest else none
  | [] => none

/-- An escape after its backslash, the units it denotes, and the text after it. Zero is the only digit that is an
escape, and only if no digit follows. -/
inductive Escape : Text → List Nat → Text → Prop where
  | character {c : Char} {rest : Text} (hdigit : c.isDigit = false) (hx : c ≠ 'x') (hu : c ≠ 'u')
      (hline : isLineEnd c = false) : Escape (c :: rest) (codeUnits (escapedChar c).toNat) rest
  | zero {rest : Text} (alone : ∀ d ∈ rest.head?, d.isDigit = false) : Escape ('0' :: rest) [0] rest
  | byte {a b : Char} {rest : Text} {n : Nat} (hn : hexNumber? [a, b] = some n) :
      Escape ('x' :: a :: b :: rest) [n] rest
  | unit {a b c d : Char} {rest : Text} {n : Nat} (hn : hexNumber? [a, b, c, d] = some n) :
      Escape ('u' :: a :: b :: c :: d :: rest) [n] rest
  | codePoint {t digits rest : Text} {n : Nat} (ht : t = digits ++ '}' :: rest)
      (hn : hexNumber? digits = some n) (hmax : n ≤ 0x10FFFF) : Escape ('u' :: '{' :: t) (codeUnits n) rest
  | lineEnd {t rest : Text} (hrest : afterLineEnd? t = some rest) : Escape t [] rest

/-- What follows the opening quote, up to the closing one. A separator of lines or paragraphs may stand in a literal
as it is; a line feed or a carriage return may not. -/
inductive Body (quote : Char) : Text → List Nat → Text → Prop where
  | close {rest : Text} : Body quote (quote :: rest) [] rest
  | plain {c : Char} {t rest : Text} {u : List Nat} (hquote : c ≠ quote) (hslash : c ≠ '\\')
      (hfeed : c ≠ '\n') (hreturn : c ≠ '\r') (more : Body quote t u rest) :
      Body quote (c :: t) (codeUnits c.toNat ++ u) rest
  | escape {t after rest : Text} {u w : List Nat} (first : Escape t u after) (more : Body quote after w rest) :
      Body quote ('\\' :: t) (u ++ w) rest

def Denotes (t : Text) (u : List Nat) (rest : Text) : Prop :=
  ∃ quote body, t = quote :: body ∧ isQuote quote = true ∧ Body quote body u rest

/-! ### A text begins with at most one literal -/

theorem isLineEnd_of_afterLineEnd? {c : Char} {t rest : Text} (h : afterLineEnd? (c :: t) = some rest) :
    isLineEnd c = true := by
  unfold afterLineEnd? at h
  split at h <;> grind [isLineEnd]

theorem isSome_hexValue?_of_foldlM {digits : Text} {m n : Nat}
    (h : digits.foldlM (fun n c => (hexValue? c).map (n * 16 + ·)) m = some n) :
    ∀ c ∈ digits, (hexValue? c).isSome = true := by
  induction digits generalizing m with
  | nil => simp
  | cons c digits ih =>
    rw [List.foldlM_cons] at h
    obtain ⟨k, hk, hmore⟩ := Option.bind_eq_some_iff.mp h
    rw [List.forall_mem_cons]
    exact ⟨by simpa using congrArg Option.isSome hk, ih hmore⟩

theorem ne_brace_of_hexNumber? {digits : Text} {n : Nat} (h : hexNumber? digits = some n) :
    ∀ c ∈ digits, c ≠ '{' ∧ c ≠ '}' := by
  unfold hexNumber? at h
  split at h
  · contradiction
  · intro c hc
    have hhex := isSome_hexValue?_of_foldlM h c hc
    constructor <;> rintro rfl <;> simp [hexValue?] at hhex

theorem Escape.unique {t rest rest' : Text} {u u' : List Nat} (h : Escape t u rest) (h' : Escape t u' rest') :
    u = u' ∧ rest = rest' := by
  cases h with
  | character hdigit hx hu hline =>
    cases h' with
    | character => exact ⟨rfl, rfl⟩
    | zero => simp at hdigit
    | byte => contradiction
    | unit => contradiction
    | codePoint => contradiction
    | lineEnd hrest => simp [isLineEnd_of_afterLineEnd? hrest] at hline
  | zero =>
    cases h' with
    | character hdigit => simp at hdigit
    | zero => exact ⟨rfl, rfl⟩
    | lineEnd hrest => simp [afterLineEnd?, isLineEnd] at hrest
  | byte hn =>
    cases h' with
    | character => contradiction
    | byte hn' => simp [Option.some.inj (hn.symm.trans hn')]
    | lineEnd hrest => simp [afterLineEnd?, isLineEnd] at hrest
  | unit hn =>
    cases h' with
    | character => contradiction
    | unit hn' => simp [Option.some.inj (hn.symm.trans hn')]
    | codePoint => exact absurd rfl (ne_brace_of_hexNumber? hn '{' (by simp)).1
    | lineEnd hrest => simp [afterLineEnd?, isLineEnd] at hrest
  | codePoint ht hn =>
    cases h' with
    | character => contradiction
    | unit hn' => exact absurd rfl (ne_brace_of_hexNumber? hn' '{' (by simp)).1
    | codePoint ht' hn' =>
      obtain ⟨rfl, rfl⟩ := append_separator_inj (fun hmem => (ne_brace_of_hexNumber? hn _ hmem).2 rfl)
        (fun hmem => (ne_brace_of_hexNumber? hn' _ hmem).2 rfl) (ht.symm.trans ht')
      simp [Option.some.inj (hn.symm.trans hn')]
    | lineEnd hrest => simp [afterLineEnd?, isLineEnd] at hrest
  | lineEnd hrest =>
    cases h' with
    | character _ _ _ hline => simp [isLineEnd_of_afterLineEnd? hrest] at hline
    | zero => simp [afterLineEnd?, isLineEnd] at hrest
    | byte => simp [afterLineEnd?, isLineEnd] at hrest
    | unit => simp [afterLineEnd?, isLineEnd] at hrest
    | codePoint => simp [afterLineEnd?, isLineEnd] at hrest
    | lineEnd hrest' => exact ⟨rfl, Option.some.inj (hrest.symm.trans hrest')⟩

theorem Body.unique {quote : Char} (hquote : quote ≠ '\\') {t rest rest' : Text} {u u' : List Nat}
    (h : Body quote t u rest) (h' : Body quote t u' rest') : u = u' ∧ rest = rest' := by
  induction h generalizing u' rest' with
  | close =>
    cases h' with
    | close => exact ⟨rfl, rfl⟩
    | plain hne => contradiction
    | escape => contradiction
  | plain hne hslash _ _ _ ih =>
    cases h' with
    | close => contradiction
    | plain _ _ _ _ more' =>
      obtain ⟨rfl, rfl⟩ := ih more'
      exact ⟨rfl, rfl⟩
    | escape => contradiction
  | escape first _ ih =>
    cases h' with
    | close => contradiction
    | plain _ hslash => contradiction
    | escape first' more' =>
      obtain ⟨rfl, rfl⟩ := first.unique first'
      obtain ⟨rfl, rfl⟩ := ih more'
      exact ⟨rfl, rfl⟩

theorem Denotes.unique {t rest rest' : Text} {u u' : List Nat} (h : Denotes t u rest) (h' : Denotes t u' rest') :
    u = u' ∧ rest = rest' := by
  obtain ⟨quote, body, rfl, hquote, hbody⟩ := h
  obtain ⟨quote', body', heq, _, hbody'⟩ := h'
  obtain ⟨rfl, rfl⟩ := List.cons.inj heq
  apply hbody.unique _ hbody'
  rintro rfl
  simp [isQuote] at hquote

/-! ### Literals that are written -/

theorem body_of_fitsQuotes {quote : Char} {v : Text} (hv : TextEdit.fitsQuotes quote v = true) (rest : Text) :
    Body quote (v ++ quote :: rest) (units v) rest := by
  induction v with
  | nil => exact .close
  | cons c v ih =>
    simp only [TextEdit.fitsQuotes, List.all_cons, Bool.and_eq_true, bne_iff_ne, ne_eq] at hv ih
    obtain ⟨⟨⟨⟨hquote, hslash⟩, hfeed⟩, hreturn⟩, hmore⟩ := hv
    exact .plain hquote hslash hfeed hreturn (ih hmore)

theorem escapeChar_denotes (c : Char) :
    (∃ spelling, Json.escapeChar c = '\\' :: spelling ∧
      ∀ rest, Escape (spelling ++ rest) (codeUnits c.toNat) rest) ∨
      (Json.escapeChar c = [c] ∧ c ≠ '"' ∧ c ≠ '\\' ∧ c ≠ '\n' ∧ c ≠ '\r') := by
  by_cases hshort : c ∈ ['"', '\\', '\x08', '\x0c', '\n', '\r', '\t']
  · left
    simp only [List.mem_cons, List.not_mem_nil, or_false] at hshort
    rcases hshort with rfl | rfl | rfl | rfl | rfl | rfl | rfl <;>
      exact ⟨_, rfl, fun rest => .character rfl (by decide) (by decide) rfl⟩
  · simp only [List.mem_cons, List.not_mem_nil, or_false, not_or] at hshort
    by_cases hcontrol : c.toNat < 0x20
    · left
      refine ⟨['u', '0', '0', Json.hexDigit (c.toNat / 16), Json.hexDigit c.toNat], ?_, fun rest => ?_⟩
      · simp [Json.escapeChar, hshort, hcontrol]
      · have hunits : codeUnits c.toNat = [c.toNat] := if_pos (by omega)
        rw [hunits]
        exact .unit (hexNumber?_hexDigit c.toNat hcontrol)
    · right
      refine ⟨?_, hshort.1, hshort.2.1, hshort.2.2.2.2.1, hshort.2.2.2.2.2.1⟩
      simp [Json.escapeChar, hshort, hcontrol]

theorem body_of_escapeChar (v rest : Text) :
    Body '"' (v.flatMap Json.escapeChar ++ '"' :: rest) (units v) rest := by
  induction v with
  | nil => exact .close
  | cons c v ih =>
    rw [List.flatMap_cons, List.append_assoc]
    rcases escapeChar_denotes c with ⟨spelling, hspelling, hescape⟩ | ⟨hself, hquote, hslash, hfeed, hreturn⟩
    · rw [hspelling]
      exact .escape (hescape _) ih
    · rw [hself]
      exact .plain hquote hslash hfeed hreturn ih

theorem bodyUpTo_of_fitsQuotes {quote : Char} {v : Text} (hv : TextEdit.fitsQuotes quote v = true) (n : Nat)
    (hn : v.length < n) (rest : Text) : bodyUpTo quote n (v ++ quote :: rest) = some (v, rest) := by
  induction v generalizing n with
  | nil =>
    obtain ⟨m, rfl⟩ := Nat.exists_eq_add_of_lt hn
    simp [bodyUpTo]
  | cons c v ih =>
    simp only [TextEdit.fitsQuotes, List.all_cons, Bool.and_eq_true, bne_iff_ne, ne_eq] at hv ih
    obtain ⟨⟨⟨⟨hquote, hslash⟩, hfeed⟩, hreturn⟩, hmore⟩ := hv
    cases n with
    | zero => simp at hn
    | succ n =>
      simp only [List.cons_append, bodyUpTo, hquote, hslash, hfeed, hreturn, or_self, if_false]
      rw [ih hmore n (by simpa using hn)]
      rfl

end Literal

namespace TextEdit

def newLiteral (quote : Char) (v : Text) : Text :=
  if fitsQuotes quote v then quote :: v ++ [quote] else Json.quote v

theorem apply_ofLiteral {quote : Char} (hquote : Literal.isQuote quote = true) (before body after v : Text) :
    let text : Text := quote :: body ++ [quote]
    let source := before ++ text ++ after
    apply source [ofLiteral source ⟨before.byteLength, before.byteLength + text.byteLength⟩ v] =
      before ++ newLiteral quote v ++ after := by
  intro text source
  have hslice : Text.slice source ⟨before.byteLength, before.byteLength + text.byteLength⟩ = text :=
    ByteRange.CutsOut.slice ⟨before, after, rfl, rfl, rfl⟩
  obtain ⟨c, more, hmore⟩ := List.exists_cons_of_ne_nil (show body ++ [quote] ≠ [] by simp)
  have htext : text = quote :: c :: more := congrArg (quote :: ·) hmore
  unfold ofLiteral newLiteral
  rw [hslice, htext]
  dsimp only
  rw [hquote, Bool.true_and, ← htext]
  split
  · -- the cut is what stands between the quotes, so each quote counts to its side
    have hsource : source = (before ++ [quote]) ++ body ++ (quote :: after) := by simp [source, text]
    have hsize := Literal.utf8Size_of_isQuote hquote
    rw [hsource, apply_singleton]
    · simp
    · simp [hsize]
    · simp only [text, List.cons_append, Text.byteLength_cons, Text.byteLength_append, Text.byteLength_nil, hsize]
      omega
  · exact apply_singleton rfl rfl

theorem denotes_newLiteral {quote : Char} (hquote : Literal.isQuote quote = true) (v rest : Text) :
    Literal.Denotes (newLiteral quote v ++ rest) v.units rest := by
  unfold newLiteral
  split
  · next hv => exact ⟨quote, _, rfl, hquote, by simpa using Literal.body_of_fitsQuotes hv rest⟩
  · exact ⟨'"', _, rfl, by decide, by simpa using Literal.body_of_escapeChar v rest⟩

theorem read?_newLiteral {quote : Char} (hquote : Literal.isQuote quote = true) (v rest : Text) :
    Literal.read? (newLiteral quote v ++ rest) = some (v, rest) := by
  unfold newLiteral
  split
  · next hv =>
    simp only [List.cons_append, List.append_assoc, List.nil_append, Literal.read?, hquote, if_true]
    apply Literal.bodyUpTo_of_fitsQuotes hv
    simp only [List.length_append, List.length_cons]
    omega
  · exact Literal.read?_quote_append v rest

/-- Where a literal in quotes stood, its edit leaves the value in the same quotes if it fits, and else a JSON string.
Whatever follows, the text from there on begins with exactly one literal: it ends where the edit ends and denotes
the units of the value, which no other text has; and the reader finds the value there. -/
theorem edited_literal_denotes_value {quote : Char} (hquote : Literal.isQuote quote = true)
    (before body after v : Text) :
    let text : Text := quote :: body ++ [quote]
    let source := before ++ text ++ after
    let range : ByteRange := ⟨before.byteLength, before.byteLength + text.byteLength⟩
    let literal := if fitsQuotes quote v then quote :: v ++ [quote] else Json.quote v
    apply source [ofLiteral source range v] = before ++ literal ++ after ∧
      ∀ rest, (∀ u tail, Literal.Denotes (literal ++ rest) u tail ↔ u = v.units ∧ tail = rest) ∧
        (∀ w : Text, Literal.Denotes (literal ++ rest) w.units rest ↔ w = v) ∧
        Literal.read? (literal ++ rest) = some (v, rest) := by
  intro text source range literal
  have hdenotes (rest : Text) : Literal.Denotes (literal ++ rest) v.units rest := denotes_newLiteral hquote v rest
  refine ⟨apply_ofLiteral hquote before body after v, fun rest => ⟨fun u tail => ?_, fun w => ?_, ?_⟩⟩
  · constructor
    · intro h
      exact h.unique (hdenotes rest)
    · rintro ⟨rfl, rfl⟩
      exact hdenotes tail
  · constructor
    · intro h
      exact Text.units_injective (h.unique (hdenotes rest)).1
    · rintro rfl
      exact hdenotes rest
  · exact read?_newLiteral hquote v rest

theorem escaped_literal_denotes_value :
    let v := "./a'b\"\\\n\u2028😀\x01.js".toList
    let literal := "\"./a'b\\\"\\\\\\n\u2028😀\\u0001.js\"".toList
    apply "import './a';".toList [ofLiteral "import './a';".toList ⟨7, 12⟩ v] =
        "import ".toList ++ literal ++ ";".toList ∧
      Literal.read? (literal ++ ";".toList) = some (v, ";".toList) ∧
      ∀ w : Text, Literal.Denotes (literal ++ ";".toList) w.units ";".toList ↔ w = v := by
  intro v literal
  obtain ⟨hedit, hread⟩ := @edited_literal_denotes_value '\'' (by decide) "import ".toList "./a".toList
    ";".toList v
  have hliteral : (if fitsQuotes '\'' v then '\'' :: v ++ ['\''] else Json.quote v) = literal := by decide
  rw [hliteral] at hedit hread
  exact ⟨hedit, (hread ";".toList).2.2, (hread ";".toList).2.1⟩

end TextEdit

end ExplicitImports
