import ExplicitImports.Edit
import Mathlib.Data.List.Sort

/-!
Edits of texts in terms of pieces. Offsets count bytes and texts are characters; a range of bytes that begins and ends
between characters cuts a piece out of a text, and edits that do so without meeting each other are a splice: pieces
are replaced and what stands between them is kept.
-/
namespace ExplicitImports

/-! ### Bytes and characters -/

namespace Text

@[simp] theorem byteLength_nil : byteLength [] = 0 := rfl

@[simp] theorem byteLength_cons (c : Char) (t : Text) : byteLength (c :: t) = c.utf8Size + byteLength t := rfl

@[simp] theorem byteLength_append (t u : Text) : byteLength (t ++ u) = byteLength t + byteLength u := by
  induction t with
  | nil => simp
  | cons c t ih => simp [ih, Nat.add_assoc]

theorem byteLength_pos {t : Text} (ht : t ≠ []) : 0 < t.byteLength := by
  cases t with
  | nil => contradiction
  | cons c t =>
    have hc := c.utf8Size_pos
    rw [byteLength_cons]
    omega

@[simp] theorem takeBytes_zero (t : Text) : takeBytes 0 t = [] := by
  cases t with
  | nil => rfl
  | cons c t =>
    have hc := c.utf8Size_pos
    rw [takeBytes, if_neg (by omega)]

@[simp] theorem dropBytes_zero (t : Text) : dropBytes 0 t = t := by
  cases t with
  | nil => rfl
  | cons c t =>
    have hc := c.utf8Size_pos
    rw [dropBytes, if_neg (by omega)]

theorem takeBytes_append (t u : Text) : takeBytes t.byteLength (t ++ u) = t := by
  induction t with
  | nil => simp
  | cons c t ih =>
    rw [List.cons_append, byteLength_cons, takeBytes, if_pos (by omega), Nat.add_sub_cancel_left, ih]

theorem dropBytes_append (t u : Text) : dropBytes t.byteLength (t ++ u) = u := by
  induction t with
  | nil => simp
  | cons c t ih =>
    rw [List.cons_append, byteLength_cons, dropBytes, if_pos (by omega), Nat.add_sub_cancel_left, ih]

theorem exists_append_of_byteLength_le {a b x y : Text} (h : a ++ x = b ++ y)
    (hle : a.byteLength ≤ b.byteLength) : ∃ c, b = a ++ c := by
  rcases List.append_eq_append_iff.mp h with ⟨c, hb, _⟩ | ⟨c, ha, _⟩
  · exact ⟨c, hb⟩
  · have hc : c = [] := by
      by_contra hne
      have hpos := byteLength_pos hne
      rw [ha, byteLength_append] at hle
      omega
    exact ⟨[], by rw [ha, hc]; simp⟩

end Text

theorem Literal.utf8Size_of_isQuote {c : Char} (hc : Literal.isQuote c = true) : c.utf8Size = 1 := by
  rcases (by simpa [Literal.isQuote] using hc : c = '\'' ∨ c = '"') with rfl | rfl <;> rfl

namespace ByteRange

def CutsOut (r : ByteRange) (source text : Text) : Prop :=
  ∃ before after, source = before ++ text ++ after ∧ r.start = before.byteLength ∧
    r.stop = r.start + text.byteLength

theorem CutsOut.start_le_stop {r : ByteRange} {source text : Text} (h : r.CutsOut source text) :
    r.start ≤ r.stop := by
  obtain ⟨_, _, _, _, hstop⟩ := h
  omega

theorem CutsOut.slice {r : ByteRange} {source text : Text} (h : r.CutsOut source text) :
    source.slice r = text := by
  obtain ⟨before, after, rfl, hstart, hstop⟩ := h
  have hlength : r.stop - r.start = text.byteLength := by omega
  rw [Text.slice, hlength, hstart, List.append_assoc, Text.dropBytes_append, Text.takeBytes_append]

def Apart (a b : ByteRange) : Prop := a.stop ≤ b.start ∨ b.stop ≤ a.start

instance (a b : ByteRange) : Decidable (a.Apart b) :=
  inferInstanceAs (Decidable (a.stop ≤ b.start ∨ b.stop ≤ a.start))

end ByteRange

/-! ### Splices -/

/-- A text that starts at an offset, with edits made one after the other. Each edit cuts a piece out and puts its own
text in the place; what stands before, between and after these pieces is kept. -/
inductive Splice : Nat → Text → List TextEdit → Text → Prop where
  | rest (offset : Nat) (text : Text) : Splice offset text [] text
  | edit {offset : Nat} {kept cut text out : Text} {e : TextEdit} {edits : List TextEdit}
      (start : e.range.start = offset + kept.byteLength) (stop : e.range.stop = e.range.start + cut.byteLength)
      (more : Splice e.range.stop text edits out) :
      Splice offset (kept ++ cut ++ text) (e :: edits) (kept ++ e.text ++ out)

namespace TextEdit

theorem apply_nil (source : Text) : apply source [] = source := by
  simp [apply, inOrder, applyFrom]

theorem apply_singleton {before cut after : Text} {e : TextEdit} (hstart : e.range.start = before.byteLength)
    (hstop : e.range.stop = before.byteLength + cut.byteLength) :
    apply (before ++ cut ++ after) [e] = before ++ e.text ++ after := by
  have hcut : before.byteLength + cut.byteLength = Text.byteLength (before ++ cut) := by simp
  rw [apply, inOrder, List.mergeSort_singleton, applyFrom, applyFrom, hstart, hstop, hcut, Nat.sub_zero, Nat.sub_zero,
    Text.dropBytes_append, List.append_assoc before cut, Text.takeBytes_append]

theorem applyFrom_cons {source done rest cut : Text} {e : TextEdit} (edits : List TextEdit)
    (hsource : source = done ++ rest) (hcut : e.range.CutsOut source cut)
    (hdone : done.byteLength ≤ e.range.start) :
    ∃ kept after, rest = kept ++ cut ++ after ∧ e.range.start = done.byteLength + kept.byteLength ∧
      e.range.stop = e.range.start + cut.byteLength ∧
      applyFrom done.byteLength rest (e :: edits) = kept ++ e.text ++ applyFrom e.range.stop after edits := by
  obtain ⟨before, after, hpieces, hstart, hstop⟩ := hcut
  rw [hsource, List.append_assoc] at hpieces
  obtain ⟨kept, hbefore⟩ := Text.exists_append_of_byteLength_le hpieces (by omega)
  have hrest : rest = kept ++ cut ++ after := by
    rw [hbefore, List.append_assoc] at hpieces
    rw [List.append_cancel_left hpieces, List.append_assoc]
  have hkept : e.range.start = done.byteLength + kept.byteLength := by
    rw [hstart, hbefore, Text.byteLength_append]
  refine ⟨kept, after, hrest, hkept, hstop, ?_⟩
  have htake : e.range.start - done.byteLength = kept.byteLength := by omega
  have hdrop : e.range.stop - done.byteLength = Text.byteLength (kept ++ cut) := by
    rw [Text.byteLength_append]
    omega
  rw [applyFrom, htake, hdrop, hrest, Text.dropBytes_append, List.append_assoc kept cut, Text.takeBytes_append]

theorem splice_applyFrom {source : Text} {edits : List TextEdit}
    (hcut : ∀ e ∈ edits, ∃ cut, e.range.CutsOut source cut)
    (horder : edits.Pairwise fun a b => a.range.stop ≤ b.range.start) (done : Text) {rest : Text}
    (hsource : source = done ++ rest) (hdone : ∀ e ∈ edits, done.byteLength ≤ e.range.start) :
    Splice done.byteLength rest edits (applyFrom done.byteLength rest edits) := by
  induction edits generalizing done rest with
  | nil => exact .rest _ _
  | cons e edits ih =>
    obtain ⟨cut, he⟩ := hcut e (by simp)
    obtain ⟨kept, after, hrest, hstart, hstop, happly⟩ :=
      applyFrom_cons edits hsource he (hdone e (by simp))
    -- the part that is done grows up to the end of the piece
    have hlength : e.range.stop = Text.byteLength (done ++ kept ++ cut) := by
      simp only [Text.byteLength_append]
      omega
    have hmore := ih (fun a ha => hcut a (by simp [ha])) horder.tail (done ++ kept ++ cut)
      (show source = done ++ kept ++ cut ++ after by simp [hsource, hrest])
      (fun a ha => hlength ▸ List.rel_of_pairwise_cons horder ha)
    rw [happly, hrest]
    rw [← hlength] at hmore
    exact .edit hstart hstop hmore

theorem inOrder_perm (edits : List TextEdit) : (inOrder edits).Perm edits :=
  List.mergeSort_perm _ _

theorem pairwise_inOrder (edits : List TextEdit) :
    (inOrder edits).Pairwise fun a b => a.range.start ≤ b.range.start := by
  have hsorted : (inOrder edits).Pairwise fun a b => decide (a.range.start ≤ b.range.start) = true := by
    apply List.pairwise_mergeSort
    · simp only [decide_eq_true_eq]
      omega
    · simp only [Bool.or_eq_true, decide_eq_true_eq]
      omega
  exact hsorted.imp of_decide_eq_true

theorem pairwise_stop_le_inOrder {source : Text} {edits : List TextEdit}
    (hcut : ∀ e ∈ edits, ∃ cut, e.range.CutsOut source cut)
    (hapart : edits.Pairwise fun a b => a.range.Apart b.range ∧ a.range.start ≠ b.range.start) :
    (inOrder edits).Pairwise fun a b => a.range.stop ≤ b.range.start := by
  have hstill := (inOrder_perm edits).symm.pairwise hapart (by
    rintro a b ⟨h | h, hne⟩
    · exact ⟨.inr h, hne.symm⟩
    · exact ⟨.inl h, hne.symm⟩)
  refine ((pairwise_inOrder edits).and hstill).imp_of_mem ?_
  rintro a b _ hmem ⟨hle, h | h, hne⟩
  · exact h
  · obtain ⟨_, hb⟩ := hcut b ((inOrder_perm edits).mem_iff.mp hmem)
    have hstart := hb.start_le_stop
    omega

theorem splice_apply {source : Text} {edits : List TextEdit}
    (hcut : ∀ e ∈ edits, ∃ cut, e.range.CutsOut source cut)
    (hapart : edits.Pairwise fun a b => a.range.Apart b.range ∧ a.range.start ≠ b.range.start) :
    Splice 0 source (inOrder edits) (apply source edits) := by
  have hcut' : ∀ e ∈ inOrder edits, ∃ cut, e.range.CutsOut source cut :=
    fun e he => hcut e ((inOrder_perm edits).mem_iff.mp he)
  exact splice_applyFrom hcut' (pairwise_stop_le_inOrder hcut hapart) [] rfl (by simp)

end TextEdit

end ExplicitImports
