import ExplicitImports.Proofs.Extension

/-!
The extension in one pass. A scan from the right end of a specifier keeps the bounds of the last segment, the place of
its right-most dot and what stands before that dot. What it answers at the end is the extension that is read by cutting
the last segment out first.
-/
namespace ExplicitImports.Specifier

/-! ### The scan -/

/-- What stands in a segment before its right-most dot, as far as it has been seen. -/
inductive BeforeDot where
  | nothing
  | dots
  | other
  deriving DecidableEq, Repr

def BeforeDot.extend (c : Char) : BeforeDot → BeforeDot
  | .nothing | .dots => if c = '.' then .dots else .other
  | .other => .other

/-- The last segment as a scan from the right knows it: where it starts and ends, where its right-most dot is, and what
stands before the dot. The end is known from the first character of the segment on. -/
structure Scan where
  start : Nat
  stop : Option Nat
  dot : Option Nat
  before : BeforeDot
  deriving DecidableEq, Repr

namespace Scan

def initial : Scan := ⟨0, none, none, .nothing⟩

def see (scan : Scan) (place : Nat) (c : Char) : Scan where
  start := scan.start
  stop := some (scan.stop.getD (place + 1))
  dot := if scan.dot = none ∧ c = '.' then some place else scan.dot
  before := if scan.dot = none then scan.before else scan.before.extend c

/-- Goes over a text from its right end, given in reverse. Slashes are skipped until the segment ends, and the next one
after that is where it starts. -/
def run : Text → Scan → Scan
  | [], scan => scan
  | c :: rest, scan =>
    if c = '/' then
      if scan.stop = none then run rest scan else { scan with start := rest.length + 1 }
    else run rest (scan.see rest.length c)

/-- The text from the dot to the end of the segment. There is no extension without a dot, if the dot is the first
character of the segment, or if the segment is just two dots. -/
def extension (scan : Scan) (s : Text) : Text :=
  match scan.dot, scan.stop with
  | some dot, some stop =>
    if scan.before = .nothing ∨ (scan.before = .dots ∧ dot = scan.start + 1 ∧ stop = dot + 1) then []
    else (s.take stop).drop dot
  | _, _ => []

end Scan

def scannedExtension (s : Text) : Text := (Scan.run s.reverse Scan.initial).extension s

/-! ### The right-most dot -/

def beforeDot? : Text → Option Text
  | [] => none
  | c :: rest =>
    match beforeDot? rest with
    | some before => some (c :: before)
    | none => if c = '.' then some [] else none

theorem dot_not_mem_of_beforeDot? {t : Text} (h : beforeDot? t = none) : '.' ∉ t := by
  induction t with
  | nil => simp
  | cons c rest ih =>
    rw [beforeDot?] at h
    split at h
    · simp at h
    · next hrest =>
      have hc : c ≠ '.' := by
        rintro rfl
        simp at h
      simp [ih hrest, hc.symm]

theorem eq_append_of_beforeDot? {t before : Text} (h : beforeDot? t = some before) :
    ∃ name, t = before ++ '.' :: name ∧ '.' ∉ name := by
  induction t generalizing before with
  | nil => simp [beforeDot?] at h
  | cons c rest ih =>
    rw [beforeDot?] at h
    split at h
    · next inner hinner =>
      obtain ⟨name, hrest, hname⟩ := ih hinner
      obtain rfl := Option.some.inj h
      exact ⟨name, by rw [hrest, List.cons_append], hname⟩
    · next hrest =>
      split at h
      · next hc =>
        obtain rfl := Option.some.inj h
        exact ⟨rest, by rw [hc, List.nil_append], dot_not_mem_of_beforeDot? hrest⟩
      · simp at h

def BeforeDot.of (t : Text) : BeforeDot :=
  if t = [] then .nothing else if t.all (· == '.') then .dots else .other

theorem BeforeDot.of_eq_nothing_iff {t : Text} : of t = .nothing ↔ t = [] := by
  unfold of
  split
  · simp [*]
  · split <;> simp [*]

theorem BeforeDot.of_eq_dots_iff {t : Text} : of t = .dots ↔ t ≠ [] ∧ ∀ c ∈ t, c = '.' := by
  have hall : t.all (· == '.') = true ↔ ∀ c ∈ t, c = '.' := by simp
  unfold of
  rw [← hall]
  split
  · simp [*]
  · split <;> simp [*]

theorem BeforeDot.extend_of (c : Char) (t : Text) : (of t).extend c = of (c :: t) := by
  rcases t with _ | ⟨d, rest⟩
  · simp [of, extend]
  · by_cases hall : (d :: rest).all (· == '.') = true
    · simp [of, extend, hall]
    · simp [of, extend, hall]

/-! ### What the scan knows -/

namespace Scan

/-- What is known when the end of a segment has been seen, with so many characters before that. -/
def ofTail (place : Nat) (tail : Text) : Scan where
  start := 0
  stop := if tail = [] then none else some (place + tail.length)
  dot := (beforeDot? tail).map (place + ·.length)
  before := (beforeDot? tail).elim .nothing .of

@[simp] theorem ofTail_nil (place : Nat) : ofTail place [] = initial := rfl

theorem see_ofTail (place : Nat) (c : Char) (tail : Text) :
    (ofTail (place + 1) tail).see place c = ofTail place (c :: tail) := by
  have hstop : (if tail = [] then none else some (place + 1 + tail.length)).getD (place + 1) =
      place + (c :: tail).length := by
    split
    · next h => simp [h]
    · simp only [Option.getD_some, List.length_cons]
      omega
  cases hdot : beforeDot? tail with
  | none => by_cases hc : c = '.' <;> simp [see, ofTail, beforeDot?, hdot, hstop, hc, BeforeDot.of]
  | some before =>
    have hplace : place + 1 + before.length = place + (before.length + 1) := by omega
    simp [see, ofTail, beforeDot?, hdot, hstop, BeforeDot.extend_of, hplace]

theorem run_slashes (k : Nat) (rest : Text) : run (List.replicate k '/' ++ rest) initial = run rest initial := by
  induction k with
  | zero => rfl
  | succ k ih =>
    rw [List.replicate_succ, List.cons_append, run, if_pos rfl, if_pos (show initial.stop = none from rfl), ih]

theorem run_segment {front : Text} (hfront : '/' ∉ front) (rest tail : Text) :
    run (front ++ rest) (ofTail (rest.length + front.length) tail) =
      run rest (ofTail rest.length (front.reverse ++ tail)) := by
  induction front generalizing tail with
  | nil => rfl
  | cons c front ih =>
    obtain ⟨hc, hrest⟩ : c ≠ '/' ∧ '/' ∉ front := by
      simpa [eq_comm, not_or] using hfront
    have hplace : rest.length + (c :: front).length = (front ++ rest).length + 1 := by
      simp only [List.length_cons, List.length_append]
      omega
    have hlength : (front ++ rest).length = rest.length + front.length := by
      simp only [List.length_append]
      omega
    rw [List.cons_append, run, if_neg hc, hplace, see_ofTail, hlength, ih hrest, List.reverse_cons,
      List.append_assoc, List.singleton_append]

theorem run_reverse {outer base : Text} (houter : outer = [] ∨ ∃ front, outer = front ++ ['/'])
    (hbase : '/' ∉ base) (hne : base ≠ []) (k : Nat) :
    run (outer ++ base ++ List.replicate k '/').reverse initial =
      { ofTail outer.length base with start := outer.length } := by
  have hreverse : (outer ++ base ++ List.replicate k '/').reverse =
      List.replicate k '/' ++ (base.reverse ++ outer.reverse) := by simp
  have hsegment : run (base.reverse ++ outer.reverse) initial = run outer.reverse (ofTail outer.length base) := by
    have hfront : '/' ∉ base.reverse := by simpa using hbase
    simpa using run_segment hfront outer.reverse []
  rw [hreverse, run_slashes, hsegment]
  rcases houter with rfl | ⟨front, rfl⟩
  · rfl
  · have hstop : (ofTail (front ++ ['/']).length base).stop ≠ none := by simp [ofTail, hne]
    rw [List.reverse_append, List.reverse_singleton, List.singleton_append, run, if_pos rfl, if_neg hstop,
      List.length_reverse, List.length_append, List.length_singleton]

end Scan

/-! ### The two readings -/

theorem exists_eq_append_baseName (s : Text) :
    ∃ outer k, s = outer ++ baseName s ++ List.replicate k '/' ∧
      (outer = [] ∨ baseName s ≠ [] ∧ ∃ front, outer = front ++ ['/']) := by
  obtain ⟨k, hk⟩ := trimSlashes_append_replicate s
  rcases eq_rtakeWhile_or (· == '/') s.trimSlashes with hbase | ⟨front, c, hc, hbase⟩
  · refine ⟨[], k, ?_, .inl rfl⟩
    conv_lhs => rw [hk, hbase]
    rfl
  · obtain rfl : c = '/' := by simpa using hc
    have htrim : s.trimSlashes = front ++ ['/'] ++ baseName s := by
      rw [List.append_assoc, List.singleton_append]
      exact hbase
    refine ⟨front ++ ['/'], k, ?_, .inr ⟨fun hnil => ?_, front, rfl⟩⟩
    · conv_lhs => rw [hk, htrim]
    · apply getLast?_trimSlashes s
      rw [htrim, hnil, List.append_nil, List.getLast?_concat]

theorem slash_not_mem_baseName (s : Text) : '/' ∉ baseName s := by
  intro hslash
  have h := List.mem_takeWhile_imp (List.mem_reverse.mp hslash)
  simp at h

theorem extname_eq (s : Text) :
    extname s = match beforeDot? (baseName s) with
      | none => []
      | some before =>
        if baseName s = ['.', '.'] ∨ before = [] then [] else (baseName s).drop before.length := by
  unfold extname
  cases hdot : beforeDot? (baseName s) with
  | none =>
    have hpass : ∀ c ∈ (baseName s).reverse, (c != '.') = true := by
      intro c hc
      rw [bne_iff_ne]
      rintro rfl
      exact dot_not_mem_of_beforeDot? hdot (List.mem_reverse.mp hc)
    simp [List.dropWhile_eq_nil_iff.mpr hpass]
  | some before =>
    obtain ⟨name, hname, hrest⟩ := eq_append_of_beforeDot? hdot
    have hpass : ∀ c ∈ name.reverse, (c != '.') = true := by
      intro c hc
      rw [bne_iff_ne]
      rintro rfl
      exact hrest (List.mem_reverse.mp hc)
    have hreverse : (before ++ '.' :: name).reverse = name.reverse ++ '.' :: before.reverse := by simp
    rw [hname]
    simp only [hreverse, List.dropWhile_append_of_pos hpass, List.takeWhile_append_of_pos hpass]
    by_cases hparent : before ++ '.' :: name = ['.', '.']
    · simp [hparent]
    by_cases hbefore : before = []
    · simp [hbefore]
    · obtain ⟨c, more, hmore⟩ := List.exists_cons_of_ne_nil (List.reverse_ne_nil_iff.mpr hbefore)
      rw [if_neg hparent, if_neg (not_or.mpr ⟨hparent, hbefore⟩), hmore]
      simp

theorem parent_or_hidden_iff {base before name : Text} (hbase : base = before ++ '.' :: name) (hname : '.' ∉ name) :
    (BeforeDot.of before = .nothing ∨
        (BeforeDot.of before = .dots ∧ before.length = 1 ∧ base.length = before.length + 1)) ↔
      base = ['.', '.'] ∨ before = [] := by
  rw [BeforeDot.of_eq_nothing_iff, BeforeDot.of_eq_dots_iff, or_comm]
  refine or_congr_left ⟨?_, fun hparent => ?_⟩
  · rintro ⟨⟨_, hdots⟩, hone, hlength⟩
    obtain ⟨c, rfl⟩ := List.length_eq_one_iff.mp hone
    obtain rfl : c = '.' := hdots c (by simp)
    obtain rfl : name = [] := by simpa [hbase] using hlength
    exact hbase
  · obtain rfl : before = ['.'] := by
      rcases before with _ | ⟨c, _ | ⟨d, more⟩⟩ <;> simp_all
    simp [hparent]

/-- The extension of the last segment is the one that a scan from the right finds. -/
theorem extname_eq_scannedExtension (s : Text) : extname s = scannedExtension s := by
  obtain ⟨outer, k, hs, houter⟩ := exists_eq_append_baseName s
  rw [extname_eq, scannedExtension]
  have hslash := slash_not_mem_baseName s
  generalize baseName s = base at hs hslash houter ⊢
  by_cases hne : base = []
  · obtain rfl : outer = [] := by simpa [hne] using houter
    have hrun : Scan.run s.reverse Scan.initial = Scan.initial := by
      simpa [hs, hne, Scan.run] using Scan.run_slashes k []
    rw [hrun, hne]
    rfl
  · rw [hs, Scan.run_reverse (houter.imp_right And.right) hslash hne]
    cases hdot : beforeDot? base with
    | none => simp [Scan.extension, Scan.ofTail, hdot]
    | some before =>
      obtain ⟨name, hbase, hname⟩ := eq_append_of_beforeDot? hdot
      have hcut : ((outer ++ base ++ List.replicate k '/').take (outer.length + base.length)).drop
          (outer.length + before.length) = base.drop before.length := by
        rw [List.take_left' (by simp), List.drop_length_add_append]
      simp only [Scan.extension, Scan.ofTail, hdot, hne, Option.map_some, Option.elim_some, if_false, hcut,
        Nat.add_assoc, Nat.add_left_cancel_iff, parent_or_hidden_iff hbase hname]

/-- Dots before the right-most one make a name of their own unless there are just the two of them. -/
example :
    scannedExtension "x/.a.//".toList = ['.'] ∧ scannedExtension "...".toList = ['.'] ∧
      scannedExtension "x/..".toList = [] := by
  decide

end ExplicitImports.Specifier
