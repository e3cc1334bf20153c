import ExplicitImports.Proofs.Destination
import ExplicitImports.Proofs.Probe
import ExplicitImports.Proofs.Settling
import Mathlib.Data.Set.Card
import Mathlib.Data.Set.Finite.Lattice

/-!
Changing a specifier over and over. If no files are looked for, every change has the same extension to put, and a
specifier that has it is left alone: there are at most two changes, and a second one only after a slash. If files are
looked for, each change may lead to a directory that is changed again. But each after the first leads to a longer path
that exists, so that the files bound the number of changes.
-/
namespace ExplicitImports

def FileSystem.normalPaths (fs : FileSystem) : Set Path :=
  {p | p.normalize = p ∧ fs.exists_ p = true}

namespace Target

open Specifier

def after (kind : SpecifierKind) (r : Referrer) (o : Options) (fs : FileSystem) : Nat → Text → Option Text
  | 0, s => some s
  | n + 1, s => (resolve s kind r o fs).bind fun t => after kind r o fs n t.specifier

section
variable {s : Text} {kind : SpecifierKind} {r : Referrer} {o : Options} {fs : FileSystem} {t : Target}

theorem after_succ_of_none {n : Nat} (h : resolve s kind r o fs = none) :
    after kind r o fs (n + 1) s = none := by
  simp [after, h]

theorem after_succ_of_some {n : Nat} (h : resolve s kind r o fs = some t) :
    after kind r o fs (n + 1) s = after kind r o fs n t.specifier := by
  simp [after, h]

/-! ### One change, whatever its kind -/

theorem extension_of_resolve (ht : resolve s kind r o fs = some t) :
    t.extension ∈ o.extensions ∧ t.extension ≠ extname s ∧
      ∃ index, t = ofStem (stem s index) t.extension := by
  cases kind with
  | package entry =>
    obtain ⟨_, rfl, hne⟩ := resolve_package_eq_some_iff.mp ht
    exact ⟨by simp [ofStem, Options.extensions], hne, false, rfl⟩
  | localPath =>
    obtain ⟨_, hchoice, htarget, hne⟩ := resolve_localPath_eq_some_iff.mp ht
    exact ⟨choice_mem_extensions hchoice, hne, _, htarget⟩

theorem endsInName_of_resolve (ho : o.WellFormed) (ht : resolve s kind r o fs = some t) :
    EndsInName t.specifier := by
  obtain ⟨hmem, _, index, htarget⟩ := extension_of_resolve ht
  have he : IsExtension t.extension := ho.of_mem hmem
  have hspecifier : t.specifier = stem s index ++ t.extension := congrArg Target.specifier htarget
  rw [endsInName_iff, hspecifier, lastPiece_append _ he.no_slash, ofText_append]
  exact he.isName_append (lastPiece_no_slash _)

/-! ### Without looking for files -/

theorem extension_of_unprobed (r : Referrer) (fs : FileSystem)
    (hmode : kind ≠ .localPath ∨ o.ensureFileExists = false) :
    ∃ e, ∀ s t, resolve s kind r o fs = some t → t.extension = e := by
  cases kind with
  | package entry =>
    refine ⟨o.esExtensionDefault, fun s t ht => ?_⟩
    obtain ⟨_, rfl, _⟩ := resolve_package_eq_some_iff.mp ht
    rfl
  | localPath =>
    have hfiles : o.ensureFileExists = false := by simpa using hmode
    refine ⟨optimistic r.extension o, fun s t ht => ?_⟩
    obtain ⟨_, hchoice, _⟩ := resolve_localPath_eq_some_iff.mp ht
    rw [choice_of_not_ensure hfiles] at hchoice
    exact (Option.some.inj hchoice).symm

theorem resolve_again_eq_none (ho : o.WellFormed) (hmode : kind ≠ .localPath ∨ o.ensureFileExists = false)
    (hs : s ≠ []) (hslash : s.getLast? ≠ some '/') (ht : resolve s kind r o fs = some t) :
    resolve t.specifier kind r o fs = none := by
  obtain ⟨e, he⟩ := extension_of_unprobed r fs hmode
  obtain ⟨hmem, _, index, htarget⟩ := extension_of_resolve ht
  have hread : extname t.specifier = t.extension := by
    have hextname := extname_ofStem hs (ho.of_mem hmem) index
    rwa [← htarget, if_neg fun h => hslash h.2] at hextname
  rw [Option.eq_none_iff_forall_ne_some]
  intro t' ht'
  apply (extension_of_resolve ht').2.1
  rw [hread, he _ _ ht, he _ _ ht']

theorem after_two_eq_none (ho : o.WellFormed) (hmode : kind ≠ .localPath ∨ o.ensureFileExists = false)
    (hs : s ≠ []) (hslash : s.getLast? ≠ some '/') : after kind r o fs 2 s = none := by
  cases ht : resolve s kind r o fs with
  | none => exact after_succ_of_none ht
  | some t =>
    rw [after_succ_of_some ht]
    exact after_succ_of_none (resolve_again_eq_none ho hmode hs hslash ht)

theorem after_three_eq_none (ho : o.WellFormed) (hmode : kind ≠ .localPath ∨ o.ensureFileExists = false) :
    after kind r o fs 3 s = none := by
  cases ht : resolve s kind r o fs with
  | none => exact after_succ_of_none ht
  | some t =>
    have hname := endsInName_of_resolve ho ht
    rw [after_succ_of_some ht]
    exact after_two_eq_none ho hmode hname.ne_nil hname.getLast?_ne

/-! ### Looking for files -/

def beyond (fs : FileSystem) (path : Path) : Set Path := {p ∈ fs.normalPaths | path.length < p.length}

theorem beyond_subset (fs : FileSystem) (path : Path) : beyond fs path ⊆ fs.normalPaths :=
  Set.sep_subset _ _

theorem ncard_beyond_lt {path q : Path} (hfinite : fs.normalPaths.Finite) (hq : q ∈ beyond fs path) :
    (beyond fs q).ncard < (beyond fs path).ncard := by
  have hsub : beyond fs q ⊆ beyond fs path := fun p hp => ⟨hp.1, hq.2.trans hp.2⟩
  apply Set.ncard_lt_ncard _ (hfinite.subset (beyond_subset fs path))
  refine ⟨hsub, fun hsup => ?_⟩
  exact lt_irrefl _ (hsup hq).2

theorem length_le_stemPath (path : Path) (index : Bool) : path.length ≤ (stemPath path index).length := by
  cases index with
  | true => exact (length_lt_stemPath_index path).le
  | false => rfl

variable {directory : Path}

/-- What a change leads to exists, and its path is longer than that of the name which was changed. -/
theorem resolvePath_mem_beyond (hd : r.directory = some directory) (ho : o.WellFormed)
    (hfiles : o.ensureFileExists = true) (hname : EndsInName s) (ht : resolve s .localPath r o fs = some t) :
    resolvePath directory t.specifier ∈ beyond fs (resolvePath directory s) := by
  obtain ⟨_, hchoice, htarget, _⟩ := resolve_localPath_eq_some_iff.mp ht
  have he : IsExtension t.extension := choice_wellFormed ho hchoice
  have hpath : resolvePath directory t.specifier =
      (stemPath (resolvePath directory s) (takesIndex s r o fs)).withSuffix t.extension := by
    have hspecifier : t.specifier = stem s (takesIndex s r o fs) ++ t.extension :=
      congrArg Target.specifier htarget
    rw [hspecifier]
    exact resolvePath_stem_append directory _ hname.ne_nil (.inr hname) he.no_slash
  rw [choice_of_ensure hd hfiles] at hchoice
  refine ⟨⟨Path.normalize_normalize _, ?_⟩, ?_⟩
  · rw [hpath]
    exact exists_of_probe hchoice
  · have hstem := length_le_stemPath (resolvePath directory s) (takesIndex s r o fs)
    have hpos := List.length_pos_of_ne_nil he.ne_nil
    rw [hpath, Path.withSuffix, List.length_append, Path.ofText, List.length_map]
    omega

/-- Along a run, every change is paid for by a path that exists. -/
theorem add_ncard_beyond_le (hd : r.directory = some directory) (ho : o.WellFormed)
    (hfiles : o.ensureFileExists = true) (hfinite : fs.normalPaths.Finite) {n : Nat} {s' : Text}
    (hname : EndsInName s) (h : after .localPath r o fs n s = some s') :
    n + (beyond fs (resolvePath directory s')).ncard ≤ (beyond fs (resolvePath directory s)).ncard := by
  induction n generalizing s with
  | zero =>
    obtain rfl : s = s' := Option.some.inj h
    omega
  | succ n ih =>
    obtain ⟨t, ht, hrest⟩ := Option.bind_eq_some_iff.mp h
    have hstep := ncard_beyond_lt hfinite (resolvePath_mem_beyond hd ho hfiles hname ht)
    have hrun := ih (endsInName_of_resolve ho ht) hrest
    omega

theorem after_ncard_eq_none (ho : o.WellFormed) (hfiles : o.ensureFileExists = true)
    (hfinite : fs.normalPaths.Finite) : after .localPath r o fs (fs.normalPaths.ncard + 2) s = none := by
  cases ht : resolve s .localPath r o fs with
  | none => exact after_succ_of_none ht
  | some t =>
    -- The first change may put its extension where no file was looked for; from the second on all lead to files.
    obtain ⟨directory, hd⟩ := exists_directory_of_resolve hfiles ht
    rw [after_succ_of_some ht, Option.eq_none_iff_forall_ne_some]
    intro s' hs'
    have hrun := add_ncard_beyond_le hd ho hfiles hfinite (endsInName_of_resolve ho ht) hs'
    have hbeyond := Set.ncard_le_ncard (beyond_subset fs (resolvePath directory t.specifier)) hfinite
    omega

/-- Changes in a row come to an end. Without looking for files there are at most two, and at most one of a specifier
that does not end in a slash. Looking for files, there is at most one more than there are normal paths at which
something exists. -/
theorem repeated_changes_settle (ho : o.WellFormed) (hs : s ≠ []) :
    (kind ≠ .localPath ∨ o.ensureFileExists = false →
      after kind r o fs 3 s = none ∧ (s.getLast? ≠ some '/' → after kind r o fs 2 s = none)) ∧
    (kind = .localPath → o.ensureFileExists = true → fs.normalPaths.Finite →
      after kind r o fs (fs.normalPaths.ncard + 2) s = none) := by
  constructor
  · intro hmode
    exact ⟨after_three_eq_none ho hmode, after_two_eq_none ho hmode hs⟩
  · rintro rfl hfiles hfinite
    exact after_ncard_eq_none ho hfiles hfinite

end

end Target

/-! ### Files in memory -/

theorem finite_map_eq {f : α → β} (hf : ∀ b, {a | f a = b}.Finite) (bs : List β) :
    {as : List α | as.map f = bs}.Finite := by
  induction bs with
  | nil => simp
  | cons b bs ih =>
    apply ((hf b).image2 List.cons ih).subset
    intro as has
    obtain ⟨a, rest, rfl, ha, hrest⟩ := List.map_eq_cons_iff.mp has
    exact ⟨a, ha, rest, hrest, rfl⟩

theorem Glyph.finite_display_eq (c : Char) : {g : Glyph | g.display = c}.Finite := by
  apply (Set.toFinite {Glyph.char c, Glyph.illFormed}).subset
  intro g hg
  cases g with
  | char d => exact .inl (congrArg Glyph.char hg)
  | illFormed => exact .inr rfl

/-- In memory only finitely many normal paths exist. Names that are displayed alike lead to the same entry, so an entry
may have several. -/
theorem FileTree.finite_normalPaths (tree : FileTree) : tree.toFileSystem.normalPaths.Finite := by
  have hnames (place : List Text) : {names : List Name | names.map Path.display = place}.Finite :=
    finite_map_eq (finite_map_eq Glyph.finite_display_eq) place
  have hplaces : {place | place ∈ tree.entries.map (·.1)}.Finite := List.finite_toSet _
  apply (hplaces.biUnion fun place _ => (hnames place).image Path.ofNames).subset
  rintro p ⟨hnormal, hexists⟩
  have hplace : locate p ∈ tree.entries.map (·.1) := by
    obtain ⟨entry, hentry⟩ := Option.isSome_iff_exists.mp hexists
    obtain ⟨found, hfound, _⟩ := Option.map_eq_some_iff.mp hentry
    have hsame : found.1 = locate p := by simpa using List.find?_some hfound
    exact List.mem_map.mpr ⟨found, List.mem_of_find?_eq_some hfound, hsame⟩
  exact Set.mem_biUnion hplace ⟨p.lexical, rfl, hnormal⟩

/-- For `./foo`, the directory `/p/foo.js` is found first and its index file after that. A path in a package gets a
second extension for the slash at its end, and `./foo` gets one extension if no files are looked for. -/
theorem Target.changes_of_nested_directory :
    let r := Setting.alone.referrer
    let o := Options.default
    let probing := { o with ensureFileExists := true }
    let fs := (FileTree.empty.write (Path.ofText "/p/foo.js/index.mjs".toList) []).1.toFileSystem
    let s := "./foo".toList
    let slashed := "pkg/foo/".toList
    o.WellFormed ∧ fs.normalPaths.Finite ∧
      after .localPath r probing fs 2 s = some "./foo.js/index.mjs".toList ∧
      after .localPath r probing fs (fs.normalPaths.ncard + 2) s = none ∧
      after (.package none) r o fs 2 slashed = some "pkg/foo/.js.js".toList ∧
      after (.package none) r o fs 3 slashed = none ∧ after .localPath r o fs 2 s = none := by
  intro r o probing fs s slashed
  have ho : o.WellFormed := Options.default_wellFormed
  have hprobing : probing.WellFormed := ⟨ho.tried, ho.accepted, ho.fallback⟩
  have hfinite : fs.normalPaths.Finite := FileTree.finite_normalPaths _
  refine ⟨ho, hfinite, by decide, ?_, by decide, ?_, ?_⟩
  · exact (repeated_changes_settle hprobing (by decide)).2 rfl rfl hfinite
  · exact ((repeated_changes_settle ho (by decide)).1 (.inl (by decide))).1
  · exact ((repeated_changes_settle ho (by decide)).1 (.inr rfl)).2 (by decide)

end ExplicitImports
