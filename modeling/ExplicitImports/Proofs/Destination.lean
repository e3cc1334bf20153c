import ExplicitImports.Proofs.Existence
import ExplicitImports.Proofs.Explicit

/-!
Where a new specifier leads. The extension is chosen for a path and put after a text. The two stay in step, so that the
new specifier leads to the path with the extension after it, wherever an index file is named and wherever the old
specifier ends in a name. Of the extension this needs only that it brings no slash.
-/
namespace ExplicitImports

namespace Specifier

def EndsInName (s : Text) : Prop :=
  lastPiece s ≠ [] ∧ lastPiece s ≠ ['.'] ∧ lastPiece s ≠ ['.', '.']

instance : DecidablePred EndsInName := fun s =>
  inferInstanceAs (Decidable (lastPiece s ≠ [] ∧ lastPiece s ≠ ['.'] ∧ lastPiece s ≠ ['.', '.']))

theorem ofText_injective : Function.Injective Path.ofText :=
  List.map_injective_iff.mpr fun _ _ h => Glyph.char.inj h

theorem endsInName_iff {s : Text} : EndsInName s ↔ Path.IsName (Path.ofText (lastPiece s)) := by
  constructor
  · rintro ⟨hnil, hdot, hdotDot⟩
    refine ⟨?_, ?_, ?_, lastPiece_no_slash s⟩
    · exact fun h => hnil (List.map_eq_nil_iff.mp h)
    · exact fun h => hdot (ofText_injective h)
    · exact fun h => hdotDot (ofText_injective h)
  · intro hname
    refine ⟨fun h => hname.ne_nil ?_, fun h => hname.ne_dot ?_, fun h => hname.ne_dotDot ?_⟩
    all_goals
      rw [h]
      rfl

theorem EndsInName.ne_nil {s : Text} (h : EndsInName s) : s ≠ [] := by
  rintro rfl
  exact h.1 rfl

theorem EndsInName.getLast?_ne {s : Text} (h : EndsInName s) : s.getLast? ≠ some '/' :=
  fun hslash => h.1 ((lastPiece_eq_nil_iff h.ne_nil).mpr hslash)

end Specifier

namespace Target

open Specifier

section
variable {s : Text} {r : Referrer} {o : Options} {fs : FileSystem} {t : Target} {directory : Path}

theorem wantsIndex_eq_true_iff {path : Path} :
    wantsIndex path o fs = true ↔
      fs.isDir path = true ∧ fs.exists_ (path.withSuffix o.esExtensionDefault) = false := by
  simp [wantsIndex]

theorem resolvePath_stem_append (directory : Path) (index : Bool) {e : Text} (hs : s ≠ [])
    (hends : index = true ∨ EndsInName s) (he : ∀ c ∈ e, (c != '/') = true) :
    resolvePath directory (stem s index ++ e) = (stemPath (resolvePath directory s) index).withSuffix e := by
  cases index with
  | true =>
    have hindex : resolvePath directory (stem s true ++ e) =
        ((stemPath (resolvePath directory s) true).withSuffix e).normalize :=
      resolvePath_trimSlashes_append directory hs isName_indexName e
    rw [hindex, normalize_stemPath_index directory s he]
  | false =>
    have hname : Path.IsName (Path.ofText (lastPiece s)) := endsInName_iff.mp (by simpa using hends)
    have hplain : resolvePath directory (stem s false ++ e) = ((resolvePath directory s).withSuffix e).normalize :=
      resolvePath_append hs (.inr (.inl hname))
    rw [hplain, normalize_withSuffix_of_isName hs hname he]
    rfl

/-- Text and path stay in step. The text of a directory without a sibling and its path are both continued by the name
of the index file, and the extension comes after that name, however the directory was spelled. Any other specifier is
continued by the extension alone, and so is its path if the specifier ends in a name. -/
theorem text_and_path_in_step (hd : r.directory = some directory) (hs : isLocal s = true)
    (ho : ∀ e ∈ o.extensions, '/' ∉ e) (ht : resolve s .localPath r o fs = some t) :
    let path := resolvePath directory s
    let index := fs.isDir path = true ∧ fs.exists_ (path.withSuffix o.esExtensionDefault) = false
    (index → t.specifier = s.trimSlashes ++ '/' :: indexName ++ t.extension ∧
      resolvePath directory t.specifier = (path.join (Path.ofText indexName)).withSuffix t.extension) ∧
    (¬index → t.specifier = s ++ t.extension ∧
      (EndsInName s → resolvePath directory t.specifier = path.withSuffix t.extension)) := by
  intro path index
  obtain ⟨_, hchoice, htarget, _⟩ := resolve_localPath_eq_some_iff.mp ht
  rw [takesIndex_eq hd] at htarget
  have hslash : ∀ c ∈ t.extension, (c != '/') = true := by
    intro c hc
    rw [bne_iff_ne]
    rintro rfl
    exact ho _ (choice_mem_extensions hchoice) hc
  have hleads (hends : wantsIndex path o fs = true ∨ EndsInName s) :=
    resolvePath_stem_append directory _ (ne_nil_of_isLocal hs) hends hslash
  have hspecifier : t.specifier = stem s (wantsIndex path o fs) ++ t.extension :=
    congrArg Target.specifier htarget
  rw [← hspecifier] at hleads
  constructor
  · intro hindex
    have hwants : wantsIndex path o fs = true := wantsIndex_eq_true_iff.mpr hindex
    rw [hwants] at hspecifier hleads
    exact ⟨hspecifier, hleads (.inl rfl)⟩
  · intro hindex
    have hwants : wantsIndex path o fs = false := by
      rw [← Bool.not_eq_true, wantsIndex_eq_true_iff]
      exact hindex
    rw [hwants] at hspecifier hleads
    exact ⟨hspecifier, fun hname => hleads (.inr hname)⟩

end

/-- The directory `/p/lib` with dots and slashes around it, whose index file must exist, and a name behind dots, which
is not looked for. -/
theorem spellings_in_step :
    let directory := Path.ofText "/p".toList
    let r := Setting.alone.referrer
    let o := Options.default
    let probing := { o with ensureFileExists := true }
    let fs := filesOfDirectory "lib".toList
    r.directory = some directory ∧ (∀ e ∈ o.extensions, '/' ∉ e) ∧
      resolve "./x/../lib/.//".toList .localPath r probing fs =
        some ⟨"./x/../lib/./index.js".toList, ".js".toList⟩ ∧
      resolvePath directory "./x/../lib/./index.js".toList = Path.ofText "/p/lib/index.js".toList ∧
      EndsInName "./x/../foo".toList ∧
      resolve "./x/../foo".toList .localPath r o fs = some ⟨"./x/../foo.js".toList, ".js".toList⟩ ∧
      resolvePath directory "./x/../foo.js".toList = Path.ofText "/p/foo.js".toList := by
  intro directory r o probing fs
  have hd : r.directory = some directory := by decide
  have ho : ∀ e ∈ o.extensions, '/' ∉ e := by decide
  have hprobing : ∀ e ∈ probing.extensions, '/' ∉ e := ho
  have hindex : resolve "./x/../lib/.//".toList .localPath r probing fs =
      some ⟨"./x/../lib/./index.js".toList, ".js".toList⟩ := by decide
  have hplain : resolve "./x/../foo".toList .localPath r o fs =
      some ⟨"./x/../foo.js".toList, ".js".toList⟩ := by decide
  have hname : EndsInName "./x/../foo".toList := by decide
  refine ⟨hd, ho, hindex, ?_, hname, hplain, ?_⟩
  · obtain ⟨_, hleads⟩ := (text_and_path_in_step hd (by decide) hprobing hindex).1 (by decide)
    exact hleads.trans (by decide)
  · obtain ⟨_, hleads⟩ := (text_and_path_in_step hd (by decide) ho hplain).2 (by decide)
    exact (hleads hname).trans (by decide)

end Target

end ExplicitImports
