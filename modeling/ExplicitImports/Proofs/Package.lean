import ExplicitImports.Package.Resolver
import ExplicitImports.Options
import ExplicitImports.Proofs.Extension
import ExplicitImports.Proofs.PackageName

/-!
Bare specifiers and the resolvers that come with the library. A path in a package stays one when text is put after
it, and every resolver that is provided tells a path in a package from the package itself just as the spelling
does.
-/
namespace ExplicitImports

namespace PackageSpecifier

/-! ### Text after a path in a package -/

theorem parse_nil : parse [] = .error ⟨.emptySegment, [], []⟩ := rfl

theorem parse_append {x name p : Text} (h : parse x = .ok ⟨name, some p⟩) (y : Text) :
    parse (x ++ y) = .ok ⟨name, some (p ++ y)⟩ :=
  parse_eq_ok_iff.mpr ((parse_eq_ok_iff.mp h).append y)

end PackageSpecifier

/-! ### Resolvers that are provided -/

namespace PackageTable

theorem namesSubPath_eq_true_iff {x : Text} :
    namesSubPath x = true ↔ ∃ name p, PackageSpecifier.parse x = .ok ⟨name, some p⟩ := by
  unfold namesSubPath
  split
  · next q hq =>
    rcases q with ⟨name, _ | p⟩
    · simp [hq]
    · simp [hq]
  · next e he => simp [he]

theorem namesSubPath_append {x : Text} (h : namesSubPath x = true) (y : Text) :
    namesSubPath (x ++ y) = true := by
  obtain ⟨name, p, hp⟩ := namesSubPath_eq_true_iff.mp h
  exact namesSubPath_eq_true_iff.mpr ⟨name, p ++ y, PackageSpecifier.parse_append hp y⟩

def ofEntries (entries : List (Text × Path)) : PackageTable :=
  entries.foldl (fun table entry => table.add entry.1 entry.2) empty

def Faithful (table : PackageTable) : Prop :=
  ∀ entry ∈ table.entries, entry.2.hasSubPath = namesSubPath entry.1

theorem Faithful.add {table : PackageTable} (h : table.Faithful) (x : Text) (path : Path) :
    (table.add x path).Faithful := by
  intro entry hentry
  rcases List.mem_cons.mp hentry with rfl | hentry
  · rfl
  · exact h entry hentry

theorem faithful_foldl_add {table : PackageTable} (h : table.Faithful) (entries : List (Text × Path)) :
    (entries.foldl (fun table entry => table.add entry.1 entry.2) table).Faithful := by
  induction entries generalizing table with
  | nil => exact h
  | cons entry rest ih => exact ih (h.add entry.1 entry.2)

theorem faithful_ofEntries (entries : List (Text × Path)) : (ofEntries entries).Faithful :=
  faithful_foldl_add (by simp [Faithful, empty]) entries

theorem Faithful.hasSubPath_of_get? {table : PackageTable} (h : table.Faithful) {x : Text}
    {entry : PackageEntry} (hget : table.get? x = some entry) : entry.hasSubPath = namesSubPath x := by
  obtain ⟨⟨key, _⟩, hfind, rfl⟩ := Option.map_eq_some_iff.mp hget
  have hkey : key = x := by simpa using List.find?_some hfind
  rw [h _ (List.mem_of_find?_eq_some hfind), hkey]

end PackageTable

/-- The resolvers of the library: a table that entries were added to, or a search in an installation. -/
inductive PackageResolver.Provided : PackageResolver → Prop where
  | table (entries : List (Text × Path)) : Provided (PackageTable.ofEntries entries).resolver
  | installation (store : PackageStore) : Provided (Installation.resolver store)

theorem Installation.hasSubPath_of_resolver {store : PackageStore} {x : Text} {directory : Path}
    {entry : PackageEntry} (h : (Installation.resolver store x directory).value = some entry) :
    entry.hasSubPath = PackageTable.namesSubPath x := by
  unfold Installation.resolver at h
  split at h
  · simp at h
  · next q hq =>
    split at h
    · simp at h
    · next packageDir _ =>
      obtain ⟨path, _, rfl⟩ := Option.map_eq_some_iff.mp h
      simp [PackageTable.namesSubPath, hq]

theorem PackageResolver.Provided.hasSubPath {resolver : PackageResolver} (h : resolver.Provided) {x : Text}
    {directory : Path} {entry : PackageEntry} (hentry : (resolver x directory).value = some entry) :
    entry.hasSubPath = PackageTable.namesSubPath x := by
  cases h with
  | table entries => exact (PackageTable.faithful_ofEntries entries).hasSubPath_of_get? hentry
  | installation store => exact Installation.hasSubPath_of_resolver hentry

/-! ### Included packages -/

theorem IncludePackages.covers_append {name x : Text} (hx : x.getLast? = some '/') (y : Text)
    (h : covers name x = true) : covers name (x ++ y) = true := by
  simp only [covers, Bool.and_eq_true] at h ⊢
  obtain ⟨hname, hafter⟩ := h
  refine ⟨hname, ?_⟩
  split at hafter
  · simp at hafter
  · next hrest =>
    have htrim : name.trimSlashes ≠ [] := by simpa using hname
    have hself : x = name.trimSlashes := by
      simpa using (List.isPrefixOf?_eq_some_iff_append_eq.mp hrest).symm
    have hlast : ¬(name.trimSlashes.getLast htrim == '/') = true :=
      List.rdropWhile_last_not (· == '/') name htrim
    rw [hself, List.getLast?_eq_getLast_of_ne_nil htrim] at hx
    exact absurd (by simpa using Option.some.inj hx) hlast
  · next c rest hrest =>
    have hlonger : name.trimSlashes.isPrefixOf? (x ++ y) = some (c :: rest ++ y) := by
      rw [List.isPrefixOf?_eq_some_iff_append_eq] at hrest ⊢
      rw [← hrest, List.append_assoc]
    rw [hlonger]
    exact hafter

theorem IncludePackages.includes_append {packages : IncludePackages} {x : Text}
    (hx : x.getLast? = some '/') (y : Text) (h : packages.includes x = true) :
    packages.includes (x ++ y) = true := by
  cases packages with
  | all value => exact h
  | only names =>
    simp only [includes, List.any_eq_true] at h ⊢
    obtain ⟨name, hmem, hname⟩ := h
    exact ⟨name, hmem, covers_append hx y hname⟩

end ExplicitImports
