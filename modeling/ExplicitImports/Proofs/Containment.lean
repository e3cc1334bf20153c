import ExplicitImports.Proofs.PackageName
import ExplicitImports.Proofs.Search

/-!
Where the file of a package may be. Paths that are joined to the directory of the package stay below it as long as they
are relative. An absolute one replaces it, so that a path in a package or the main file of a manifest may name any file.
-/
namespace ExplicitImports

namespace Path

/-! ### Components -/

/-- The components of a path: the root or the first piece, and of the others those that are not blank. -/
def components (p : Path) : List Name :=
  match p.splitOn Glyph.slash with
  | [] => []
  | first :: rest =>
    (if first ≠ [] then [first] else if p.isAbsolute then [[Glyph.slash]] else []) ++ rest.filter (!isBlank ·)

def NoWayUp (p : Path) : Prop := dotDot ∉ p.splitOn Glyph.slash

/-- Below a directory, with no way back up on the way there. -/
def Inside (directory p : Path) : Prop := ∃ rest, p.components = directory.components ++ rest ∧ dotDot ∉ rest

instance (p : Path) : Decidable p.NoWayUp := inferInstanceAs (Decidable (_ ∉ _))

theorem components_append {p : Path} (hp : p ≠ []) (q : Path) :
    components (p ++ Glyph.slash :: q) = components p ++ (q.splitOn Glyph.slash).filter (!isBlank ·) := by
  have habsolute : isAbsolute (p ++ Glyph.slash :: q) = isAbsolute p := by
    obtain ⟨g, rest, rfl⟩ := List.exists_cons_of_ne_nil hp
    rfl
  unfold components
  rw [List.splitOn_append_cons_self, habsolute]
  rcases hpieces : p.splitOn Glyph.slash with _ | ⟨first, rest⟩
  · exact absurd hpieces (List.splitOn_ne_nil _ _)
  · simp

theorem components_ne_nil {p : Path} (hp : p ≠ []) : p.components ≠ [] := by
  obtain ⟨g, rest, rfl⟩ := List.exists_cons_of_ne_nil hp
  obtain ⟨first, others, hrest⟩ := List.exists_cons_of_ne_nil (List.splitOn_ne_nil Glyph.slash rest)
  unfold components
  rw [List.splitOn_cons_eq_if_modifyHead, hrest]
  by_cases hg : g = Glyph.slash
  · simp [hg, isAbsolute, Glyph.isSlash]
  · simp [hg]

theorem components_join {p q : Path} (hp : p ≠ []) (hq : q.isAbsolute = false) :
    (p.join q).components = p.components ++ (q.splitOn Glyph.slash).filter (!isBlank ·) := by
  rcases List.eq_nil_or_concat p with rfl | ⟨rest, g, rfl⟩
  · exact absurd rfl hp
  rw [List.concat_eq_append] at hp ⊢
  simp only [join, hq, Bool.false_eq_true, if_false, List.getLast?_concat]
  split
  · next hg =>
    -- The separator is there already: it is the root, or it closes the last piece.
    obtain rfl : g = Glyph.slash := by simpa [Glyph.isSlash] using hg
    rw [List.append_assoc, List.singleton_append]
    rcases eq_or_ne rest [] with rfl | hrest
    · rfl
    · rw [components_append hrest q, components_append hrest []]
      simp [isBlank]
  · exact components_append hp q

/-! ### Joins -/

theorem join_of_isAbsolute {p q : Path} (hq : q.isAbsolute = true) : p.join q = q := if_pos hq

theorem join_ne_nil (p : Path) {q : Path} (hq : q ≠ []) : p.join q ≠ [] := by
  unfold join
  split
  · exact hq
  · split
    · exact hq
    · split <;> simp [hq]

theorem prefix_join {p q : Path} (hq : q.isAbsolute = false) : p <+: p.join q := by
  unfold join
  rw [hq]
  rcases List.eq_nil_or_concat p with rfl | ⟨rest, g, rfl⟩
  · exact List.nil_prefix
  · rw [List.concat_eq_append, List.getLast?_concat]
    dsimp only
    split
    · contradiction
    · split <;> exact List.prefix_append _ _

theorem isAbsolute_append (q : Path) {e : Path} (he : ∀ g ∈ e, g.isSlash = false) :
    (q ++ e).isAbsolute = q.isAbsolute := by
  rcases q with _ | ⟨g, rest⟩
  · rcases e with _ | ⟨g, rest⟩
    · rfl
    · exact he g (by simp)
  · rfl

theorem join_append (p q : Path) {e : Path} (he : ∀ g ∈ e, g.isSlash = false) : p.join q ++ e = p.join (q ++ e) := by
  unfold join
  rw [isAbsolute_append q he]
  split
  · rfl
  · rcases p.getLast? with _ | g
    · rfl
    · dsimp only
      split <;> simp

theorem NoWayUp.append {q e : Path} (hq : q.NoWayUp) (he : ∀ g ∈ e, g.isSlash = false) (hlong : 2 < e.length) :
    (q ++ e).NoWayUp := by
  obtain ⟨pieces, last, hpieces, hlonger⟩ := exists_splitOn_append q he
  intro hup
  rw [hlonger] at hup
  rcases List.mem_append.mp hup with hup | hup
  · exact hq (by rw [hpieces]; exact List.mem_append_left _ hup)
  · have hlength := congrArg List.length (List.mem_singleton.mp hup)
    have htwo : dotDot.length = 2 := rfl
    rw [List.length_append] at hlength
    omega

theorem Inside.refl (directory : Path) : Inside directory directory := ⟨[], by simp, by simp⟩

theorem Inside.join {directory p q : Path} (h : Inside directory p) (hd : directory ≠ [])
    (hrelative : q.isAbsolute = false) (hup : q.NoWayUp) : Inside directory (p.join q) := by
  obtain ⟨rest, hrest, hno⟩ := h
  have hp : p ≠ [] := by
    rintro rfl
    have hnil : directory.components ++ rest = [] := hrest.symm
    exact components_ne_nil hd (List.append_eq_nil_iff.mp hnil).1
  refine ⟨rest ++ (q.splitOn Glyph.slash).filter (!isBlank ·), ?_, ?_⟩
  · rw [components_join hp hrelative, hrest, List.append_assoc]
  · intro hmem
    rcases List.mem_append.mp hmem with hmem | hmem
    · exact hno hmem
    · exact hup (List.mem_of_mem_filter hmem)

/-! ### Absolute parts -/

/-- Below a directory, or spelled with one of the given absolute paths at the start. -/
def Anchored (directory : Path) (parts : List Path) (p : Path) : Prop :=
  Inside directory p ∨ ∃ part ∈ parts, part.isAbsolute = true ∧ part <+: p

theorem Anchored.join {directory p q : Path} {parts : List Path} (h : Anchored directory parts p)
    (hd : directory ≠ []) (hpart : q.isAbsolute = true → q ∈ parts) (hup : q.NoWayUp) :
    Anchored directory parts (p.join q) := by
  cases habsolute : q.isAbsolute with
  | true =>
    rw [join_of_isAbsolute habsolute]
    exact .inr ⟨q, hpart habsolute, habsolute, List.prefix_refl q⟩
  | false =>
    rcases h with hinside | ⟨part, hmem, hroot, hstart⟩
    · exact .inl (hinside.join hd habsolute hup)
    · exact .inr ⟨part, hmem, hroot, hstart.trans (prefix_join habsolute)⟩

theorem Anchored.join_append {directory p q e : Path} {parts : List Path} (h : Anchored directory parts p)
    (hd : directory ≠ []) (hpart : q.isAbsolute = true → q ∈ parts) (hup : q.NoWayUp)
    (he : ∀ g ∈ e, g.isSlash = false) (hlong : 2 < e.length) : Anchored directory parts (p.join q ++ e) := by
  cases habsolute : q.isAbsolute with
  | true =>
    rw [join_of_isAbsolute habsolute]
    exact .inr ⟨q, hpart habsolute, habsolute, List.prefix_append q e⟩
  | false =>
    have hrelative : (q ++ e).isAbsolute = false := (isAbsolute_append q he).trans habsolute
    -- The suffix stands behind the joined path, so it moves into the part before that is joined.
    rw [Path.join_append p q he]
    apply h.join hd _ (hup.append he hlong)
    simp [hrelative]

end Path

theorem Manifest.noWayUp_trimHere {t : Text} (h : (Path.ofText t).NoWayUp) : (Path.ofText (trimHere t)).NoWayUp := by
  fun_induction trimHere t with
  | case1 rest ih =>
    apply ih
    intro hup
    have hpieces : (Path.ofText ('.' :: '/' :: rest)).splitOn Glyph.slash =
        [Glyph.char '.'] :: (Path.ofText rest).splitOn Glyph.slash := rfl
    exact h (by rw [hpieces]; exact List.mem_cons_of_mem _ hup)
  | case2 t => exact h

namespace Installation

open ExplicitImports.Path

theorem suffixes_plain : ∀ s ∈ suffixes, (∀ g ∈ ofText s, g.isSlash = false) ∧ 2 < (ofText s).length := by decide

section
variable {directory p q : Path} {parts : List Path}

theorem anchored_withSuffixes (h : Anchored directory parts p) (hd : directory ≠ [])
    (hpart : q.isAbsolute = true → q ∈ parts) (hup : q.NoWayUp) :
    ∀ path ∈ withSuffixes (p.join q), Anchored directory parts path := by
  intro path hpath
  rcases List.mem_cons.mp hpath with rfl | hpath
  · exact h.join hd hpart hup
  · obtain ⟨s, hs, rfl⟩ := List.mem_map.mp hpath
    obtain ⟨hslash, hlong⟩ := suffixes_plain s hs
    exact h.join_append hd hpart hup hslash hlong

theorem anchored_indexFiles (h : Anchored directory parts p) (hd : directory ≠ []) :
    ∀ path ∈ indexFiles p, Anchored directory parts path := by
  have hindex : ∀ s ∈ suffixes, (ofText ("index".toList ++ s)).isAbsolute = false ∧
      (ofText ("index".toList ++ s)).NoWayUp := by decide
  intro path hpath
  obtain ⟨s, hs, rfl⟩ := List.mem_map.mp hpath
  obtain ⟨hrelative, hup⟩ := hindex s hs
  refine h.join hd (fun habsolute => ?_) hup
  rw [hrelative] at habsolute
  contradiction

end

section
variable (store : PackageStore)

def searched (packageDir : Path) : Option Text → Path
  | none => packageDir
  | some subPath => packageDir.join (ofText subPath)

/-- The manifest that a search consults, unless the path in the package leads to a file or to no directory. -/
def consulted? (packageDir : Path) (subPath : Option Text) : Option Manifest :=
  if store.isDir (searched packageDir subPath) = true ∧
      (subPath.isSome = true → file? store (searched packageDir subPath) = none) then
    manifestAt? store (searched packageDir subPath)
  else none

def joined (packageDir : Path) (subPath : Option Text) : List Path :=
  (subPath.map ofText).toList ++ ((consulted? store packageDir subPath).bind Manifest.mainPath?).toList

theorem anchored_directoryFiles {directory p : Path} {parts : List Path} (h : Anchored directory parts p)
    (hd : directory ≠ [])
    (hmain : ∀ m main, store.isDir p = true → manifestAt? store p = some m → m.module.or m.main = some main →
      ofText (Manifest.trimHere main) ∈ parts ∧ (ofText main).NoWayUp) :
    ∀ path ∈ directoryFiles store p, Anchored directory parts path := by
  intro path hpath
  unfold directoryFiles at hpath
  split at hpath
  · next hdir =>
    rcases List.mem_append.mp hpath with hpath | hpath
    · unfold mainFiles mainAt? at hpath
      split at hpath
      · next named hnamed =>
        obtain ⟨m, hm, hmap⟩ := Option.bind_eq_some_iff.mp hnamed
        obtain ⟨main, hor, rfl⟩ := Option.map_eq_some_iff.mp hmap
        obtain ⟨hmem, hup⟩ := hmain m main hdir hm hor
        have hup' := Manifest.noWayUp_trimHere hup
        rcases List.mem_append.mp hpath with hpath | hpath
        · exact anchored_withSuffixes h hd (fun _ => hmem) hup' path hpath
        · exact anchored_indexFiles (h.join hd (fun _ => hmem) hup') hd path hpath
      · simp at hpath
    · exact anchored_indexFiles h hd path hpath
  · simp at hpath

theorem anchored_of_find? {packageDir path : Path} {subPath : Option Text} (hd : packageDir ≠ [])
    (hsub : ∀ s ∈ subPath, (ofText s).NoWayUp)
    (hmanifest : ∀ m ∈ consulted? store packageDir subPath, ∀ main,
      m.module = some main ∨ m.main = some main → (ofText main).NoWayUp)
    (hfind : (candidates store packageDir subPath).find? store.isFile = some path) :
    Anchored packageDir (joined store packageDir subPath) path := by
  have hmain (hread : subPath.isSome = true → file? store (searched packageDir subPath) = none) :
      ∀ m main, store.isDir (searched packageDir subPath) = true →
        manifestAt? store (searched packageDir subPath) = some m → m.module.or m.main = some main →
        ofText (Manifest.trimHere main) ∈ joined store packageDir subPath ∧ (ofText main).NoWayUp := by
    intro m main hdir hm hor
    have hconsulted : consulted? store packageDir subPath = some m := by
      rw [consulted?, if_pos ⟨hdir, hread⟩, hm]
    constructor
    · simp [joined, hconsulted, Manifest.mainPath?, hor]
    · apply hmanifest m hconsulted main
      rcases Option.or_eq_some_iff.mp hor with h | ⟨_, h⟩
      exacts [.inl h, .inr h]
  cases subPath with
  | none =>
    exact anchored_directoryFiles store (.inl (Inside.refl packageDir)) hd (hmain (by simp)) path
      (List.mem_of_find?_eq_some hfind)
  | some s =>
    have hpart : ofText s ∈ joined store packageDir (some s) := by simp [joined]
    have hup := hsub s rfl
    have hself : Anchored packageDir (joined store packageDir (some s)) packageDir := .inl (Inside.refl packageDir)
    rw [candidates, List.find?_append, Option.or_eq_some_iff] at hfind
    rcases hfind with hfile | ⟨hnone, hfile⟩
    · exact anchored_withSuffixes hself hd (fun _ => hpart) hup path (List.mem_of_find?_eq_some hfile)
    · exact anchored_directoryFiles store (hself.join hd (fun _ => hpart) hup) hd (hmain fun _ => hnone) path
        (List.mem_of_find?_eq_some hfile)

theorem Nearest.ne_nil {name : Text} {directory packageDir : Path} (h : Nearest store name directory packageDir)
    (hname : name ≠ []) : packageDir ≠ [] := by
  induction h with
  | here _ _ => exact join_ne_nil _ (by simpa [ofText] using hname)
  | further _ _ _ ih => exact ih

end

theorem noWayUp_subPath {x : Text} {p : PackageSpecifier} (hp : PackageSpecifier.Spells x p)
    (hup : (ofText x).NoWayUp) : ∀ s ∈ p.subPath, (ofText s).NoWayUp := by
  obtain ⟨name, subPath⟩ := p
  rintro s rfl
  have hx : ofText x = ofText name ++ Glyph.slash :: ofText s := by
    rw [hp.eq_of_path.1]
    simp [ofText, Glyph.slash]
  intro hmem
  apply hup
  rw [hx, List.splitOn_append_cons_self]
  exact List.mem_append_right _ hmem

/-- A package resolves inside its own directory unless what is joined to that is absolute: then the absolute path is
what the entry is spelled with. An absolute path in a package leads to the same file from any directory. -/
theorem entry_inside_unless_absolute {store : PackageStore} {x : Text} {directory packageDir : Path}
    {p : PackageSpecifier} {entry : PackageEntry} (hparse : PackageSpecifier.parse x = .ok p)
    (hdir : packageDir? store p.name directory = some packageDir)
    (hentry : (resolver store x directory).value = some entry) (hup : (ofText x).NoWayUp)
    (hmanifest : ∀ m ∈ consulted? store packageDir p.subPath, ∀ main,
      m.module = some main ∨ m.main = some main → (ofText main).NoWayUp) :
    (Inside packageDir entry.path ∨
      ∃ part ∈ joined store packageDir p.subPath, part.isAbsolute = true ∧ part <+: entry.path) ∧
    ∀ s, p.subPath = some s → (ofText s).isAbsolute = true →
      ∀ other, (target? store other p.subPath).value = some entry.path := by
  have hspells := PackageSpecifier.parse_eq_ok_iff.mp hparse
  have hnearest := (packageDir?_eq_some_iff store).mp hdir
  have hfind : (candidates store packageDir p.subPath).find? store.isFile = some entry.path := by
    obtain ⟨p', packageDir', hparse', hnearest', hfind, _⟩ := value_resolver_eq_some_iff.mp hentry
    obtain rfl := Except.ok.inj (hparse.symm.trans hparse')
    obtain rfl := Option.some.inj (hdir.symm.trans ((packageDir?_eq_some_iff store).mpr hnearest'))
    exact hfind
  constructor
  · exact anchored_of_find? store (hnearest.ne_nil store hspells.name.ne_nil) (noWayUp_subPath hspells hup)
      hmanifest hfind
  · intro s hs habsolute other
    rw [hs] at hfind ⊢
    rw [value_target?, ← hfind, candidates, candidates, join_of_isAbsolute habsolute, join_of_isAbsolute habsolute]

def filesAroundPackages : FileTree :=
  let made := (FileTree.empty.makeDir? (ofText "/p/node_modules/pkg".toList)).getD FileTree.empty
  let described := (made.write (ofText "/p/node_modules/q/package.json".toList)
    "\x7b\"main\":\".//etc/x\"\x7d".toList).1
  (described.write (ofText "/etc/x.js".toList) []).1

theorem absolute_path_leaves_package :
    let store := filesAroundPackages.toStore
    let outside := ofText "/etc/x.js".toList
    (resolver store "pkg//etc/x".toList (ofText "/p".toList)).value = some ⟨outside, true⟩ ∧
      ¬ Inside (ofText "/p/node_modules/pkg".toList) outside ∧
      (∀ other, (target? store other (some "/etc/x".toList)).value = some outside) ∧
      (resolver store "q".toList (ofText "/p".toList)).value = some ⟨outside, false⟩ ∧
      ∃ part ∈ joined store (ofText "/p/node_modules/q".toList) none, part.isAbsolute = true ∧ part <+: outside := by
  intro store outside
  have hinside (name : Text)
      (hname : ¬ components (ofText ("/p/node_modules/".toList ++ name)) <+: components outside) :
      ¬ Inside (ofText ("/p/node_modules/".toList ++ name)) outside := by
    rintro ⟨rest, hrest, _⟩
    exact hname ⟨rest, hrest.symm⟩
  have hpkg : (resolver store "pkg//etc/x".toList (ofText "/p".toList)).value = some ⟨outside, true⟩ := by decide
  have hq : (resolver store "q".toList (ofText "/p".toList)).value = some ⟨outside, false⟩ := by decide
  have hpkgParse : PackageSpecifier.parse "pkg//etc/x".toList = .ok ⟨"pkg".toList, some "/etc/x".toList⟩ := rfl
  have hpkgDir : packageDir? store "pkg".toList (ofText "/p".toList) = some (ofText "/p/node_modules/pkg".toList) := by
    decide
  have hnoManifest : consulted? store (ofText "/p/node_modules/pkg".toList) (some "/etc/x".toList) = none := by decide
  have hsub := entry_inside_unless_absolute hpkgParse hpkgDir hpkg (by decide) (by
    dsimp only
    rw [hnoManifest]
    simp)
  have hqParse : PackageSpecifier.parse "q".toList = .ok ⟨"q".toList, none⟩ := rfl
  have hqDir : packageDir? store "q".toList (ofText "/p".toList) = some (ofText "/p/node_modules/q".toList) := by decide
  have hmanifest : consulted? store (ofText "/p/node_modules/q".toList) none = some ⟨none, some ".//etc/x".toList⟩ := by
    decide
  have hmain := entry_inside_unless_absolute hqParse hqDir hq (by decide) (by
    intro m hm main hnamed
    rw [hmanifest] at hm
    cases hm
    rcases hnamed with h | h <;> cases h
    decide)
  exact ⟨hpkg, hinside "pkg".toList (by decide), hsub.2 _ rfl rfl, hq,
    hmain.1.resolve_left (hinside "q".toList (by decide))⟩

end Installation

end ExplicitImports
