import ExplicitImports.Proofs.Destination

/-!
The two ways to choose an extension: by looking for files, and without looking. Both put it after the same stem, and
what is chosen without looking is what is found first, if it is there. The choice without looking follows the referring
module, also beside a sibling for whose sake a directory keeps its name.
-/
namespace ExplicitImports

def Options.probing (o : Options) (files : Bool) : Options := { o with ensureFileExists := files }

namespace Target

open Specifier

section
variable {s : Text} {r : Referrer} {o : Options} {fs : FileSystem} {directory : Path}

theorem resolve_localPath_of_choice {e : Text}
    (hgate : extname s = [] ∨ (o.isEs (extname s) = true ∧ leadsToDir s r fs = true))
    (hchoice : choice s r o fs = some e) :
    resolve s .localPath r o fs =
      if e = extname s then none else some (ofStem (stem s (takesIndex s r o fs)) e) := by
  rw [resolve_localPath_eq, if_pos hgate, hchoice]
  by_cases hsame : e = extname s <;> simp [hsame]

/-! ### With and without looking -/

theorem probe_eq_optimistic {path : Path} {sourceExtension : Text} (hes : o.isEs sourceExtension = true)
    (hexists : fs.exists_ (path.withSuffix (optimistic sourceExtension o)) = true) :
    probe path sourceExtension o fs = some (optimistic sourceExtension o) := by
  have hown : optimistic sourceExtension o = sourceExtension := if_pos hes
  rw [hown] at hexists ⊢
  unfold probe candidates
  rw [if_pos hes, List.singleton_append]
  exact List.find?_cons_of_pos hexists

/-- Where looking for files gives a target, not looking gives the same stem with the extension that is chosen so, or
nothing if the specifier has that extension. And if the referring module's extension is accepted and there is something
with it at the path in question, it makes no difference whether files are looked for. -/
theorem modes_agree_up_to_extension (hd : r.directory = some directory) :
    (∀ t, resolve s .localPath r (o.probing true) fs = some t → ∃ b, t.specifier = b ++ t.extension ∧
      resolve s .localPath r (o.probing false) fs =
        if optimistic r.extension o = extname s then none else some (ofStem b (optimistic r.extension o))) ∧
    (o.isEs r.extension = true →
      let path := resolvePath directory s
      fs.exists_ ((stemPath path (wantsIndex path o fs)).withSuffix (optimistic r.extension o)) = true →
      resolve s .localPath r (o.probing true) fs = resolve s .localPath r (o.probing false) fs) := by
  have hunprobed : choice s r (o.probing false) fs = some (optimistic r.extension o) := choice_of_not_ensure rfl
  constructor
  · intro t ht
    obtain ⟨hgate, _, htarget, _⟩ := resolve_localPath_eq_some_iff.mp ht
    refine ⟨stem s (takesIndex s r o fs), ?_, ?_⟩
    · exact congrArg Target.specifier htarget
    · exact resolve_localPath_of_choice hgate hunprobed
  · intro hes path hexists
    have hprobed : choice s r (o.probing true) fs = some (optimistic r.extension o) := by
      rw [choice_of_ensure hd rfl, takesIndex_eq hd]
      exact probe_eq_optimistic hes hexists
    -- The rest of the decision does not depend on the mode.
    rw [resolve_localPath_eq, resolve_localPath_eq, hprobed, hunprobed]
    rfl

end

def moduleWith (extension : Text) : Referrer :=
  Referrer.ofUrl
    ⟨Url.file, some ⟨[], [], none, none⟩, .segments ["p".toList, "a".toList ++ extension], none, none⟩

/-- A directory with the module's extension in its name becomes its index file if files are looked for, and stays
otherwise. For a module with the extension of the index file both ways give the same. -/
theorem modes_of_directory :
    let directory := Path.ofText "/p".toList
    let probing := Options.default.probing true
    let unprobed := Options.default.probing false
    let s := "./lib.mjs".toList
    let fs := filesOfDirectory "lib.mjs".toList
    let r := moduleWith ".mjs".toList
    let r' := moduleWith ".js".toList
    r.directory = some directory ∧ r'.directory = some directory ∧
      resolve s .localPath r probing fs = some ⟨"./lib.mjs/index.js".toList, ".js".toList⟩ ∧
      resolve s .localPath r unprobed fs = none ∧
      Options.default.isEs r'.extension = true ∧
      resolve s .localPath r' probing fs = resolve s .localPath r' unprobed fs := by
  intro directory probing unprobed s fs r r'
  have hd : r.directory = some directory := by decide
  have hd' : r'.directory = some directory := by decide
  have hprobing : resolve s .localPath r probing fs = some ⟨"./lib.mjs/index.js".toList, ".js".toList⟩ := by decide
  have hes : Options.default.isEs r'.extension = true := by decide
  obtain ⟨b, _, hunprobed⟩ := (modes_agree_up_to_extension hd).1 _ hprobing
  refine ⟨hd, hd', hprobing, ?_, hes, ?_⟩
  · exact hunprobed.trans (if_pos (by decide))
  · exact (modes_agree_up_to_extension hd').2 hes (by decide)

/-! ### Beside a sibling -/

section
variable {s : Text} {r : Referrer} {o : Options} {fs : FileSystem} {directory : Path}

/-- Beside a file of its name with the default extension, a name without an extension, be it that of a directory or
not, gets the extension that is chosen without looking, and leads to the path with that. This is the sibling exactly if
the referring module has the default extension itself, or one that no loader accepts. -/
theorem resolve_beside_sibling (hd : r.directory = some directory) (ho : o.WellFormed)
    (hfiles : o.ensureFileExists = false) (hext : extname s = []) (hname : EndsInName s)
    (hsibling : fs.exists_ ((resolvePath directory s).withSuffix o.esExtensionDefault) = true) :
    let e := optimistic r.extension o
    let path := resolvePath directory s
    resolve s .localPath r o fs = some ⟨s ++ e, e⟩ ∧ resolvePath directory (s ++ e) = path.withSuffix e ∧
      (resolvePath directory (s ++ e) = path.withSuffix o.esExtensionDefault ↔
        r.extension = o.esExtensionDefault ∨ o.isEs r.extension = false) := by
  intro e path
  have he : IsExtension e := ho.of_mem (optimistic_mem_extensions r.extension o)
  have hplain : wantsIndex path o fs = false := by simp [wantsIndex, path, hsibling]
  have hresolve : resolve s .localPath r o fs = some ⟨s ++ e, e⟩ := by
    rw [resolve_localPath_of_choice (.inl hext) (choice_of_not_ensure hfiles), takesIndex_eq hd, hplain, hext]
    exact if_neg he.ne_nil
  have hpath : resolvePath directory (s ++ e) = path.withSuffix e :=
    resolvePath_stem_append directory false hname.ne_nil (.inr hname) he.no_slash
  refine ⟨hresolve, hpath, ?_⟩
  have hsame : path.withSuffix e = path.withSuffix o.esExtensionDefault ↔ e = o.esExtensionDefault :=
    (List.append_right_inj path).trans ofText_injective.eq_iff
  rw [hpath, hsame]
  cases hes : o.isEs r.extension <;> simp [e, optimistic, hes]

end

def filesWithSibling : FileSystem :=
  ((FileTree.empty.write (Path.ofText "/p/foo/index.js".toList) []).1.write
    (Path.ofText "/p/foo.js".toList) []).1.toFileSystem

theorem sibling_of_foreign_module :
    let s := "./foo".toList
    let directory := Path.ofText "/p".toList
    let r := moduleWith ".tsx".toList
    let sibling := Path.ofText "/p/foo.js".toList
    r.directory = some directory ∧ extname s = [] ∧ EndsInName s ∧
      filesWithSibling.isDir (resolvePath directory s) = true ∧
      filesWithSibling.exists_ ((resolvePath directory s).withSuffix Options.default.esExtensionDefault) = true ∧
      resolve s .localPath r Options.default filesWithSibling = some ⟨"./foo.js".toList, ".js".toList⟩ ∧
      resolvePath directory "./foo.js".toList = sibling := by
  intro s directory r sibling
  have hd : r.directory = some directory := by decide
  have hext : extname s = [] := by decide
  have hname : EndsInName s := by decide
  have hsibling : filesWithSibling.exists_
      ((resolvePath directory s).withSuffix Options.default.esExtensionDefault) = true := by decide
  obtain ⟨hresolve, _, hpath⟩ :=
    resolve_beside_sibling hd Options.default_wellFormed rfl hext hname hsibling
  refine ⟨hd, hext, hname, by decide, hsibling, hresolve, ?_⟩
  exact (hpath.mpr (.inr (by decide))).trans (by decide)

theorem sibling_missed_by_other_module :
    let s := "./foo".toList
    let directory := Path.ofText "/p".toList
    let r := moduleWith ".mjs".toList
    let o := Options.default
    let sibling := (resolvePath directory s).withSuffix o.esExtensionDefault
    isLocal s = true ∧ extname s = [] ∧ EndsInName s ∧ r.directory = some directory ∧ o.WellFormed ∧
      o.ensureFileExists = false ∧ filesWithSibling.isDir (resolvePath directory s) = true ∧
      filesWithSibling.exists_ sibling = true ∧
      resolve s .localPath r o filesWithSibling = some ⟨"./foo.mjs".toList, ".mjs".toList⟩ ∧
      ¬∃ t, resolve s .localPath r o filesWithSibling = some t ∧ resolvePath directory t.specifier = sibling := by
  intro s directory r o sibling
  have hresolve : resolve s .localPath r o filesWithSibling = some ⟨"./foo.mjs".toList, ".mjs".toList⟩ := by decide
  refine ⟨by decide, by decide, by decide, by decide, Options.default_wellFormed, rfl, by decide, by decide,
    hresolve, ?_⟩
  rintro ⟨t, ht, hleads⟩
  obtain rfl := Option.some.inj (hresolve.symm.trans ht)
  revert hleads
  decide

end Target

end ExplicitImports
