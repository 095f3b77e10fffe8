import MarkdownTidy.Proofs.Cli.TreeFiles

/-! The configuration of a document. Of all configuration files in the directory of the document and above it,
the one in the closest directory applies, and in one directory the preferred name; the configuration is what that
file says, and the defaults without one. -/

namespace MarkdownTidy.Config

variable {t : FileTree} {directory place p : List Bytes} {name n content c : Bytes}

structure Preferred (t : FileTree) (place : List Bytes) (name content : Bytes) : Prop where
  file : t.HasFile (place ++ [name]) content
  first : name = utf8 ".tidymd.yaml" ∨
    name = utf8 ".tidymd.yml" ∧ ∀ other, ¬ t.HasFile (place ++ [utf8 ".tidymd.yaml"]) other

/-- The configuration file of the closest directory, at or above a given one, that has any. -/
structure Nearest (t : FileTree) (directory place : List Bytes) (name content : Bytes) : Prop where
  above : place <+: directory
  preferred : Preferred t place name content
  closest : ∀ q, place <+: q → q <+: directory → q ≠ place → ∀ f ∈ fileNames, ∀ other, ¬ t.HasFile (q ++ [f]) other

def Unconfigured (t : FileTree) (directory : List Bytes) : Prop :=
  ∀ place, place <+: directory → ∀ f ∈ fileNames, ∀ content, ¬ t.HasFile (place ++ [f]) content

lemma isName_of_mem_fileNames : ∀ f ∈ fileNames, Path.IsName f := by
  simp only [fileNames, List.forall_mem_cons]
  exact ⟨⟨by decide, by decide, by decide, by decide⟩, ⟨by decide, by decide, by decide, by decide⟩, by simp⟩

lemma Preferred.name_mem (h : Preferred t place name content) : name ∈ fileNames := by
  rcases h.first with rfl | ⟨rfl, -⟩ <;> simp [fileNames]

lemma hasFile_unique {content c : Bytes} (h : t.HasFile place content) (h' : t.HasFile place c) : content = c :=
  FileEntry.file.inj (Option.some.inj (h.file.symm.trans h'.file))

lemma Preferred.unique (h : Preferred t place name content) (h' : Preferred t place n c) : name = n ∧ content = c := by
  obtain rfl : name = n := by
    rcases h.first with hname | ⟨hname, hnone⟩ <;> rcases h'.first with hn | ⟨hn, hnone'⟩
    · rw [hname, hn]
    · exact absurd (hname ▸ h.file) (hnone' _)
    · exact absurd (hn ▸ h'.file) (hnone _)
    · rw [hname, hn]
  exact ⟨rfl, hasFile_unique h.file h'.file⟩

lemma Nearest.unique (h : Nearest t directory place name content) (h' : Nearest t directory p n c) :
    place = p ∧ name = n ∧ content = c := by
  obtain rfl : place = p := by
    by_contra hne
    rcases List.prefix_or_prefix_of_prefix h.above h'.above with hle | hle
    · exact h.closest p hle h'.above (Ne.symm hne) n h'.preferred.name_mem c h'.preferred.file
    · exact h'.closest place hle h.above hne name h.preferred.name_mem content h.preferred.file
  exact ⟨rfl, h.preferred.unique h'.preferred⟩

lemma Nearest.not_unconfigured (h : Nearest t directory place name content) : ¬ Unconfigured t directory :=
  fun hnone => hnone place h.above name h.preferred.name_mem content h.preferred.file

/-! ### The search -/

variable (input : Bytes)

lemma firstFile?_apply (paths : List Bytes) (t : FileTree) :
    firstFile? (FileTree.host input) paths t = (paths.find? t.isFile, t) := by
  induction paths with
  | nil => rfl
  | cons path paths ih =>
    have hlook : (FileTree.host input).isFile path t = (t.isFile path, t) := rfl
    rw [firstFile?, FileTree.bind_apply, hlook, List.find?_cons]
    cases t.isFile path with
    | true => rfl
    | false => exact ih

lemma find?_fileNames (hplace : ∀ n ∈ place, Path.IsName n) :
    (∃ name content, Preferred t place name content ∧
        (fileNames.map fun f => Path.ofNames (place ++ [f])).find? t.isFile = some (Path.ofNames (place ++ [name]))) ∨
      (∀ f ∈ fileNames, ∀ content, ¬ t.HasFile (place ++ [f]) content) ∧
        (fileNames.map fun f => Path.ofNames (place ++ [f])).find? t.isFile = none := by
  have hfile : ∀ f ∈ fileNames, t.isFile (Path.ofNames (place ++ [f])) = true ↔ ∃ content, t.HasFile (place ++ [f]) content :=
    fun f hf => FileTree.isFile_ofNames hplace (isName_of_mem_fileNames f hf)
  have hyaml := hfile (utf8 ".tidymd.yaml") (by simp [fileNames])
  have hyml := hfile (utf8 ".tidymd.yml") (by simp [fileNames])
  simp only [fileNames, List.map_cons, List.map_nil, List.find?_cons, List.forall_mem_cons]
  cases hfirst : t.isFile (Path.ofNames (place ++ [utf8 ".tidymd.yaml"])) with
  | true =>
    obtain ⟨content, hcontent⟩ := hyaml.mp hfirst
    exact .inl ⟨_, content, ⟨hcontent, .inl rfl⟩, rfl⟩
  | false =>
    have hno : ∀ content, ¬ t.HasFile (place ++ [utf8 ".tidymd.yaml"]) content := fun content h => by
      rw [hyaml.mpr ⟨content, h⟩] at hfirst
      cases hfirst
    cases hsecond : t.isFile (Path.ofNames (place ++ [utf8 ".tidymd.yml"])) with
    | true =>
      obtain ⟨content, hcontent⟩ := hyml.mp hsecond
      exact .inl ⟨_, content, ⟨hcontent, .inr ⟨rfl, hno⟩⟩, rfl⟩
    | false =>
      refine .inr ⟨⟨hno, fun content h => ?_, by simp⟩, rfl⟩
      rw [hyml.mpr ⟨content, h⟩] at hsecond
      cases hsecond

lemma nearest?_concat (above : List Bytes) (d : Bytes) (t : FileTree) :
    nearest? (FileTree.host input) (above ++ [d]).reverse t =
      match (fileNames.map fun f => Path.ofNames (above ++ [d] ++ [f])).find? t.isFile with
      | some path => (some path, t)
      | none => nearest? (FileTree.host input) above.reverse t := by
  have hreverse : (d :: above.reverse).reverse = above ++ [d] := by simp
  rw [List.reverse_append, List.reverse_singleton, List.singleton_append, nearest?, FileTree.bind_apply, hreverse,
    firstFile?_apply]
  cases (fileNames.map fun f => Path.ofNames (above ++ [d] ++ [f])).find? t.isFile <;> rfl

lemma nearest?_spec (h : ∀ n ∈ directory, Path.IsName n) :
    (∃ place name content, Nearest t directory place name content ∧
        nearest? (FileTree.host input) directory.reverse t = (some (Path.ofNames (place ++ [name])), t)) ∨
      Unconfigured t directory ∧ nearest? (FileTree.host input) directory.reverse t = (none, t) := by
  induction directory using List.reverseRecOn with
  | nil =>
    have hsearch : nearest? (FileTree.host input) [] t =
        ((fileNames.map fun f => Path.ofNames ([] ++ [f])).find? t.isFile, t) := firstFile?_apply input _ t
    rw [List.reverse_nil, hsearch]
    rcases find?_fileNames (t := t) h with ⟨name, content, hpreferred, hfind⟩ | ⟨hnone, hfind⟩
    · refine .inl ⟨[], name, content, ⟨List.prefix_rfl, hpreferred, fun q _ hq hne => ?_⟩, by rw [hfind]⟩
      exact absurd (List.prefix_nil.mp hq) hne
    · refine .inr ⟨fun place hplace => ?_, by rw [hfind]⟩
      obtain rfl := List.prefix_nil.mp hplace
      exact hnone
  | append_singleton above d ih =>
    rw [nearest?_concat]
    rcases find?_fileNames (t := t) h with ⟨name, content, hpreferred, hfind⟩ | ⟨hnone, hfind⟩
    · refine .inl ⟨above ++ [d], name, content, ⟨List.prefix_rfl, hpreferred, fun q hle hq hne => ?_⟩, by rw [hfind]⟩
      exact absurd (hq.eq_of_length_le hle.length_le) hne
    · rw [hfind]
      rcases ih fun n hn => h n (List.mem_append_left _ hn) with ⟨place, name, content, hnearest, hsearch⟩ | ⟨hfree, hsearch⟩
      · refine .inl ⟨place, name, content, ⟨hnearest.above.trans (List.prefix_append _ _), hnearest.preferred,
          fun q hle hq hne => ?_⟩, hsearch⟩
        rcases List.prefix_concat_iff.mp hq with rfl | hq
        · exact hnone
        · exact hnearest.closest q hle hq hne
      · refine .inr ⟨fun place hplace => ?_, hsearch⟩
        rcases List.prefix_concat_iff.mp hplace with rfl | hplace
        · exact hnone
        · exact hfree place hplace

/-! ### The configuration -/

lemma load_ofNames (h : t.HasFile (place ++ [name]) content) (hplace : ∀ n ∈ place, Path.IsName n)
    (hname : Path.IsName name) : load (FileTree.host input) (Path.ofNames (place ++ [name])) t =
      ((read content).mapError (.content (Path.ofNames (place ++ [name]))), t) := by
  have hread : (FileTree.host input).readFile (Path.ofNames (place ++ [name])) t = (.ok content, t) :=
    congrArg (·, t) ((FileTree.readFile_ofNames hplace hname).mpr h)
  rw [load, FileTree.bind_apply, hread]
  rfl

def directoryAt (t : FileTree) (path : Bytes) : List Bytes := Path.resolve (Path.ofNames t.workingDirectory) path

lemma forDocument_eq {found : Option Bytes} {document : Bytes}
    (h : nearest? (FileTree.host input) (directoryAt t (Path.parent document)).reverse t = (found, t)) :
    forDocument (FileTree.host input) document t = match found with
      | none => (.ok {}, t)
      | some path => load (FileTree.host input) path t := by
  have hlocate : locate? (FileTree.host input) document t = (found, t) := h
  rw [forDocument, FileTree.bind_apply, hlocate]
  cases found <;> rfl

/-- The search from any directory finds the nearest configuration file, and nothing exactly if there is none. For a
document in the directory that file's content alone decides on the configuration; without a file it is the default. -/
theorem nearest?_closest (input : Bytes) (t : FileTree) (d : Bytes) :
    let search := nearest? (FileTree.host input) (directoryAt t d).reverse t
    (∀ path, search.1 = some path ↔
        ∃ place name content, Nearest t (directoryAt t d) place name content ∧ path = Path.ofNames (place ++ [name])) ∧
      (search.1 = none ↔ Unconfigured t (directoryAt t d)) ∧
      directoryAt t (Path.parent (Path.ofNames (directoryAt t d))) = (directoryAt t d).dropLast ∧
      ∀ document, Path.parent document = d →
        (∀ place name content, Nearest t (directoryAt t d) place name content →
          (forDocument (FileTree.host input) document t).1 =
            (read content).mapError (.content (Path.ofNames (place ++ [name])))) ∧
        (Unconfigured t (directoryAt t d) → (forDocument (FileTree.host input) document t).1 = .ok {}) := by
  have hnames : ∀ n ∈ directoryAt t d, Path.IsName n := Path.isName_resolve _ _
  simp only
  rcases nearest?_spec input (t := t) hnames with ⟨place, name, content, hnearest, hsearch⟩ | ⟨hfree, hsearch⟩
  · rw [hsearch]
    refine ⟨fun path => ⟨fun h => ⟨place, name, content, hnearest, (Option.some.inj h).symm⟩, ?_⟩,
      ⟨nofun, fun h => absurd h hnearest.not_unconfigured⟩, Path.resolve_parent_ofNames hnames _, ?_⟩
    · rintro ⟨p, n, c, hother, rfl⟩
      obtain ⟨rfl, rfl, -⟩ := hnearest.unique hother
      rfl
    · rintro document rfl
      refine ⟨fun p n c hother => ?_, fun h => absurd h hnearest.not_unconfigured⟩
      obtain ⟨rfl, rfl, rfl⟩ := hnearest.unique hother
      have hplace : ∀ m ∈ place, Path.IsName m := fun m hm => hnames m (hnearest.above.subset hm)
      rw [forDocument_eq input hsearch]
      exact congrArg Prod.fst (load_ofNames input hnearest.preferred.file hplace
        (isName_of_mem_fileNames _ hnearest.preferred.name_mem))
  · rw [hsearch]
    refine ⟨fun path => ⟨nofun, ?_⟩, ⟨fun _ => hfree, fun _ => rfl⟩, Path.resolve_parent_ofNames hnames _, ?_⟩
    · rintro ⟨p, n, c, hother, -⟩
      exact absurd hfree hother.not_unconfigured
    · rintro document rfl
      refine ⟨fun p n c hother => absurd hfree hother.not_unconfigured, fun _ => ?_⟩
      rw [forDocument_eq input hsearch]

/-- Two directories up, past a directory that goes by the name of a configuration file. -/
theorem nearest?_closest_parent :
    let t : FileTree := ⟨[([utf8 "docs"], .directory), ([utf8 "docs", utf8 "guide"], .directory),
      ([utf8 "docs", utf8 "guide", utf8 ".tidymd.yaml"], .directory),
      ([utf8 "docs", utf8 ".tidymd.yml"], .file (utf8 "disable_formatter: true\n")),
      ([utf8 ".tidymd.yaml"], .file (utf8 "bogus: 1\n"))], [utf8 "docs"]⟩
    Path.parent (utf8 "guide/index.md") = utf8 "guide/" ∧
      Nearest t (directoryAt t (utf8 "guide/")) [utf8 "docs"] (utf8 ".tidymd.yml") (utf8 "disable_formatter: true\n") ∧
      (forDocument (FileTree.host []) (utf8 "guide/index.md") t).1 = .ok { disableFormatter := true } := by
  intro t
  have hdocs : t.HasFile [utf8 "docs", utf8 ".tidymd.yml"] (utf8 "disable_formatter: true\n") :=
    ⟨by decide, by decide, by decide, by decide⟩
  have hnearest : Nearest t (directoryAt t (utf8 "guide/")) [utf8 "docs"] (utf8 ".tidymd.yml")
      (utf8 "disable_formatter: true\n") := by
    have hdirectory : directoryAt t (utf8 "guide/") = [utf8 "docs", utf8 "guide"] := by decide
    rw [hdirectory]
    refine ⟨by decide, ⟨hdocs, .inr ⟨rfl, fun other h => ?_⟩⟩, fun q hle hq hne f hf other h => ?_⟩
    · have hnone : t.get? ([utf8 "docs"] ++ [utf8 ".tidymd.yaml"]) = none := by decide
      cases hnone.symm.trans h.file
    · rcases List.prefix_concat_iff.mp (show q <+: [utf8 "docs"] ++ [utf8 "guide"] from hq) with rfl | hq
      · have hno : ∀ f ∈ fileNames, t.get? ([utf8 "docs"] ++ [utf8 "guide"] ++ [f]) = some .directory ∨
            t.get? ([utf8 "docs"] ++ [utf8 "guide"] ++ [f]) = none := by decide
        rcases hno f hf with hget | hget <;> cases hget.symm.trans h.file
      · exact absurd (hq.eq_of_length_le hle.length_le) hne
  have hread : read (utf8 "disable_formatter: true\n") = .ok { disableFormatter := true } := by decide +kernel
  refine ⟨rfl, hnearest, ?_⟩
  rw [((nearest?_closest [] t (utf8 "guide/")).2.2.2 (utf8 "guide/index.md") rfl).1 _ _ _ hnearest, hread]
  rfl

end MarkdownTidy.Config
