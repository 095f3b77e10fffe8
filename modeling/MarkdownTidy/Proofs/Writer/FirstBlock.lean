import Mathlib.Data.List.Infix
import MarkdownTidy.Proofs.FrontMatter.Fences
import MarkdownTidy.Proofs.Outcomes
import MarkdownTidy.Writer.Visitor

/-! The block that a written document begins with, which is the first one written as anything, and
which of these could be taken for the fence in front of a block of front matter. -/

namespace MarkdownTidy.Writer

open Bytes FrontMatter

variable {env : Environment} {before ns : List Node} {n : Node} {s t : Bytes}

/-! ### Line feeds at the end -/

lemma exists_trimNewlines (s : Bytes) :
    ∃ t, s = trimNewlines s ++ t ∧ ∀ c ∈ t, c = newline := by
  obtain ⟨t, hs, ht⟩ := exists_trimRight (· == newline) s
  exact ⟨t, hs, fun c hc => by simpa using ht c hc⟩

lemma firstLine_trimNewlines (s : Bytes) : firstLine (trimNewlines s) = firstLine s := by
  obtain ⟨t, hs, ht⟩ := exists_trimNewlines s
  cases t with
  | nil => rw [List.append_nil] at hs; rw [← hs]
  | cons c t =>
    obtain rfl := ht c List.mem_cons_self
    conv_rhs => rw [hs]
    exact (firstLine_append_newline _ t).symm

lemma trimNewlines_trimNewlines (s : Bytes) : trimNewlines (trimNewlines s) = trimNewlines s := by
  simp only [trimNewlines, trimRight_eq_rdropWhile, List.rdropWhile_idempotent]

lemma trimNewlines_append (h : trimNewlines s = s) (t : Bytes) :
    trimNewlines (s ++ t) = s ++ trimNewlines t := by
  simp only [trimNewlines, trimRight_eq_rdropWhile, List.rdropWhile] at h ⊢
  rw [List.reverse_append, List.dropWhile_append]
  split
  · rename_i ht
    rw [h, List.isEmpty_iff.mp ht]
    simp
  · simp

lemma head?_trimNewlines {c : UInt8} (h : (trimNewlines s).head? = some c) : s.head? = some c := by
  obtain ⟨t, hs, -⟩ := exists_trimNewlines s
  rw [hs, List.head?_append, h]
  rfl

/-! ### Fences -/

structure Sheltered (s : Bytes) : Prop where
  hyphens : s.take 3 ≠ utf8 "---"
  mark : s.head? ≠ some 0xEF

lemma Sheltered.not_isOpening (h : Sheltered s) : ¬ IsOpening (firstLine s) := by
  obtain ⟨x, hx⟩ := firstLine_prefix s
  rintro ⟨hl, -⟩
  unfold withoutByteOrderMark at hl
  split at hl
  · rename_i hm
    apply h.mark
    rw [← hx, ← List.take_append_drop 3 (firstLine s), hm]
    rfl
  · apply h.hyphens
    rw [← hx, ← List.take_append_drop 3 (firstLine s), hl]
    rfl

lemma sheltered_nil : Sheltered [] := ⟨by decide, by simp⟩

lemma sheltered_cons {c : UInt8} (hc : c ≠ byte '-') (he : c ≠ 0xEF) (s : Bytes) :
    Sheltered (c :: s) := by
  refine ⟨?_, by simpa using he⟩
  rw [utf8_hyphens]
  intro ht
  exact hc (List.cons.inj ht).1

inductive Led (marker : Bytes) : Bytes → Prop
  | whole (t : Bytes) : Led marker (marker ++ t)
  | part {u t : Bytes} (hu : u <+: marker) (ht : ∀ c ∈ t.head?, c = newline) : Led marker (u ++ t)

lemma Led.append {marker : Bytes} (h : Led marker s) (ht : ∀ c ∈ t.head?, c = newline) :
    Led marker (s ++ t) := by
  cases h with
  | whole x => exact List.append_assoc .. ▸ .whole (x ++ t)
  | @part u x hu hx =>
    rw [List.append_assoc]
    refine .part hu ?_
    cases x with
    | nil => exact ht
    | cons c x => exact hx

def Shelters (marker : Bytes) : Prop :=
  marker = utf8 "- " ∨ ∃ c m, marker = c :: m ∧ c ≠ byte '-' ∧ c ≠ 0xEF

lemma sheltered_of_head?_eq_newline (h : ∀ c ∈ s.head?, c = newline) : Sheltered s := by
  cases s with
  | nil => exact sheltered_nil
  | cons c s =>
    obtain rfl := h c rfl
    exact sheltered_cons (by decide) (by decide) s

lemma Led.sheltered {marker : Bytes} (hm : Shelters marker) (h : Led marker s) : Sheltered s := by
  rcases hm with rfl | ⟨c, m, rfl, hc, he⟩
  · have hb : utf8 "- " = [45, 32] := by decide
    rw [hb] at h
    cases h with
    | whole t => exact ⟨by simp [utf8_hyphens], by simp⟩
    | @part u t hu ht =>
      have hu' : u = [] ∨ u = [45] ∨ u = [45, 32] := by
        simpa using (List.mem_inits u [45, 32]).mpr hu
      have ht' : t.take 2 ≠ [45, 45] := by
        cases t with
        | nil => simp
        | cons c t => simp [ht c rfl, newline]
      rcases hu' with rfl | rfl | rfl
      · exact sheltered_of_head?_eq_newline ht
      · exact ⟨by simpa [utf8_hyphens] using ht', by simp⟩
      · exact ⟨by simp [utf8_hyphens], by simp⟩
  · cases h with
    | whole t => exact sheltered_cons hc he (m ++ t)
    | @part u t hu ht =>
      cases u with
      | nil => exact sheltered_of_head?_eq_newline ht
      | cons d u =>
        obtain ⟨rfl, -⟩ := List.cons_prefix_cons.mp hu
        exact sheltered_cons hc he (u ++ t)

lemma exists_join_cons (sep : Bytes) (hsep : sep.head? = some newline) (l : Bytes) (ls : List Bytes) :
    ∃ t, join sep (l :: ls) = l ++ t ∧ ∀ c ∈ t.head?, c = newline := by
  cases ls with
  | nil => exact ⟨[], by simp [join], by simp⟩
  | cons m ls =>
    refine ⟨sep ++ join sep (m :: ls), ?_, ?_⟩
    · rw [join, List.intercalate_cons_of_ne_nil (by simp), List.append_assoc]
      rfl
    · simp [List.head?_append, hsep]

lemma led_prefixLines (s first rest : Bytes) : Led first (prefixLines s first rest) := by
  obtain ⟨l, ls, h⟩ := List.exists_cons_of_ne_nil (split_ne_nil s)
  obtain ⟨t, ht, hn⟩ := exists_join_cons [newline] rfl (prefixLine first l)
    (ls.map (prefixLine rest))
  simp only [prefixLines, h, ht]
  refine Led.append ?_ hn
  unfold prefixLine
  split
  · rw [trimRight_eq_rdropWhile, ← List.append_nil (List.rdropWhile _ _)]
    exact .part (List.rdropWhile_prefix _ _) (by simp)
  · exact .whole l

lemma led_listItem (marker s : Bytes) : Led (marker ++ utf8 " ") (listItem marker s) := by
  unfold listItem
  split
  · rw [← List.append_nil marker]
    exact .part (by simp) (by simp)
  · exact led_prefixLines _ _ _

/-! ### Markers -/

lemma utf8EncodeChar_digit {d : Char} (hd : d.isDigit = true) :
    ∃ c, String.utf8EncodeChar d = [c] ∧ isDigit c = true ∧ c.toNat = d.toNat := by
  have hv : 48 ≤ d.val.toNat ∧ d.val.toNat ≤ 57 := by
    simpa [Char.isDigit, UInt32.le_iff_toNat_le] using hd
  have hsize : d.utf8Size = 1 := by
    rw [Char.utf8Size, if_pos]
    rw [UInt32.le_iff_toNat_le]
    exact hv.2.trans (by decide)
  refine ⟨_, String.utf8EncodeChar_eq_singleton hsize, ?_, ?_⟩
  · simp only [isDigit, Bool.and_eq_true, decide_eq_true_eq, UInt8.le_iff_toNat_le,
      UInt32.toNat_toUInt8, show (48 : UInt8).toNat = 48 from rfl, show (57 : UInt8).toNat = 57 from rfl]
    omega
  · simp only [UInt32.toNat_toUInt8, Char.toNat]
    omega

lemma decimal_eq_flatMap (n : Nat) : decimal n = (Nat.toDigits 10 n).flatMap String.utf8EncodeChar := by
  rw [decimal, utf8]
  show ((Nat.toDigits 10 n).utf8Encode).data.toList = _
  simp [List.utf8Encode]

lemma isDigit_of_mem_toDigits (n : Nat) : ∀ d ∈ Nat.toDigits 10 n, d.isDigit = true := fun _ =>
  Nat.isDigit_of_mem_toDigits (by decide) (by decide)

lemma decimal_digits (n : Nat) :
    (∀ c ∈ decimal n, isDigit c = true) ∧ (decimal n).length = (Nat.toDigits 10 n).length := by
  have hd := isDigit_of_mem_toDigits n
  rw [decimal_eq_flatMap]
  generalize Nat.toDigits 10 n = ds at hd
  induction ds with
  | nil => simp
  | cons d ds ih =>
    rw [List.forall_mem_cons] at hd
    obtain ⟨c, hc, hdigit, -⟩ := utf8EncodeChar_digit hd.1
    obtain ⟨hdigits, hlen⟩ := ih hd.2
    rw [List.flatMap_cons, hc, List.singleton_append, List.forall_mem_cons, List.length_cons, List.length_cons, hlen]
    exact ⟨⟨hdigit, hdigits⟩, rfl⟩

lemma toNat_decimal (n : Nat) : toNat (decimal n) = n := by
  have hfold : ∀ (ds : List Char) (a : Nat), (∀ d ∈ ds, d.isDigit = true) →
      (ds.flatMap String.utf8EncodeChar).foldl (fun n c => n * 10 + (c.toNat - 48)) a = Nat.ofDigitChars 10 ds a := by
    intro ds
    induction ds with
    | nil => exact fun _ _ => rfl
    | cons d ds ih =>
      intro a hd
      rw [List.forall_mem_cons] at hd
      obtain ⟨c, hc, -, hv⟩ := utf8EncodeChar_digit hd.1
      rw [List.flatMap_cons, hc, List.singleton_append, List.foldl_cons, ih _ hd.2, Nat.ofDigitChars_cons, hv, Nat.mul_comm]
      rfl
  change (decimal n).foldl (fun n c => n * 10 + (c.toNat - 48)) 0 = n
  rw [decimal_eq_flatMap, hfold _ _ (isDigit_of_mem_toDigits n)]
  exact Nat.ofDigitChars_toDigits (by decide) (by decide)

lemma exists_decimal (n : Nat) : ∃ c m, decimal n = c :: m ∧ isDigit c = true := by
  obtain ⟨hdigits, hlen⟩ := decimal_digits n
  have hpos := Nat.length_toDigits_pos (b := 10) (n := n)
  obtain ⟨c, m, hc⟩ := List.exists_cons_of_ne_nil (l := decimal n) (by rw [← List.length_pos_iff]; omega)
  exact ⟨c, m, hc, hdigits c (hc ▸ List.mem_cons_self)⟩

lemma mem_of_problem?_eq_none {style : Style} (h : style.problem? = none) :
    style.bullet ∈ ["-", "*", "+"].map utf8 ∧
      style.thematicBreak ∈ ["---", "***", "___"].map utf8 := by
  unfold Style.problem? at h
  split_ifs at h with hb _ _ ht
  simp only [Bool.not_eq_true, Bool.not_eq_false', List.contains_iff_mem] at hb ht
  exact ⟨hb, ht⟩

lemma shelters_bullet {style : Style} (h : style.problem? = none) (before : List Node) :
    Shelters (bullet style before ++ utf8 " ") := by
  have hm := (mem_of_problem?_eq_none h).1
  have ha : style.alternateBullet ∈ ["-", "*", "+"].map utf8 := by
    unfold Style.alternateBullet
    split <;> decide
  have hb : bullet style before ∈ ["-", "*", "+"].map utf8 := by
    unfold bullet
    split
    · exact ha
    · exact hm
  simp only [List.map_cons, List.map_nil, List.mem_cons, List.not_mem_nil, or_false] at hb
  rcases hb with hb | hb | hb <;> rw [hb]
  · exact .inl rfl
  · exact .inr ⟨byte '*', [32], by decide, by decide, by decide⟩
  · exact .inr ⟨byte '+', [32], by decide, by decide, by decide⟩

lemma shelters_number (n : Nat) (m : Bytes) : Shelters (decimal n ++ m) := by
  obtain ⟨c, d, h, hc⟩ := exists_decimal n
  refine .inr ⟨c, d ++ m, by rw [h]; rfl, ?_, ?_⟩ <;> rintro rfl <;> exact absurd hc (by decide)

/-! ### Blocks with a mark of their own -/

lemma items_cons {marker : Nat → Bytes} {i : Nat} {w : Written} {ws : List Written} {l : List Bytes}
    (h : items marker i (w :: ws) = .ok l) : ∃ t ts, l = listItem (marker i) t :: ts := by
  rw [items] at h
  cases hw : joinBlocks w.tight w.children with
  | error e => rw [hw] at h; cases h
  | ok t =>
    cases hws : items marker (i + 1) ws with
    | error e => rw [hw, hws] at h; cases h
    | ok ts =>
      rw [hw, hws] at h
      exact ⟨t, ts, (Except.ok.inj h).symm⟩

lemma sheltered_list {at_ : Setting} {mark : UInt8} {start : Nat} {tight : Bool} {ws : List Written}
    (hs : env.style.problem? = none) (h : list env at_ mark start tight ws = .ok s) : Sheltered s := by
  unfold list at h
  dsimp only at h
  generalize hm : (fun i => if (mark == byte '.' || mark == byte ')') = true then
    decimal (if env.style.incrementOrdered then start + i else start) ++ [mark]
    else bullet env.style at_.before) = marker at h
  have hmarker : Shelters (marker 0 ++ utf8 " ") := by
    rw [← hm]
    dsimp only
    split
    · rw [List.append_assoc]
      exact shelters_number _ _
    · exact shelters_bullet hs _
  have hsep : (if tight then utf8 "\n" else utf8 "\n\n").head? = some newline := by
    cases tight <;> decide
  cases hi : items marker 0 ws with
  | error e => rw [hi] at h; cases h
  | ok l =>
    rw [hi] at h
    obtain rfl : join _ l = s := Except.ok.inj h
    cases ws with
    | nil =>
      obtain rfl := Except.ok.inj hi
      exact sheltered_nil
    | cons w ws =>
      obtain ⟨t, ts, rfl⟩ := items_cons hi
      obtain ⟨x, hx, hn⟩ := exists_join_cons _ hsep (listItem (marker 0) t) ts
      rw [hx]
      exact ((led_listItem _ _).append hn).sheltered hmarker

lemma sheltered_table (alignments : List Alignment) (rows : List (List Bytes)) :
    Sheltered (table alignments rows) := by
  cases rows with
  | nil => exact sheltered_nil
  | cons header body =>
    obtain ⟨t, ht, -⟩ := exists_join_cons [newline] rfl (rowLine _) _
    refine Eq.mpr (congrArg Sheltered ht) ?_
    exact sheltered_cons (c := byte '|') (by decide) (by decide) _

lemma sheltered_codeBlock (content info : Bytes) : Sheltered (codeBlock content info) := by
  have hfence (mark : UInt8) : ∃ f, fence content mark = mark :: f := by
    unfold fence
    dsimp only
    split <;> exact ⟨_, rfl⟩
  unfold codeBlock
  by_cases hi : info.contains (byte '`') = true
  · obtain ⟨f, hf⟩ := hfence (byte '~')
    simp only [hi, if_true, hf, List.cons_append]
    exact sheltered_cons (by decide) (by decide) _
  · obtain ⟨f, hf⟩ := hfence (byte '`')
    simp only [hi, Bool.false_eq_true, if_false, hf, List.cons_append]
    exact sheltered_cons (by decide) (by decide) _

lemma sheltered_heading (level : Nat) (t : Bytes) :
    Sheltered (if t.isEmpty then List.replicate level (byte '#')
      else List.replicate level (byte '#') ++ utf8 " " ++ t) := by
  cases level with
  | zero =>
    split
    · exact sheltered_nil
    · exact sheltered_cons (c := byte ' ') (by decide) (by decide) t
  | succ level => split <;> exact sheltered_cons (c := byte '#') (by decide) (by decide) _

lemma sheltered_blockquote (t : Bytes) :
    Sheltered (if t.isEmpty then utf8 ">" else prefixLines t (utf8 "> ") (utf8 "> ")) := by
  split
  · exact sheltered_cons (c := byte '>') (by decide) (by decide) _
  · exact (led_prefixLines _ _ _).sheltered (.inr ⟨byte '>', [32], by decide, by decide, by decide⟩)

def isMarked : Kind → Bool
  | .heading _ | .codeBlock | .fencedCode _ | .blockquote | .list .. | .table _ | .thematicBreak => true
  | _ => false

def Unvisited (registry : VisitorRegistry) : Prop :=
  ∀ k, k = .document ∨ isMarked k = true → registry.find? (·.1 == k.name) = none

lemma unvisited_of_names {registry : VisitorRegistry}
    (h : ∀ v ∈ registry, v.1 ∈ ["Shortcode", "AlertFlag", "AttrList"]) : Unvisited registry := by
  intro k hk
  have hname : k.name ∉ ["Shortcode", "AlertFlag", "AttrList"] := by
    rcases hk with rfl | hk
    · decide
    · cases k <;> cases hk <;> simp [Kind.name]
  refine List.find?_eq_none.mpr fun v hv => ?_
  rw [beq_iff_eq]
  intro he
  exact hname (he ▸ h v hv)

/-- A block with `before` in front of it, nearest first, whose text reads as an opening fence: a break
that is not the first block, though those before it may be written as nothing, or plain text. -/
inductive Exposed (style : Style) (before : List Node) (n : Node) (s : Bytes) : Prop
  | laterBreak (hk : n.kind = .thematicBreak) (hb : before ≠ [])
      (hs : style.thematicBreak = utf8 "---")
  | text (hk : isMarked n.kind = false) (hs : IsOpening (firstLine s))

lemma own_writeNode {at_ : Setting}
    (hr : env.registry.find? (·.1 == n.kind.name) = none) :
    (writeNode env at_ n).own = usual env at_ n (writeNodes env n.kind [] n.children) := by
  obtain ⟨info, children⟩ := n
  simp only [Node.kind, Node.info, Node.children] at hr ⊢
  rw [writeNode]
  simp only [hr]
  rfl

lemma sheltered_usual {at_ : Setting} {ws : List Written} (hs : env.style.problem? = none)
    (hk : isMarked n.kind = true) (hb : n.kind ≠ .thematicBreak)
    (h : usual env at_ n ws = .ok s) : Sheltered s := by
  unfold usual at h
  cases hn : n.kind <;> rw [hn] at hk hb h <;> cases hk
  case heading level =>
    obtain ⟨t, -, rfl⟩ := exists_of_map_eq_ok h
    exact sheltered_heading level (onOneLine t)
  case thematicBreak => contradiction
  case codeBlock => exact Except.ok.inj h ▸ sheltered_codeBlock _ _
  case fencedCode info => exact Except.ok.inj h ▸ sheltered_codeBlock _ _
  case blockquote =>
    obtain ⟨t, -, rfl⟩ := exists_of_map_eq_ok h
    exact sheltered_blockquote t
  case list mark start tight => exact sheltered_list hs h
  case table alignments =>
    obtain ⟨rows, -, rfl⟩ := exists_of_map_eq_ok h
    exact sheltered_table alignments rows

lemma isOpening_break {next : Option Node} {ws : List Written} (hs : env.style.problem? = none)
    (hb : n.kind = .thematicBreak) (h : usual env ⟨.document, before, next⟩ n ws = .ok s) :
    IsOpening (firstLine s) ↔ before ≠ [] ∧ env.style.thematicBreak = utf8 "---" := by
  have hopen : ∀ t ∈ ["---", "***", "___"].map utf8, IsOpening (firstLine t) ↔ t = utf8 "---" := by
    decide
  have hm := (mem_of_problem?_eq_none hs).2
  simp only [usual, hb] at h
  split at h
  · rename_i hc
    obtain rfl := Except.ok.inj h
    simp only [Bool.and_eq_true, List.isEmpty_iff] at hc
    refine iff_of_false (by decide) fun hn => hn.1 hc.1.2
  · rename_i hc
    obtain rfl := Except.ok.inj h
    rw [hopen _ hm]
    refine ⟨fun ht => ⟨?_, ht⟩, And.right⟩
    rintro rfl
    exact hc (by simp [ht])

lemma isOpening_iff_exposed {next : Option Node} (hs : env.style.problem? = none)
    (hr : Unvisited env.registry) (h : (writeNode env ⟨.document, before, next⟩ n).own = .ok s) :
    IsOpening (firstLine s) ↔ Exposed env.style before n s := by
  by_cases hk : isMarked n.kind = true
  · rw [own_writeNode (hr _ (.inr hk))] at h
    have ht : ¬ isMarked n.kind = false := by simp [hk]
    by_cases hb : n.kind = .thematicBreak
    · rw [isOpening_break hs hb h]
      refine ⟨fun ⟨hn, hd⟩ => .laterBreak hb hn hd, ?_⟩
      rintro (⟨-, hn, hd⟩ | ⟨hk', -⟩)
      · exact ⟨hn, hd⟩
      · exact absurd hk' ht
    · refine iff_of_false (sheltered_usual hs hk hb h).not_isOpening ?_
      rintro (⟨hb', -, -⟩ | ⟨hk', -⟩)
      · exact hb hb'
      · exact ht hk'
  · rw [Bool.not_eq_true] at hk
    refine ⟨.text hk, ?_⟩
    rintro (⟨hb, -, -⟩ | ⟨-, ho⟩)
    · rw [hb] at hk
      cases hk
    · exact ho

/-! ### The first block of a document -/

/-- The first of some blocks of a document that is written as anything: the blocks before it, nearest
first, itself and its text. -/
def firstWritten? (env : Environment) (before : List Node) :
    List Node → Option (List Node × Node × Bytes)
  | [] => none
  | n :: ns =>
    match (writeNode env ⟨.document, before, ns.head?⟩ n).own with
    | .error _ => none
    | .ok s =>
      if (trimNewlines s).isEmpty then firstWritten? env (n :: before) ns else some (before, n, s)

lemma own_of_firstWritten? {b : List Node} (h : firstWritten? env before ns = some (b, n, s)) :
    trimNewlines s ≠ [] ∧ ∃ next, (writeNode env ⟨.document, b, next⟩ n).own = .ok s := by
  induction ns generalizing before with
  | nil => cases h
  | cons m ns ih =>
    rw [firstWritten?] at h
    split at h
    · cases h
    · rename_i t ht
      split at h
      · exact ih h
      · rename_i hne
        obtain ⟨rfl, rfl, rfl⟩ : before = b ∧ m = n ∧ t = s := by simpa using h
        exact ⟨by simpa using hne, _, ht⟩

lemma blockParts_writeNodes {ps : List Bytes}
    (h : blockParts (writeNodes env .document before ns) = .ok ps) :
    (firstWritten? env before ns = none ∧ ps = []) ∨
      ∃ b n s qs, firstWritten? env before ns = some (b, n, s) ∧ ps = trimNewlines s :: qs := by
  induction ns generalizing before ps with
  | nil => exact .inl ⟨rfl, (Except.ok.inj h).symm⟩
  | cons m ns ih =>
    rw [writeNodes, blockParts] at h
    rw [firstWritten?]
    cases hm : (writeNode env ⟨.document, before, ns.head?⟩ m).own with
    | error e => rw [hm] at h; cases h
    | ok t =>
      cases hp : blockParts (writeNodes env .document (m :: before) ns) with
      | error e => simp only [hm, hp] at h; cases h
      | ok qs =>
        simp only [hm, hp, Except.ok.injEq] at h
        subst h
        dsimp only
        split
        · exact ih hp
        · exact .inr ⟨before, m, t, qs, rfl, rfl⟩

lemma write_eq_ok {style : Style} {registry : VisitorRegistry} {source out : Bytes} {doc : Node}
    (hk : doc.kind = .document) (hr : Unvisited registry)
    (h : write style registry source doc = .ok out) :
    (firstWritten? ⟨style, registry, source, labelsIn doc⟩ [] doc.children = none ∧ out = []) ∨
      ∃ b n s, firstWritten? ⟨style, registry, source, labelsIn doc⟩ [] doc.children = some (b, n, s) ∧
        firstLine out = firstLine s ∧ out.getLast? = some newline := by
  have hown : ∀ at_, (writeNode ⟨style, registry, source, labelsIn doc⟩ at_ doc).own = joinBlocks false
      (writeNodes ⟨style, registry, source, labelsIn doc⟩ .document [] doc.children) := by
    intro at_
    rw [own_writeNode (hr _ (.inl hk)), usual, hk]
  rw [write] at h
  simp only [hown, joinBlocks] at h
  cases hp : blockParts
      (writeNodes ⟨style, registry, source, labelsIn doc⟩ .document [] doc.children) with
  | error e => rw [hp] at h; cases h
  | ok ps =>
    rw [hp] at h
    obtain rfl := Except.ok.inj h
    rcases blockParts_writeNodes hp with ⟨hf, rfl⟩ | ⟨b, n, s, qs, hf, rfl⟩
    · exact .inl ⟨hf, rfl⟩
    · obtain ⟨t, ht, hn⟩ := exists_join_cons (utf8 "\n\n") (by decide) (trimNewlines s) qs
      have hne := (own_of_firstWritten? hf).1
      have hjoin : trimNewlines (join (utf8 "\n\n") (trimNewlines s :: qs)) =
          trimNewlines s ++ trimNewlines t := by
        rw [ht, trimNewlines_append (trimNewlines_trimNewlines s)]
      refine .inr ⟨b, n, s, hf, ?_⟩
      simp only [Bool.false_eq_true, if_false, hjoin, List.isEmpty_iff, List.append_eq_nil_iff, hne,
        false_and]
      refine ⟨?_, by simp⟩
      rw [← firstLine_trimNewlines s]
      cases hc : trimNewlines t with
      | nil => rw [List.append_nil, firstLine_append_newline]
      | cons c x =>
        obtain rfl : c = newline := hn c (head?_trimNewlines (by rw [hc]; rfl))
        rw [List.append_assoc, List.cons_append, firstLine_append_newline]

lemma block?_write_isSome_iff {style : Style} {registry : VisitorRegistry} {source out : Bytes}
    {doc : Node} (hs : style.problem? = none) (hk : doc.kind = .document) (hr : Unvisited registry)
    (h : write style registry source doc = .ok out) :
    (block? out).isSome = true ↔
      ∃ b n s, firstWritten? ⟨style, registry, source, labelsIn doc⟩ [] doc.children = some (b, n, s) ∧
        Exposed style b n s ∧ ∃ l ∈ (split newline out).tail, IsFence l := by
  rcases write_eq_ok hk hr h with ⟨hf, rfl⟩ | ⟨b, n, s, hf, hfirst, hlast⟩
  · simp [hf, block?, afterOpening?]
  · obtain ⟨-, next, hown⟩ := own_of_firstWritten? hf
    rw [block?_isSome_iff hlast, hfirst, isOpening_iff_exposed hs hr hown]
    simp [hf]

end MarkdownTidy.Writer
