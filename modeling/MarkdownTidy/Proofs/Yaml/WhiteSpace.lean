import MarkdownTidy.Proofs.Text.Trimming
import MarkdownTidy.Yaml.Reader

/-! White space read as a stream. Only ASCII characters other than white space mark the structure of
a stream, so without them no collection can begin and a document is a single scalar at most. -/

namespace MarkdownTidy.Yaml

def IsUnmarked (b : UInt8) : Prop := Bytes.isTrimmed b = true ∨ 0x80 ≤ b

def Unmarked (s : Bytes) : Prop := ∀ b ∈ s, IsUnmarked b

lemma IsUnmarked.beq_eq_false {b c : UInt8} (h : IsUnmarked b) (hc : Bytes.isTrimmed c = false)
    (ha : c < 0x80) : (b == c) = false := by
  rw [beq_eq_false_iff_ne]
  rintro rfl
  rcases h with h | h
  · simp [h] at hc
  · exact absurd ha (UInt8.not_lt.mpr h)

lemma Unmarked.suffix {s t : Bytes} (h : Unmarked s) (ht : t <:+ s) : Unmarked t :=
  fun b hb => h b (ht.mem hb)

lemma Unmarked.notMem {s : Bytes} (h : Unmarked s) {c : UInt8} (hc : Bytes.isTrimmed c = false)
    (ha : c < 0x80) : c ∉ s :=
  fun hm => by simpa using (h c hm).beq_eq_false hc ha

def Ensures {ε α : Type} (x : Except ε α) (p : α → Prop) : Prop := ∀ a, x = .ok a → p a

namespace Ensures

variable {ε α β : Type} {x : Except ε α} {f : α → Except ε β} {p : α → Prop} {q : β → Prop} {a : α} {e : ε}

lemma ok (h : p a) : Ensures (.ok a : Except ε α) p := fun _ hb => Except.ok.inj hb ▸ h

lemma error : Ensures (.error e : Except ε α) p := fun _ hb => nomatch hb

lemma bind (h : Ensures x p) (hf : ∀ a, p a → Ensures (f a) q) : Ensures (x >>= f) q := by
  cases x with
  | error e => exact error
  | ok a => exact hf a (h a rfl)

end Ensures

/-! ### White space -/

lemma forall_isBlank_of_trimSpace {s : Bytes} (h : Text.trimSpace s = []) :
    ∀ r ∈ Utf8.codePoints s, Text.isBlank r.code = true := by
  have hp : Text.trimPoints (Utf8.codePoints s) = [] := by
    rw [← Text.codePoints_trimSpace, h]
    rfl
  rw [Text.trimPoints, List.reverse_eq_nil_iff, Text.trimStartPoints_eq_dropWhile,
    List.dropWhile_eq_nil_iff, Text.trimStartPoints_eq_dropWhile] at hp
  intro r hr
  rw [← List.takeWhile_append_dropWhile (p := fun r : Utf8.CodePoint => Text.isBlank r.code)
    (l := Utf8.codePoints s), List.mem_append] at hr
  rcases hr with hr | hr
  · simpa using List.mem_takeWhile_imp hr
  · exact hp r (List.mem_reverse.mpr hr)

lemma unmarked_of_trimSpace {s : Bytes} (h : Text.trimSpace s = []) : Unmarked s := by
  intro b hb
  rcases UInt8.lt_or_le b 0x80 with ha | ha
  · obtain ⟨r, hr, he⟩ := Utf8.exists_codePoint_of_mem hb ha
    have hblank := forall_isBlank_of_trimSpace h r hr
    rw [he, Text.isBlank, if_pos (by simpa [UInt8.lt_iff_toNat_lt] using ha)] at hblank
    exact .inl (by simpa using hblank)
  · exact .inr ha

lemma unmarked_of_read {s text : Bytes} (h : Text.trimSpace s = [])
    (hr : Source.read s = .ok text) : Unmarked text := by
  have hs := unmarked_of_trimSpace h
  unfold Source.read at hr
  -- The marks of UTF-16 begin no character, and such a byte is not white space.
  have hlead : ∀ {a : UInt8} {t : Bytes}, s = a :: t → a ≠ 0xFF ∧ a ≠ 0xFE := by
    rintro a t rfl
    have hb := forall_isBlank_of_trimSpace h
    rw [Utf8.codePoints_cons, List.forall_mem_cons] at hb
    constructor <;> rintro rfl <;> exact absurd hb.1 (by simp [Utf8.decode, Utf8.between]; decide)
  split at hr
  · exact absurd rfl (hlead rfl).1
  · exact absurd rfl (hlead rfl).2
  · rename_i rest
    cases hc : Source.checkFrom 0 rest <;> rw [hc] at hr
    · cases hr
    · obtain rfl := Except.ok.inj hr
      exact hs.suffix ⟨[0xEF, 0xBB, 0xBF], rfl⟩
  · cases hc : Source.checkFrom 0 s <;> rw [hc] at hr
    · cases hr
    · exact Except.ok.inj hr ▸ hs

/-! ### Cursors -/

namespace Cursor

lemma take_suffix (c : Cursor) : c.take.2.rest <:+ c.rest := by
  unfold take
  split
  · exact List.suffix_refl _
  · exact List.drop_suffix _ _

lemma skipMany_suffix (n : Nat) (c : Cursor) : (skipMany n c).rest <:+ c.rest := by
  induction n generalizing c with
  | zero => exact List.suffix_refl _
  | succ n ih => exact (ih c.skip).trans (take_suffix c)

lemma takeBreak_suffix (c : Cursor) : c.takeBreak.2.rest <:+ c.rest := by
  unfold takeBreak
  dsimp only
  split
  all_goals first | exact List.drop_suffix _ _ | exact List.suffix_refl _ | skip
  split
  · exact List.drop_suffix _ _
  · exact List.suffix_refl _

end Cursor

namespace Lexer

lemma takePlainRun_suffix (flow : Bool) (fuel : Nat) (c : Cursor) :
    (takePlainRun flow fuel c).2.rest <:+ c.rest := by
  induction fuel generalizing c with
  | zero => exact List.suffix_refl _
  | succ fuel ih =>
    rw [takePlainRun]
    split
    · exact List.suffix_refl _
    · exact (ih c.take.2).trans c.take_suffix

lemma takeGap_suffix {indent fuel : Nat} {g g' : Gap} {c c' : Cursor}
    (h : takeGap indent fuel g c = some (g', c')) : c'.rest <:+ c.rest := by
  induction fuel generalizing g c with
  | zero =>
    obtain ⟨-, rfl⟩ := Prod.mk.inj (Option.some.inj h)
    exact List.suffix_refl _
  | succ fuel ih =>
    rw [takeGap] at h
    split at h
    · split at h
      · cases h
      · exact (ih h).trans c.take_suffix
    · split at h
      · exact (ih h).trans c.takeBreak_suffix
      · obtain ⟨-, rfl⟩ := Prod.mk.inj (Option.some.inj h)
        exact List.suffix_refl _

lemma plainFrom_suffix {flow : Bool} {indent : Nat} {start : Mark} {fuel : Nat} {text : Bytes} {g : Gap}
    {c : Cursor} {s : Scanned} (h : plainFrom flow indent start fuel text g c = .ok s) :
    s.cursor.rest <:+ c.rest := by
  induction fuel generalizing text g c with
  | zero =>
    obtain rfl := Except.ok.inj h
    exact List.suffix_refl _
  | succ fuel ih =>
    rw [plainFrom] at h
    split at h
    · obtain rfl := Except.ok.inj h
      exact List.suffix_refl _
    · have hrun := takePlainRun_suffix flow c.rest.length c
      cases hr : takePlainRun flow c.rest.length c with | mk run c₁ =>
      rw [hr] at hrun
      simp only [hr] at h
      split at h
      · obtain rfl := Except.ok.inj h
        exact hrun
      · split at h
        · cases h
        · rename_i hgap
          have hc := (takeGap_suffix hgap).trans hrun
          split at h
          · obtain rfl := Except.ok.inj h
            exact hc
          · exact (ih h).trans hc

end Lexer

/-! ### Tokens -/

def TokenKind.IsLoose : TokenKind → Prop
  | .streamStart | .streamEnd | .scalar .. => True
  | _ => False

namespace Lexer

structure Loose (lx : Lexer) : Prop where
  rest : Unmarked lx.cursor.rest
  indents : lx.indents = []
  tokens : ∀ t ∈ lx.tokens, t.kind.IsLoose

variable {lx lx' : Lexer} {t : Token}

lemma Loose.of_eq (h : lx.Loose) (hc : lx'.cursor.rest <:+ lx.cursor.rest)
    (hi : lx'.indents = lx.indents) (ht : lx'.tokens = lx.tokens) : lx'.Loose :=
  ⟨h.rest.suffix hc, hi ▸ h.indents, ht ▸ h.tokens⟩

lemma Loose.push (h : lx.Loose) (ht : t.kind.IsLoose) : (lx.push t).Loose := by
  refine ⟨h.rest, h.indents, ?_⟩
  intro u hu
  rcases Array.mem_push.mp hu with hu | rfl
  · exact h.tokens u hu
  · exact ht

lemma Loose.isUnmarked_current (h : lx.Loose) (hne : lx.cursor.rest ≠ []) :
    IsUnmarked lx.cursor.current := by
  obtain ⟨b, t, hb⟩ := List.exists_cons_of_ne_nil hne
  have hr := h.rest b (by simp [hb])
  simpa [Cursor.current, hb] using hr

lemma Loose.current_beq (h : lx.Loose) {c : UInt8} (hc : Bytes.isTrimmed c = false) (ha : c < 0x80)
    (h0 : c ≠ 0) : (lx.cursor.current == c) = false := by
  by_cases hne : lx.cursor.rest = []
  · simpa [Cursor.current, hne] using h0.symm
  · exact (h.isUnmarked_current hne).beq_eq_false hc ha

lemma Loose.promoteComment (h : lx.Loose) : lx.promoteComment.Loose := by
  unfold Lexer.promoteComment
  dsimp only
  split
  · split
    · exact h.of_eq (List.suffix_refl _) rfl rfl
    · exact h
  · exact h

lemma Loose.skipToToken (h : lx.Loose) (scan : Mark) (fuel : Nat) :
    (Lexer.skipToToken scan fuel lx).Loose := by
  induction fuel generalizing lx with
  | zero => exact h
  | succ fuel ih =>
    have hskip (p : UInt8 → Bool) : ({ lx with cursor := (lx.cursor.takeWhile p).2 } : Lexer).Loose :=
      h.of_eq (Cursor.skipMany_suffix _ _) rfl rfl
    simp only [Lexer.skipToToken]
    have ha := (hskip fun b =>
      b == byte ' ' || ((lx.inFlow || !lx.keyAllowed) && b == byte '\t')).promoteComment
    generalize ({ lx with cursor := (lx.cursor.takeWhile _).2 } : Lexer).promoteComment = a at ha ⊢
    rw [ha.current_beq (by decide) (by decide) (by decide)]
    simp only [Bool.false_eq_true, if_false]
    split
    · exact ih (ha.of_eq (Cursor.takeBreak_suffix _) rfl rfl)
    · exact ha

lemma Loose.unroll (h : lx.Loose) (column : Int) (scan : Mark) : lx.unroll column scan = lx := by
  unfold Lexer.unroll
  split
  · rfl
  · rw [h.indents]
    rfl

lemma Loose.removeKey (h : lx.Loose) : Ensures lx.removeKey Loose := by
  unfold Lexer.removeKey
  split
  · exact .ok h
  · split
    · exact .error
    · exact .ok (h.of_eq (List.suffix_refl _) rfl rfl)

lemma Loose.saveKey (h : lx.Loose) : Ensures lx.saveKey Loose := by
  unfold Lexer.saveKey
  split
  · exact .ok h
  · exact h.removeKey.bind fun lx h => .ok (h.of_eq (List.suffix_refl _) rfl rfl)

lemma Loose.closeAll (h : lx.Loose) : Ensures lx.closeAll Loose := by
  unfold Lexer.closeAll
  rw [h.unroll]
  exact h.removeKey.bind fun lx h => .ok (h.of_eq (List.suffix_refl _) rfl rfl)

lemma Loose.fetchStreamEnd (h : lx.Loose) : Ensures lx.fetchStreamEnd Loose := by
  unfold Lexer.fetchStreamEnd
  have hm : ∀ m, ({ lx with cursor := { lx.cursor with mark := m } } : Lexer).Loose :=
    fun m => h.of_eq (List.suffix_refl _) rfl rfl
  exact (hm _).closeAll.bind fun lx h => .ok (h.push trivial)

lemma Loose.fetchPlain (h : lx.Loose) : Ensures lx.fetchPlain Loose := by
  unfold Lexer.fetchPlain
  refine h.saveKey.bind fun lx h => ?_
  have hs : Ensures (plain lx.inFlow (lx.indent + 1).toNat lx.cursor)
      fun s => s.cursor.rest <:+ lx.cursor.rest := fun s hs => plainFrom_suffix hs
  refine hs.bind fun s hs => .ok ?_
  have hc : ({ lx with keyAllowed := s.broken, cursor := s.cursor } : Lexer).Loose :=
    h.of_eq hs rfl rfl
  exact hc.push trivial

lemma Loose.fetchToken (h : lx.Loose) (hne : lx.cursor.rest ≠ []) : Ensures lx.fetchToken Loose := by
  have hb : ∀ c : UInt8, Bytes.isTrimmed c = false → c < 0x80 → (lx.cursor.current == c) = false :=
    fun c hc ha => (h.isUnmarked_current hne).beq_eq_false hc ha
  unfold Lexer.fetchToken
  simp (disch := decide) only [hb, Bool.false_and, Bool.false_eq_true, if_false]
  split
  · exact h.fetchPlain
  · exact .error

lemma Loose.lineComment (h : lx.Loose) (owner : Nat) : lx.lineComment owner = lx := by
  unfold Lexer.lineComment
  rw [if_pos]
  have hc : ((lx.cursor.rest.drop (lx.cursor.rest.takeWhile isBlank).length).head? !=
      some (byte '#')) = true := by
    rw [bne_iff_ne]
    intro hh
    exact h.rest.notMem (by decide) (by decide) (List.mem_of_mem_drop (List.mem_of_mem_head? hh))
  simp only [hc, Bool.or_true]

lemma Loose.atDocumentMark (h : lx.Loose) : Yaml.atDocumentMark lx.cursor.rest = false := by
  have hs : ∀ c s, Bytes.isTrimmed c = false → c < 0x80 →
      Bytes.startsWith lx.cursor.rest (c :: s) = false := by
    intro c s hc ha
    rw [Bytes.startsWith, Bool.eq_false_iff, ne_eq, List.isPrefixOf_iff_prefix]
    intro hp
    exact h.rest.notMem hc ha (hp.mem (by simp))
  have hh := hs (byte '-') [45, 45] (by decide) (by decide)
  have hp := hs (byte '.') [46, 46] (by decide) (by decide)
  unfold Yaml.atDocumentMark
  rw [show utf8 "---" = byte '-' :: [45, 45] by decide,
    show utf8 "..." = byte '.' :: [46, 46] by decide, hh, hp]
  rfl

lemma Loose.fetch (h : lx.Loose) : Ensures lx.fetch Loose := by
  unfold Lexer.fetch
  split
  · have hs : ({ lx with started := true } : Lexer).Loose := h.of_eq (List.suffix_refl _) rfl rfl
    exact .ok (hs.push trivial)
  · have hs := h.skipToToken lx.mark (lx.cursor.rest.length + 1)
    simp only [hs.unroll]
    generalize Lexer.skipToToken lx.mark (lx.cursor.rest.length + 1) lx = a at hs ⊢
    split
    · exact hs.fetchStreamEnd
    · rename_i hne
      replace hne : a.cursor.rest ≠ [] := by simpa [Cursor.atEnd] using hne
      rw [hs.current_beq (by decide) (by decide) (by decide), hs.atDocumentMark]
      simp only [Bool.and_false, Bool.false_eq_true, if_false]
      refine (hs.fetchToken hne).bind fun b hb => .ok ?_
      rw [hb.lineComment]
      split <;> exact hb

lemma Loose.settleUpTo (h : lx.Loose) (fuel : Nat) : Ensures (Lexer.settleUpTo fuel lx) Loose := by
  induction fuel generalizing lx with
  | zero => exact .ok h
  | succ fuel ih =>
    rw [Lexer.settleUpTo]
    refine Ensures.bind (p := fun _ => True) (fun _ _ => trivial) fun settled _ => ?_
    split
    · exact .ok h
    · exact h.fetch.bind fun lx h => ih h

end Lexer

/-! ### Nodes -/

namespace Read

variable {α β : Type} {m : Read α} {f : α → Read β} {p : α → Prop} {q : β → Prop}

def Gives (m : Read α) (p : α → Prop) : Prop :=
  ∀ r : Reader, r.lexer.Loose → Ensures (m r) fun x => p x.1 ∧ x.2.lexer.Loose

namespace Gives

lemma pure {a : α} (h : p a) : Gives (pure a) p := fun _ hr => .ok ⟨h, hr⟩

lemma bind (h : Gives m p) (hf : ∀ a, p a → Gives (f a) q) : Gives (m >>= f) q :=
  fun r hr => (h r hr).bind fun x hx => hf x.1 hx.1 x.2 hx.2

lemma andThen {n : Read β} (h : Gives m p) (hn : Gives n q) : Gives (m >>= fun _ => n) q :=
  h.bind fun _ _ => hn

lemma modify {g : Reader → Reader} (h : ∀ r, (g r).lexer = r.lexer) :
    Gives (modify g : Read PUnit) fun _ => True :=
  fun r hr => .ok ⟨trivial, (h r).symm ▸ hr⟩

lemma fail {e : Fault} {start found : Mark} : Gives (fail e start found : Read α) p :=
  fun _ _ => .error

end Gives

lemma loose_takeUpUpTo {r : Reader} (h : r.lexer.Loose) (t : Token) (fuel : Nat) :
    (takeUpUpTo t fuel r).lexer.Loose := by
  induction fuel generalizing r with
  | zero => exact h
  | succ fuel ih =>
    rw [takeUpUpTo]
    split
    · exact h
    · split
      · exact h
      · exact ih (h.of_eq (List.suffix_refl _) rfl rfl)

lemma peek_gives : Gives peek fun t => t.kind.IsLoose := by
  intro r hr
  have he : peek.run r = r.lexer.settle >>= fun lx =>
      let t := lx.tokens.getD lx.taken ⟨.streamEnd, lx.mark, lx.mark⟩
      .ok (t, takeUpUpTo t lx.comments.size { r with lexer := lx }) := by
    simp [peek]
    rfl
  show Ensures (peek.run r) _
  rw [he]
  refine Ensures.bind (p := Lexer.Loose) (hr.settleUpTo _) fun lx hlx => .ok ⟨?_, ?_⟩
  · dsimp only
    rw [Array.getD_eq_getD_getElem?]
    cases ht : lx.tokens[lx.taken]? with
    | none => trivial
    | some t => exact hlx.tokens t (Array.mem_of_getElem? ht)
  · exact loose_takeUpUpTo hlx _ _

lemma advance_gives : Gives advance fun _ => True :=
  fun _ hr => .ok ⟨trivial, hr.of_eq (List.suffix_refl _) rfl rfl⟩

lemma remarks_gives : Gives remarks fun _ => True :=
  fun _ hr => .ok ⟨trivial, hr⟩

def IsScalar : Node → Prop
  | .scalar .. => True
  | _ => False

lemma declareAnchor_gives (name : Bytes) : Gives (declareAnchor name) fun _ => True := by
  unfold declareAnchor
  split
  · exact .pure trivial
  · exact fun _ hr => .ok ⟨trivial, hr⟩

lemma finishAnchor_gives {n : Node} (number? : Option Nat) (h : IsScalar n) :
    Gives (finishAnchor number? n) IsScalar := by
  unfold finishAnchor
  split
  · exact .pure h
  · exact .andThen (.modify fun _ => rfl) (.pure h)

lemma scalarNode_gives (p : Properties) (style : ScalarStyle) (value : Bytes) (rs : Remarks) :
    Gives (scalarNode p style value rs) IsScalar := by
  unfold scalarNode
  exact (declareAnchor_gives _).bind fun number? _ => finishAnchor_gives number? trivial

lemma noContent_gives (p : Properties) (t : Token) : Gives (noContent p t) IsScalar := by
  unfold noContent
  split
  · exact scalarNode_gives p .plain [] {}
  · exact .fail

lemma properties_gives : Gives properties fun _ => True := by
  unfold properties
  refine peek_gives.bind fun t ht => ?_
  split
  case h_3 => exact .pure trivial
  all_goals rename_i hk; rw [hk] at ht; exact ht.elim

lemma node_gives (fuel : Nat) (block indentless : Bool) :
    Gives (node fuel block indentless) IsScalar := by
  unfold node
  split
  · exact .pure trivial
  · refine peek_gives.bind fun t ht => ?_
    split
    · rename_i hk
      rw [hk] at ht
      exact ht.elim
    · refine properties_gives.bind fun p _ => peek_gives.bind fun u hu => ?_
      split
      case h_2 =>
        exact remarks_gives.bind fun rs _ => .andThen advance_gives (scalarNode_gives _ _ _ rs)
      case h_7 => exact noContent_gives p u
      all_goals rename_i hk; rw [hk] at hu; exact hu.elim

lemma directives_gives (fuel : Nat) (versioned : Bool) :
    Gives (directives fuel versioned) fun _ => True := by
  unfold directives
  split
  · exact .pure trivial
  · refine peek_gives.bind fun t ht => ?_
    split
    case h_3 => exact .modify fun _ => rfl
    all_goals rename_i hk; rw [hk] at ht; exact ht.elim

lemma document_gives (fuel : Nat) :
    Gives (document fuel) fun n? => ∀ n, n? = some n → IsScalar n := by
  have hfinish : ∀ n, IsScalar n → Gives (document.finish n) fun n? => ∀ n, n? = some n → IsScalar n := by
    intro n hn
    unfold document.finish
    exact .andThen peek_gives (.pure fun m hm => Option.some.inj hm ▸ hn)
  unfold document
  refine .andThen peek_gives (.andThen advance_gives (peek_gives.bind fun t ht => ?_))
  split
  case h_1 => exact .pure (by simp)
  case h_5 =>
    exact .andThen (directives_gives fuel false) (.andThen (.modify fun _ => rfl)
      ((node_gives fuel true false).bind hfinish))
  all_goals rename_i hk; rw [hk] at ht; exact ht.elim

end Read

lemma isScalar_of_trimSpace {d : Dialect} {s : Bytes} {doc : Document} (h : Text.trimSpace s = [])
    (hr : read d s = .ok (some doc)) : Read.IsScalar doc.root := by
  unfold read at hr
  split at hr
  · cases hr
  · rename_i text hs
    have hnew : (Lexer.new d text).Loose := ⟨unmarked_of_read h hs, rfl, by simp [Lexer.new]⟩
    split at hr
    · cases hr
    · cases hr
    · rename_i root r hd
      obtain rfl := Option.some.inj (Except.ok.inj hr)
      exact (Read.document_gives _ { lexer := Lexer.new d text } hnew _ hd).1 root rfl

end MarkdownTidy.Yaml
