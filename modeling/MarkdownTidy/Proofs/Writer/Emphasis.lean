import MarkdownTidy.Proofs.Document.Markers
import MarkdownTidy.Proofs.Writer.FirstBlock

/-! What text with emphasis in it is written as: the bytes of the text, with a marker in front of and behind each
emphasis. -/

namespace MarkdownTidy

namespace Node

mutual

def isProse : Node → Bool
  | .mk info children =>
    match info.kind with
    | .text .. => children.isEmpty
    | .emphasis level => (level == 1 || level == 2) && areProse children
    | _ => false

def areProse : List Node → Bool
  | [] => true
  | n :: ns => isProse n && areProse ns

end

lemma isProse_cases {info : Info} {ns : List Node} (h : (mk info ns).isProse = true) :
    (∃ span soft hard raw, info.kind = .text span soft hard raw) ∨
      ∃ level, info.kind = .emphasis level ∧ (level = 1 ∨ level = 2) ∧ areProse ns = true := by
  rw [isProse] at h
  split at h
  · rename_i hk
    exact .inl ⟨_, _, _, _, hk⟩
  · rename_i hk
    exact .inr ⟨_, hk, by simpa using h⟩
  · cases h

lemma areProse_cons {n : Node} {ns : List Node} : areProse (n :: ns) = true ↔ n.isProse = true ∧ areProse ns = true := by
  rw [areProse, Bool.and_eq_true]

end Node

namespace Mark

def lineBreak (soft hard : Bool) : List Mark := if hard then [.hard] else if soft then [.soft] else []

def Firm : Bytes → List Mark → Prop
  | _, [] => True
  | w, m :: ms =>
    (m = .soft ∨ m = .hard → ∀ b ∈ w.getLast?, Bytes.isSpace b = false) ∧
      (m = .hard → ∀ b ∈ w.getLast?, b ≠ MarkdownTidy.byte '\\') ∧ Firm (w ++ m.bytes) ms

instance decidableFirm : (w : Bytes) → (ms : List Mark) → Decidable (Firm w ms)
  | _, [] => inferInstanceAs (Decidable True)
  | w, m :: ms =>
    have : Decidable (Firm (w ++ m.bytes) ms) := decidableFirm _ _
    inferInstanceAs (Decidable ((m = .soft ∨ m = .hard → ∀ b ∈ w.getLast?, Bytes.isSpace b = false) ∧
      (m = .hard → ∀ b ∈ w.getLast?, b ≠ MarkdownTidy.byte '\\') ∧ Firm (w ++ m.bytes) ms))

variable {w : Bytes}

lemma firm_cons {m : Mark} {ms : List Mark} (hs : m ≠ .soft) (hh : m ≠ .hard) (h : Firm (w ++ m.bytes) ms) :
    Firm w (m :: ms) := ⟨fun he => (he.elim hs hh).elim, fun he => (hh he).elim, h⟩

lemma firm_append (ms ms' : List Mark) : Firm w (ms ++ ms') ↔ Firm w ms ∧ Firm (w ++ written ms) ms' := by
  induction ms generalizing w with
  | nil => simp [Firm, written]
  | cons m ms ih => rw [List.cons_append, Firm, Firm, ih, written_cons, List.append_assoc, and_assoc, and_assoc]

lemma firm_bytes (x : Bytes) : Firm w (x.map byte) := by
  induction x generalizing w with
  | nil => trivial
  | cons b x ih => exact firm_cons Mark.noConfusion Mark.noConfusion ih

end Mark

open Mark in
lemma Legible.firm {open_ : List Bytes} {w : Bytes} {ms : List Mark} (h : Legible open_ w ms) : Firm w ms := by
  induction h with
  | nil => trivial
  | idle _ _ _ _ _ ih =>
    rw [firm_append, written_bytes]
    exact ⟨firm_bytes _, ih⟩
  | escaped _ _ ih =>
    exact (firm_append [.byte _, .byte _] _).mpr ⟨firm_bytes [_, _], ih⟩
  | byte _ _ _ ih | opening _ _ _ _ _ ih | closing _ _ _ _ ih =>
    exact firm_cons Mark.noConfusion Mark.noConfusion ih
  | soft hw _ _ ih => exact ⟨fun _ => hw, Mark.noConfusion, ih⟩
  | hard hw _ _ ih => exact ⟨fun _ b hb => (hw b hb).1, fun _ b hb => (hw b hb).2, ih⟩

namespace Writer

variable {style : Style} {source : Bytes} {env : Environment}

def emphasisMarker (style : Style) (source : Bytes) (at_ : Setting) (level : Nat) : Bytes :=
  let marker := if level ≥ 2 then style.strong else style.emphasis
  if marker.head? == some (byte '_') && isIntraword source at_ then List.replicate marker.length (byte '*')
  else marker

mutual

def marksOf (style : Style) (source : Bytes) (at_ : Setting) : Node → List Mark
  | .mk info children =>
    match info.kind with
    | .text span soft hard _ => (span.value source).map .byte ++ Mark.lineBreak soft hard
    | .emphasis level =>
      .opening (emphasisMarker style source at_ level) ::
        (marksAmong style source info.kind [] children ++ [.closing (emphasisMarker style source at_ level)])
    | _ => []

def marksAmong (style : Style) (source : Bytes) (parent : Kind) (before : List Node) : List Node → List Mark
  | [] => []
  | n :: ns => marksOf style source ⟨parent, before, ns.head?⟩ n ++ marksAmong style source parent (n :: before) ns

end

lemma length_emphasisMarker (hs : style.problem? = none) (at_ : Setting) {level : Nat} (hl : level = 1 ∨ level = 2) :
    (emphasisMarker style source at_ level).length = level := by
  have hlen : style.emphasis.length = 1 ∧ style.strong.length = 2 := by
    unfold Style.problem? at hs
    split_ifs at hs with _ he hst
    simp only [Bool.not_eq_true, Bool.not_eq_false', List.contains_iff_mem] at he hst
    have hone : ∀ m ∈ ["_", "*"].map utf8, m.length = 1 := by decide
    have htwo : ∀ m ∈ ["**", "__"].map utf8, m.length = 2 := by decide
    exact ⟨hone _ he, htwo _ hst⟩
  have hmarker : (if level ≥ 2 then style.strong else style.emphasis).length = level := by
    rcases hl with rfl | rfl
    · exact hlen.1
    · exact hlen.2
  unfold emphasisMarker
  dsimp only
  generalize (if level ≥ 2 then style.strong else style.emphasis) = marker at hmarker ⊢
  split
  · rw [List.length_replicate, hmarker]
  · exact hmarker

lemma map_token_lineBreak (soft hard : Bool) :
    (Mark.lineBreak soft hard).map Mark.token = Token.lineBreak soft hard := by
  cases soft <;> cases hard <;> rfl

mutual

lemma map_token_marksOf (hs : style.problem? = none) (at_ : Setting) :
    (n : Node) → n.isProse = true → (marksOf style source at_ n).map Mark.token = n.outline source
  | .mk info children, h => by
    obtain ⟨span, soft, hard, raw, h⟩ | ⟨level, h, hl, hn⟩ := Node.isProse_cases h
    · simp only [marksOf, Node.outline, h, List.map_append, Mark.map_token_bytes, map_token_lineBreak]
    · have hinner := map_token_marksAmong hs info.kind [] children hn
      rw [h] at hinner
      simp only [marksOf, Node.outline, h, List.map_cons, List.map_append, Mark.token, length_emphasisMarker hs at_ hl,
        hinner, List.map_nil]

lemma map_token_marksAmong (hs : style.problem? = none) (parent : Kind) (before : List Node) :
    (ns : List Node) → Node.areProse ns = true →
      (marksAmong style source parent before ns).map Mark.token = Node.outlines source ns
  | [], _ => rfl
  | n :: ns, h => by
    rw [Node.areProse_cons] at h
    rw [marksAmong, Node.outlines, List.map_append, map_token_marksOf hs _ n h.1,
      map_token_marksAmong hs parent (n :: before) ns h.2]

end

lemma text_firm {span : Span} {soft hard : Bool} {w : Bytes}
    (h : Mark.Firm w ((span.value env.source).map .byte ++ Mark.lineBreak soft hard)) :
    text env.source span soft hard =
      Mark.written ((span.value env.source).map .byte ++ Mark.lineBreak soft hard) := by
  rw [Mark.firm_append, Mark.written_bytes] at h
  rw [Mark.written_append, Mark.written_bytes]
  obtain ⟨-, h⟩ := h
  generalize hx : span.value env.source = x at h
  have hlast : ∀ b ∈ x.getLast?, b ∈ (w ++ x).getLast? := by
    intro b hb
    rw [List.getLast?_append, hb]
    rfl
  have htrim : (∀ b ∈ x.getLast?, Bytes.isSpace b = false) →
      Bytes.trimRight isPadding x = x := fun hspace =>
    Bytes.trimRight_eq_self fun b hb => isPadding_eq_false (hspace b hb)
  cases hard with
  | true =>
    have hspace := fun b hb => h.1 (.inr rfl) b (hlast b hb)
    have hslash : Bytes.endsWith x (utf8 "\\") = false := by
      rw [Bool.eq_false_iff, Bytes.endsWith, Ne, List.isSuffixOf_iff_suffix]
      rintro ⟨y, rfl⟩
      exact h.2.1 rfl (byte '\\') (hlast _ (by rw [List.getLast?_append]; rfl)) rfl
    simp only [text, hx, htrim hspace, hslash, if_true, Bool.false_and, Bool.false_eq_true, if_false]
    rfl
  | false =>
    cases soft with
    | true =>
      have hspace := fun b hb => h.1 (.inl rfl) b (hlast b hb)
      simp only [text, hx, htrim hspace, if_true, Bool.false_eq_true, if_false]
      rfl
    | false => simp [text, hx, Mark.lineBreak, Mark.written]

mutual

lemma own_prose (hr : env.registry = []) (at_ : Setting) {w : Bytes} :
    (n : Node) → n.isProse = true → Mark.Firm w (marksOf env.style env.source at_ n) →
      (writeNode env at_ n).own = .ok (Mark.written (marksOf env.style env.source at_ n))
  | .mk info children, hprose, hfirm => by
    rw [own_writeNode (by rw [hr]; rfl)]
    obtain ⟨span, soft, hard, raw, h⟩ | ⟨level, h, hl, hn⟩ := Node.isProse_cases hprose
    · simp only [marksOf, h] at hfirm ⊢
      simp only [usual, Node.kind, Node.info, h]
      rw [text_firm hfirm]
    · simp only [marksOf, h] at hfirm ⊢
      obtain ⟨-, -, hfirm⟩ := hfirm
      have hinner := joinInlines_prose hr (.emphasis level) [] children hn ((Mark.firm_append _ _).mp hfirm).1
      have hwrap : ∀ ws, usual env at_ (.mk info children) ws =
          wrap (emphasisMarker env.style env.source at_ level) (joinInlines ws) := by
        intro ws
        simp only [usual, Node.kind, Node.info, h]
        rfl
      have hwritten (marker : Bytes) (ms : List Mark) :
          Mark.written (.opening marker :: (ms ++ [.closing marker])) = marker ++ Mark.written ms ++ marker := by
        simp [Mark.written, Mark.bytes]
      rw [hwrap, hwritten]
      simp only [Node.kind, Node.info, Node.children, h, hinner]
      rfl

lemma joinInlines_prose (hr : env.registry = []) (parent : Kind) (before : List Node) {w : Bytes} :
    (ns : List Node) → Node.areProse ns = true → Mark.Firm w (marksAmong env.style env.source parent before ns) →
      joinInlines (writeNodes env parent before ns) =
        .ok (Mark.written (marksAmong env.style env.source parent before ns))
  | [], _, _ => rfl
  | n :: ns, hprose, hfirm => by
    rw [Node.areProse_cons] at hprose
    rw [marksAmong, Mark.firm_append] at hfirm
    rw [writeNodes, joinInlines, own_prose hr _ n hprose.1 hfirm.1,
      joinInlines_prose hr parent (n :: before) ns hprose.2 hfirm.2, marksAmong, Mark.written_append]

end

end Writer

end MarkdownTidy
