import MarkdownTidy.Proofs.Document.InlineKinds
import MarkdownTidy.Proofs.Document.Spans

/-! Delimiter runs that are matched the way they nest: every opening run is closed by a run of the same marker,
and what stands between the two becomes the content of emphasis. -/

namespace MarkdownTidy

/-- What text with emphasis in it says, from the front to the end. -/
inductive Token where
  | byte (b : UInt8)
  | soft
  | hard
  | enter (level : Nat)
  | leave
  /-- Anything but text and emphasis. -/
  | other
  deriving DecidableEq, Repr

def Token.lineBreak (soft hard : Bool) : List Token := if hard then [.hard] else if soft then [.soft] else []

namespace Node

mutual

/-- The text of a node with the emphasis around it. -/
def outline (source : Bytes) : Node → List Token
  | .mk info children =>
    match info.kind with
    | .text span soft hard _ => (span.value source).map .byte ++ Token.lineBreak soft hard
    | .emphasis level => .enter level :: (outlines source children ++ [.leave])
    | _ => [.other]

def outlines (source : Bytes) : List Node → List Token
  | [] => []
  | n :: ns => outline source n ++ outlines source ns

end

variable (source : Bytes)

lemma outlines_append (ns ms : List Node) : outlines source (ns ++ ms) = outlines source ns ++ outlines source ms := by
  induction ns with
  | nil => rfl
  | cons n ns ih => rw [List.cons_append, outlines, outlines, ih, List.append_assoc]

lemma outline_text (span : Span) (soft hard : Bool) :
    (leaf (.text span soft hard false) []).outline source =
      (span.value source).map .byte ++ Token.lineBreak soft hard := rfl

lemma outline_ofText (span : Span) : (ofText span).outline source = (span.value source).map .byte := List.append_nil _

lemma outline_emphasis (level : Nat) (ns : List Node) :
    (leaf (.emphasis level) ns).outline source = .enter level :: (outlines source ns ++ [.leave]) := by
  rw [leaf, outline]

end Node

namespace Piece

/-- A piece that was read from text with emphasis: text, a delimiter run or matched delimiters. A backslash stands
behind a text that ends in a hard line break, and no delimiter run begins with one. -/
inductive Sound (source : Bytes) : Piece → Prop
  | text {span : Span} {soft hard : Bool} (h : span.start ≤ span.stop)
      (hh : hard = true → (source.drop span.stop).head? = some (byte '\\')) :
      Sound source (.node (.leaf (.text span soft hard false) []))
  | delimiter {d : Delimiter} (h : d.span.start ≤ d.span.stop) (hp : d.span.padding = 0)
      (hb : (source.drop d.span.start).head? ≠ some (byte '\\')) : Sound source (.delimiter d)
  | wrapped {level : Nat} {inner : List Piece} (h : ∀ p ∈ inner, Sound source p) :
      Sound source (.wrapped (.emphasis level) inner)

def tokens (source : Bytes) (ps : List Piece) : List Token := Node.outlines source (toNodes ps)

def BrokenAt (ps : List Piece) (pos : Nat) : Prop :=
  ∃ span soft earlier, ps = .node (.leaf (.text span soft true false) []) :: earlier ∧ span.stop = pos

variable {source : Bytes} {ps done : List Piece} {s : Span}

@[simp] lemma tokens_nil : tokens source [] = [] := rfl

lemma tokens_append (ps qs : List Piece) : tokens source (ps ++ qs) = tokens source ps ++ tokens source qs := by
  rw [tokens, toNodes_eq_map, List.map_append, Node.outlines_append, ← toNodes_eq_map, ← toNodes_eq_map, tokens, tokens]

lemma tokens_cons (p : Piece) (ps : List Piece) :
    tokens source (p :: ps) = tokens source [p] ++ tokens source ps := tokens_append [p] ps

lemma tokens_node (n : Node) : tokens source [.node n] = n.outline source := List.append_nil _

lemma tokens_delimiter (d : Delimiter) : tokens source [.delimiter d] = (d.span.value source).map .byte := by
  rw [← Node.outline_ofText]
  exact List.append_nil _

lemma tokens_wrapped (level : Nat) (inner : List Piece) :
    tokens source [.wrapped (.emphasis level) inner] = .enter level :: (tokens source inner ++ [.leave]) := by
  rw [tokens, toNodes, toNodes, toNode, Node.outlines, Node.outlines, List.append_nil, Node.outline_emphasis, tokens]

lemma Sound.ofText (h : s.start ≤ s.stop) : (node (.ofText s)).Sound source := .text h (by simp)

lemma not_brokenAt {d : Delimiter} (hd : (delimiter d).Sound source) (h : ∀ p ∈ ps, p.Sound source) :
    ¬ BrokenAt ps d.span.start := by
  rintro ⟨span, soft, earlier, rfl, hstop⟩
  rw [List.forall_mem_cons] at h
  have hbyte : (source.drop span.stop).head? = some (byte '\\') := by
    cases h.1 with
    | text _ hh => exact hh rfl
  cases hd with
  | delimiter _ _ hb => exact hb (hstop ▸ hbyte)

lemma extendText?_sound {n n' : Node} (h : (node n).Sound source) (hs : s.start ≤ s.stop) (hp : s.padding = 0)
    (hb : ¬ BrokenAt [.node n] s.start) (hx : extendText? n s = some n') :
    n'.outline source = n.outline source ++ (s.value source).map .byte ∧ (node n').Sound source := by
  cases h with
  | @text span soft hard hle hh =>
    simp only [extendText?, Node.kind, Node.info, Node.leaf] at hx
    split at hx
    · rename_i he
      obtain ⟨hstop, rfl⟩ : span.stop = s.start ∧ soft = false := by simpa using he
      obtain rfl : hard = false := by
        by_contra hhard
        rw [Bool.not_eq_false] at hhard
        subst hhard
        exact hb ⟨span, false, [], rfl, hstop⟩
      cases hx
      refine ⟨?_, .text (Nat.le_trans hle (hstop ▸ hs)) (by simp)⟩
      have hslice : Bytes.slice source span.start s.stop =
          Bytes.slice source span.start span.stop ++ Bytes.slice source s.start s.stop := by
        rw [← hstop] at hs ⊢
        have hlen : s.stop - span.start = (span.stop - span.start) + (s.stop - span.stop) := by omega
        rw [Bytes.slice, Bytes.slice, Bytes.slice, hlen, List.take_add, List.drop_drop, Nat.add_sub_cancel' hle]
      rw [Node.outline_text]
      simp only [Node.withKind, Node.info, Node.children, Node.outline, Token.lineBreak, Bool.false_eq_true, if_false,
        List.append_nil, Span.value, hslice, hp, Bytes.spaces, List.replicate_zero, List.nil_append, List.map_append,
        List.append_assoc]
    · cases hx

lemma not_brokenAt_addText (hb : ¬ BrokenAt ps s.start) (pos : Nat) : ¬ BrokenAt (addText ps s) pos := by
  have hnew : ¬ BrokenAt (.node (.ofText s) :: ps) pos := by
    rintro ⟨span, soft, earlier, he, -⟩
    cases he
  rw [addText.eq_def]
  split
  · rename_i n earlier
    cases hx : extendText? n s with
    | none => exact hnew
    | some n' =>
      rw [extendText?] at hx
      split at hx
      · rename_i span soft hard raw hk
        split at hx
        · rename_i he
          cases hx
          rintro ⟨span', soft', earlier', htop, -⟩
          obtain ⟨⟨kind, lines, blank, attributes⟩, children⟩ := n
          simp only [Node.kind, Node.info] at hk
          subst hk
          simp only [Node.withKind, Node.info, Node.children, Node.leaf, List.cons.injEq, Piece.node.injEq, Node.mk.injEq,
            Info.mk.injEq, Kind.text.injEq] at htop
          obtain ⟨⟨⟨⟨-, rfl, rfl, rfl⟩, rfl, rfl, rfl⟩, rfl⟩, rfl⟩ := htop
          exact hb ⟨span, soft, earlier, rfl, by simpa using And.left (by simpa using he)⟩
        · cases hx
      · cases hx
  · exact hnew

lemma addText_sound (h : ∀ p ∈ ps, p.Sound source) (hs : s.start ≤ s.stop) (hp : s.padding = 0)
    (hb : ¬ BrokenAt ps s.start) :
    tokens source (addText ps s).reverse = tokens source ps.reverse ++ (s.value source).map .byte ∧
      ∀ p ∈ addText ps s, p.Sound source := by
  have hnew : tokens source (.node (.ofText s) :: ps).reverse = tokens source ps.reverse ++ (s.value source).map .byte ∧
      ∀ p ∈ .node (.ofText s) :: ps, p.Sound source := by
    refine ⟨?_, List.forall_mem_cons.mpr ⟨.ofText hs, h⟩⟩
    rw [List.reverse_cons, tokens_append, tokens_node, Node.outline_ofText]
  rw [addText.eq_def]
  split
  · rename_i n earlier
    cases hx : extendText? n s with
    | none => exact hnew
    | some n' =>
      rw [List.forall_mem_cons] at h
      have hn : ¬ BrokenAt [.node n] s.start := by
        rintro ⟨span, soft, rest, he, hstop⟩
        exact hb ⟨span, soft, earlier, by rw [(List.cons.inj he).1], hstop⟩
      obtain ⟨htokens, hsound⟩ := extendText?_sound h.1 hs hp hn hx
      refine ⟨?_, List.forall_mem_cons.mpr ⟨hsound, h.2⟩⟩
      simp only [List.reverse_cons, tokens_append, tokens_node, htokens, List.append_assoc]
  · exact hnew

lemma settleInner_sound (hd : ∀ p ∈ done, p.Sound source) (h : ∀ p ∈ ps, p.Sound source) :
    tokens source (settleInner done ps) = tokens source done.reverse ++ tokens source ps ∧
      ∀ p ∈ settleInner done ps, p.Sound source := by
  induction ps generalizing done with
  | nil => exact ⟨(List.append_nil _).symm, by simpa [settleInner] using hd⟩
  | cons p ps ih =>
    rw [List.forall_mem_cons] at h
    rw [tokens_cons]
    cases p
    case delimiter d =>
      have hsound := h.1
      have hbroken := not_brokenAt hsound hd
      cases hsound with
      | delimiter hle hp _ =>
        obtain ⟨htokens, hdone⟩ := addText_sound hd hle hp hbroken
        obtain ⟨hrest, hall⟩ := ih hdone h.2
        exact ⟨by rw [settleInner, hrest, htokens, tokens_delimiter, List.append_assoc], hall⟩
    all_goals
      obtain ⟨hrest, hall⟩ := ih (List.forall_mem_cons.mpr ⟨h.1, hd⟩) h.2
      exact ⟨by rw [settleInner, hrest, List.reverse_cons, tokens_append, List.append_assoc]; simp, hall⟩

lemma settleAll_sound (hd : ∀ p ∈ done, p.Sound source) (h : ∀ p ∈ ps, p.Sound source) (behind : Bool) :
    tokens source (settleAll done behind ps) = tokens source done.reverse ++ tokens source ps ∧
      ∀ p ∈ settleAll done behind ps, p.Sound source := by
  induction ps generalizing done behind with
  | nil => exact ⟨(List.append_nil _).symm, by simpa [settleAll] using hd⟩
  | cons p ps ih =>
    rw [List.forall_mem_cons] at h
    rw [tokens_cons]
    cases p
    case delimiter d =>
      have hsound := h.1
      have hbroken := not_brokenAt hsound hd
      cases hsound with
      | delimiter hle hp _ =>
        obtain ⟨htokens, hdone⟩ := addText_sound hd hle hp hbroken
        rw [settleAll, tokens_delimiter]
        split
        · obtain ⟨hrest, hall⟩ := ih (List.forall_mem_cons.mpr ⟨.ofText hle, hd⟩) h.2 true
          exact ⟨by rw [hrest, List.reverse_cons, tokens_append, tokens_node, Node.outline_ofText, List.append_assoc], hall⟩
        · obtain ⟨hrest, hall⟩ := ih hdone h.2 true
          exact ⟨by rw [hrest, htokens, List.append_assoc], hall⟩
    all_goals
      obtain ⟨hrest, hall⟩ := ih (List.forall_mem_cons.mpr ⟨h.1, hd⟩) h.2 false
      exact ⟨by rw [settleAll, hrest, List.reverse_cons, tokens_append, List.append_assoc]; simp, hall⟩

end Piece

/-! ### Matching -/

namespace Delimiter

def marker (d : Delimiter) : Bytes := List.replicate d.written d.mark

structure IsMarker (source : Bytes) (d : Delimiter) : Prop where
  sound : (Piece.delimiter d).Sound source
  length : d.length = d.written
  written : d.written = 1 ∨ d.written = 2
  mark : d.mark ≠ byte '~'

variable {source : Bytes} {d e : Delimiter}

lemma marker_eq_iff (hd : d.IsMarker source) : e.marker = d.marker ↔ e.mark = d.mark ∧ e.written = d.written := by
  refine ⟨fun h => ?_, fun h => by rw [marker, marker, h.1, h.2]⟩
  have hlen := congrArg List.length h
  rw [marker, marker, List.length_replicate, List.length_replicate] at hlen
  refine ⟨?_, hlen⟩
  have hpos : d.written ≠ 0 := by rcases hd.written with h | h <;> omega
  have hmem : e.mark ∈ d.marker := by
    rw [← h, marker, hlen]
    exact List.mem_replicate.mpr ⟨hpos, rfl⟩
  exact List.eq_of_mem_replicate hmem

lemma consumption_same (he : e.IsMarker source) (hd : d.IsMarker source) (h : e.written = d.written) :
    e.consumption d = d.written := by
  rw [consumption, he.length, hd.length, h]
  rcases hd.written with h | h <;> simp [h]

lemma consumption_other (he : e.IsMarker source) (hd : d.IsMarker source) (h : e.written ≠ d.written)
    (hopen : d.canOpen = true) : e.consumption d = 0 := by
  rw [consumption]
  rcases he.written with h₁ | h₁ <;> rcases hd.written with h₂ | h₂
  · exact absurd (h₁.trans h₂.symm) h
  · simp [h₁, h₂, hopen]
  · simp [h₁, h₂, hopen]
  · exact absurd (h₁.trans h₂.symm) h

end Delimiter

namespace Piece

variable {source : Bytes} {open_ : List Delimiter} {ps done : List Piece} {ts us : List Token} {d e : Delimiter}

/-- Pieces, in reverse, in which every run that can open is still to be closed: these runs, innermost first, and what
the pieces say if they are. -/
inductive Pending (source : Bytes) : List Delimiter → List Piece → List Token → Prop
  | nil : Pending source [] [] []
  | still {open_ : List Delimiter} {ps : List Piece} {ts : List Token} {p : Piece} (h : Pending source open_ ps ts)
      (hp : p.Sound source) (hd : ∀ d, p = .delimiter d → d.canOpen = false) :
      Pending source open_ (p :: ps) (ts ++ tokens source [p])
  | opened {open_ : List Delimiter} {ps : List Piece} {ts : List Token} {d : Delimiter} (h : Pending source open_ ps ts)
      (hd : d.IsMarker source) (ho : d.canOpen = true) :
      Pending source (d :: open_) (.delimiter d :: ps) (ts ++ [.enter d.written])

/-- Pieces of which every marker is read as it was written: behind runs that are still open, innermost first, each
closing run can close and has the marker of the innermost, and an opening run that could close as well is not taken
for the end of any. -/
inductive Strand (source : Bytes) : List Delimiter → List Piece → List Token → Prop
  | nil : Strand source [] [] []
  | node {open_ : List Delimiter} {ps : List Piece} {ts : List Token} {n : Node} (hn : (node n).Sound source)
      (h : Strand source open_ ps ts) : Strand source open_ (.node n :: ps) (n.outline source ++ ts)
  | idle {open_ : List Delimiter} {ps : List Piece} {ts : List Token} {d : Delimiter}
      (hd : (delimiter d).Sound source) (ho : d.canOpen = false) (hc : d.canClose = false)
      (h : Strand source open_ ps ts) :
      Strand source open_ (.delimiter d :: ps) ((d.span.value source).map .byte ++ ts)
  | opening {open_ : List Delimiter} {ps : List Piece} {ts : List Token} {d : Delimiter} (hd : d.IsMarker source)
      (ho : d.canOpen = true) (hc : d.canClose = true → ∀ e ∈ open_, e.marker ≠ d.marker)
      (h : Strand source (d :: open_) ps ts) : Strand source open_ (.delimiter d :: ps) (.enter d.written :: ts)
  | closing {open_ : List Delimiter} {ps : List Piece} {ts : List Token} {d e : Delimiter} (hd : d.IsMarker source)
      (hc : d.canClose = true) (he : e.marker = d.marker) (h : Strand source open_ ps ts) :
      Strand source (e :: open_) (.delimiter d :: ps) (.leave :: ts)

/-- Pieces, in reverse, that were read so far: the same from the other end. -/
inductive Woven (source : Bytes) : List Delimiter → List Piece → List Token → Prop
  | nil : Woven source [] [] []
  | node {open_ : List Delimiter} {ps : List Piece} {ts : List Token} {n : Node} (h : Woven source open_ ps ts)
      (hn : (node n).Sound source) : Woven source open_ (.node n :: ps) (ts ++ n.outline source)
  | idle {open_ : List Delimiter} {ps : List Piece} {ts : List Token} {d : Delimiter} (h : Woven source open_ ps ts)
      (hd : (delimiter d).Sound source) (ho : d.canOpen = false) (hc : d.canClose = false) :
      Woven source open_ (.delimiter d :: ps) (ts ++ (d.span.value source).map .byte)
  | opening {open_ : List Delimiter} {ps : List Piece} {ts : List Token} {d : Delimiter} (h : Woven source open_ ps ts)
      (hd : d.IsMarker source) (ho : d.canOpen = true) (hc : d.canClose = true → ∀ e ∈ open_, e.marker ≠ d.marker) :
      Woven source (d :: open_) (.delimiter d :: ps) (ts ++ [.enter d.written])
  | closing {open_ : List Delimiter} {ps : List Piece} {ts : List Token} {d e : Delimiter}
      (h : Woven source (e :: open_) ps ts) (hd : d.IsMarker source) (hc : d.canClose = true)
      (he : e.marker = d.marker) : Woven source open_ (.delimiter d :: ps) (ts ++ [.leave])

lemma Woven.strand (h : Woven source open_ done ts) (hs : Strand source open_ ps us) :
    Strand source [] (done.reverse ++ ps) (ts ++ us) := by
  induction h generalizing ps us with
  | nil => exact hs
  | node _ hn ih => simpa using ih (.node hn hs)
  | idle _ hd ho hc ih => simpa using ih (.idle hd ho hc hs)
  | opening _ hd ho hc ih => simpa using ih (.opening hd ho hc hs)
  | closing _ hd hc he ih => simpa using ih (.closing hd hc he hs)

lemma Woven.addText (h : Woven source open_ done ts) {s : Span} (hs : s.start ≤ s.stop) (hp : s.padding = 0)
    (hb : ¬ BrokenAt done s.start) :
    Woven source open_ (Piece.addText done s) (ts ++ (s.value source).map .byte) := by
  have hnew : Woven source open_ (.node (.ofText s) :: done) (ts ++ (s.value source).map .byte) := by
    rw [← Node.outline_ofText]
    exact h.node (.ofText hs)
  rw [addText.eq_def]
  split
  · rename_i n earlier
    cases hx : extendText? n s with
    | none => exact hnew
    | some n' =>
      have hn : ¬ BrokenAt [.node n] s.start := by
        rintro ⟨span, soft, rest, he, hstop⟩
        exact hb ⟨span, soft, earlier, by rw [(List.cons.inj he).1], hstop⟩
      cases h with
      | node h hsound =>
        obtain ⟨htokens, hsound'⟩ := extendText?_sound hsound hs hp hn hx
        rw [List.append_assoc, ← htokens]
        exact h.node hsound'
  · exact hnew

lemma Pending.isMarker (h : Pending source open_ done ts) : ∀ e ∈ open_, e.IsMarker source := by
  induction h with
  | nil => simp
  | still _ _ _ ih => exact ih
  | opened _ hd _ ih => exact List.forall_mem_cons.mpr ⟨hd, ih⟩

lemma Pending.sound (h : Pending source open_ done ts) : ∀ p ∈ done, p.Sound source := by
  induction h with
  | nil => simp
  | still _ hp _ ih => exact List.forall_mem_cons.mpr ⟨hp, ih⟩
  | opened _ hd _ ih => exact List.forall_mem_cons.mpr ⟨hd.sound, ih⟩

lemma Pending.tokens_eq (h : Pending source [] done ts) : tokens source done.reverse = ts := by
  generalize ho : ([] : List Delimiter) = open_ at h
  induction h with
  | nil => rfl
  | still _ _ _ ih => rw [List.reverse_cons, tokens_append, ih ho]
  | opened => cases ho

lemma Pending.findOpener_none (h : Pending source open_ done ts) (hd : d.IsMarker source) (ho : d.canOpen = true)
    (hn : ∀ e ∈ open_, e.marker ≠ d.marker) (between : List Piece) (candidate : Bool) :
    ∃ c, findOpener d between candidate done = (none, c) := by
  induction h generalizing between candidate with
  | nil => exact ⟨candidate, rfl⟩
  | @still _ ps _ p _ hp hidle ih =>
    cases p
    case delimiter e =>
      obtain ⟨c, hc⟩ := ih hn (.delimiter e :: between) candidate
      refine ⟨c, ?_⟩
      rw [findOpener, hidle e rfl]
      exact hc
    all_goals
      obtain ⟨c, hc⟩ := ih hn (_ :: between) candidate
      exact ⟨c, hc⟩
  | @opened _ ps _ e _ he _ ih =>
    rw [List.forall_mem_cons] at hn
    rw [findOpener]
    by_cases hm : e.mark = d.mark
    · have hw : e.written ≠ d.written := fun hw => hn.1 ((Delimiter.marker_eq_iff hd).mpr ⟨hm, hw⟩)
      obtain ⟨c, hc⟩ := ih hn.2 (.delimiter e :: between) true
      obtain ⟨c', hc'⟩ := ih hn.2 (.delimiter e :: between) candidate
      simp only [Delimiter.consumption_other he hd hw ho, Nat.lt_irrefl, gt_iff_lt, if_false]
      split
      · exact ⟨c, hc⟩
      · exact ⟨c', hc'⟩
    · have hmark : (e.mark == d.mark) = false := beq_eq_false_iff_ne.mpr hm
      simp only [hmark, Bool.and_false, Bool.false_eq_true, if_false]
      exact ih hn.2 _ _

lemma Pending.findOpener_some (h : Pending source (e :: open_) done ts) (hd : d.IsMarker source)
    (hm : e.marker = d.marker) (between : List Piece) (candidate : Bool) :
    ∃ inner earlier ts', findOpener d between candidate done = (some (inner ++ between, e, earlier, d.written), true) ∧
      Pending source open_ earlier ts' ∧ (∀ p ∈ inner, p.Sound source) ∧
      ts = ts' ++ .enter d.written :: tokens source inner := by
  generalize ho : e :: open_ = outer at h
  induction h generalizing between candidate with
  | nil => cases ho
  | @still _ ps ts p _ hp hidle ih =>
    obtain ⟨inner, earlier, ts', hfind, hpending, hinner, hts⟩ := ih (p :: between) candidate ho
    refine ⟨inner ++ [p], earlier, ts', ?_, hpending, ?_, ?_⟩
    · cases p
      case delimiter e' =>
        rw [findOpener, hidle e' rfl]
        simpa using hfind
      all_goals simpa [findOpener] using hfind
    · exact List.forall_mem_append.mpr ⟨hinner, by simpa using hp⟩
    · rw [hts, tokens_append, List.append_assoc, List.cons_append]
  | @opened _ ps ts e' h he hopen _ =>
    obtain ⟨rfl, rfl⟩ := List.cons.inj ho
    obtain ⟨hmark, hwritten⟩ := (Delimiter.marker_eq_iff hd).mp hm
    have hpos : d.written > 0 := by rcases hd.written with h | h <;> omega
    refine ⟨[], ps, ts, ?_, h, by simp, by rw [hwritten]; rfl⟩
    simp only [findOpener, hopen, hmark, beq_self_eq_true, Bool.and_self, if_true,
      Delimiter.consumption_same he hd hwritten, if_pos hpos, List.nil_append]

lemma Strand.matchDelimiters (h : Strand source open_ ps us) (hp : Pending source open_ done ts) (fuel : Nat)
    (hfuel : ps.length ≤ fuel) :
    tokens source (matchDelimiters fuel done ps) = ts ++ us ∧
      ∀ p ∈ Piece.matchDelimiters fuel done ps, p.Sound source := by
  induction h generalizing done ts fuel with
  | nil =>
    have hend : Piece.matchDelimiters fuel done [] = done.reverse := by cases fuel <;> simp [Piece.matchDelimiters]
    rw [hend, hp.tokens_eq]
    exact ⟨(List.append_nil _).symm, by simpa using hp.sound⟩
  | @node _ ps us n hn _ ih =>
    obtain ⟨fuel, rfl⟩ : ∃ k, fuel = k + 1 := ⟨fuel - 1, by simp at hfuel; omega⟩
    rw [← tokens_node, ← List.append_assoc]
    exact ih (hp.still hn (by simp)) fuel (by simpa using hfuel)
  | @idle _ ps us d hd ho hc _ ih =>
    obtain ⟨fuel, rfl⟩ : ∃ k, fuel = k + 1 := ⟨fuel - 1, by simp at hfuel; omega⟩
    have hnext := ih (hp.still hd (by rintro _ ⟨⟩; exact ho)) fuel (by simpa using hfuel)
    rw [← tokens_delimiter, ← List.append_assoc, Piece.matchDelimiters, hc]
    exact hnext
  | @opening open_ ps us d hd ho hc _ ih =>
    obtain ⟨fuel, rfl⟩ : ∃ k, fuel = k + 1 := ⟨fuel - 1, by simp at hfuel; omega⟩
    have hnext := ih (hp.opened hd ho) fuel (by simpa using hfuel)
    rw [List.append_assoc, List.singleton_append] at hnext
    rw [Piece.matchDelimiters]
    cases hclose : d.canClose with
    | false => exact hnext
    | true =>
      obtain ⟨c, hnone⟩ := hp.findOpener_none hd ho (hc hclose) [] false
      simp only [Bool.not_true, Bool.false_eq_true, if_false, hnone, ho, Bool.and_false]
      exact hnext
  | @closing open_ ps us d e hd hc he _ ih =>
    obtain ⟨fuel, rfl⟩ : ∃ k, fuel = k + 1 := ⟨fuel - 1, by simp at hfuel; omega⟩
    obtain ⟨inner, earlier, ts', hfind, hpending, hinner, rfl⟩ := hp.findOpener_some hd he [] false
    obtain ⟨hsettled, hsound⟩ := settleInner_sound (List.forall_mem_nil _) hinner
    have hlength : e.length = d.written := by
      rw [(hp.isMarker e List.mem_cons_self).length]
      exact ((Delimiter.marker_eq_iff hd).mp he).2
    have hwrapper : Delimiter.wrapper d.mark d.written = .emphasis d.written := by
      rw [Delimiter.wrapper, if_neg (by simpa using hd.mark)]
    have hnext := ih (hpending.still (@Sound.wrapped _ d.written _ hsound) (by simp)) fuel (by simpa using hfuel)
    rw [tokens_wrapped, hsettled, List.reverse_nil, tokens_nil, List.nil_append] at hnext
    rw [Piece.matchDelimiters, hc]
    simp only [Bool.not_true, Bool.false_eq_true, if_false, hfind, List.append_nil, hwrapper, Delimiter.consume, hlength,
      hd.length, Nat.sub_self, beq_self_eq_true, if_true]
    simpa using hnext

lemma length_le_matchSteps (ps : List Piece) : ps.length ≤ matchSteps ps := by
  have hsum : ∀ (f : Piece → Nat) (k : Nat), (∀ p, 1 ≤ f p) → k + ps.length ≤ (ps.map f).foldl (· + ·) k := by
    intro f k hf
    induction ps generalizing k with
    | nil => exact le_rfl
    | cons p ps ih =>
      have hrest := ih (k + f p)
      have hp := hf p
      rw [List.map_cons, List.foldl_cons, List.length_cons]
      omega
  refine Nat.le_succ_of_le ((Nat.zero_add _).symm.trans_le (hsum _ 0 fun p => ?_))
  split <;> omega

theorem Strand.process (h : Strand source [] ps ts) :
    tokens source (process ps) = ts ∧ ∀ p ∈ Piece.process ps, p.Sound source := by
  obtain ⟨htokens, hsound⟩ := h.matchDelimiters .nil (matchSteps ps) (length_le_matchSteps ps)
  obtain ⟨hsettled, hall⟩ := settleAll_sound (List.forall_mem_nil _) hsound false
  rw [Piece.process, hsettled, htokens]
  exact ⟨rfl, hall⟩

end Piece

end MarkdownTidy
