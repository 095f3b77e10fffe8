import MarkdownTidy.Document.TextCursor
import MarkdownTidy.Proofs.Bytes.Cutting

/-! A text that is a block of its own, read from front to back. -/

namespace MarkdownTidy

def linesBehind (seen : Bytes) : List Bytes → List TextLine
  | [] => []
  | l :: ls => ⟨⟨seen.length, seen.length + l.length, 0⟩, l, seen.reverse⟩ :: linesBehind (seen ++ l) ls

def blockOf (s : Bytes) : List TextLine := linesBehind [] (Bytes.lines s)

namespace TextCursor

structure Between (a r : Bytes) (c : TextCursor) : Prop where
  pos : c.pos = a.length
  padding : c.padding = 0
  rest : c.rest = (Bytes.lines r).headD []
  later : c.later = linesBehind (a ++ c.rest) (Bytes.lines r).tail

variable {a r w : Bytes} {b : UInt8} {c : TextCursor}

lemma between_atLine {l : Bytes} {ls : List Bytes} (index : Nat) (h : Bytes.lines r = l :: ls) :
    Between a r (atLine index ⟨⟨a.length, a.length + l.length, 0⟩, l, a.reverse⟩ (linesBehind (a ++ l) ls)) :=
  ⟨rfl, rfl, by rw [h]; rfl, by rw [h]; rfl⟩

lemma between_ofLines (s : Bytes) : Between [] s (ofLines (blockOf s)) := by
  cases h : Bytes.lines s with
  | nil =>
    rw [blockOf, h]
    exact ⟨rfl, rfl, by rw [h]; rfl, by rw [h]; rfl⟩
  | cons l ls =>
    rw [blockOf, h]
    exact between_atLine 0 h

lemma Between.nextLine {l : Bytes} {ls : List Bytes} (h : Between a r c) (hl : Bytes.lines r = l :: ls) :
    Between (a ++ l) ls.flatten c.nextLine := by
  obtain ⟨hpos, hpad, hrest, hlater⟩ := h
  obtain ⟨-, hls, -⟩ := Bytes.lines_eq_cons hl
  rw [hl, List.headD_cons] at hrest
  rw [hl, hrest, List.tail_cons] at hlater
  cases ls with
  | nil =>
    rw [TextCursor.nextLine, hlater, linesBehind]
    exact ⟨by simp [finish, hpos, hrest], rfl, rfl, rfl⟩
  | cons l' ls =>
    rw [TextCursor.nextLine, hlater, linesBehind]
    exact between_atLine _ hls

lemma Between.step (h : Between a (b :: r) c) : Between (a ++ [b]) r c.step := by
  by_cases hb : b = Bytes.newline
  · -- the line ends here
    subst hb
    have hl : Bytes.lines (Bytes.newline :: r) = [Bytes.newline] :: Bytes.lines r :=
      Bytes.lines_append_newline (l := []) (by simp) r
    have hnext := h.nextLine hl
    rw [Bytes.flatten_lines] at hnext
    obtain ⟨hpos, hpad, hrest, hlater⟩ := h
    rw [hl, List.headD_cons] at hrest
    rw [hl, hrest, List.tail_cons] at hlater
    rw [TextCursor.step, if_neg (by omega), hrest]
    cases hr : Bytes.lines r with
    | nil =>
      rw [hr, linesBehind] at hlater
      simp only [hlater, List.isEmpty_nil, if_true]
      exact ⟨by simp [hpos], hpad, by rw [hr]; rfl, by simp [hr, linesBehind]⟩
    | cons l ls =>
      simpa [hlater, hr, linesBehind] using hnext
  · obtain ⟨hpos, hpad, hrest, hlater⟩ := h
    rw [TextCursor.step, if_neg (by omega)]
    cases hr : Bytes.lines r with
    | nil =>
      have hl : Bytes.lines (b :: r) = [[b]] := by rw [Bytes.lines, if_neg (by simpa using hb), hr]
      rw [hl, List.headD_cons] at hrest
      rw [hl, hrest, List.tail_cons, linesBehind] at hlater
      simp only [hrest, hlater, List.isEmpty_nil, if_true]
      exact ⟨by simp [hpos], hpad, by rw [hr]; rfl, by simp [hr, linesBehind]⟩
    | cons l ls =>
      have hl : Bytes.lines (b :: r) = (b :: l) :: ls := by rw [Bytes.lines, if_neg (by simpa using hb), hr]
      obtain ⟨b', l', rfl⟩ : ∃ b' l', l = b' :: l' := by
        obtain ⟨-, -, ⟨m, -, rfl⟩ | ⟨-, hne, -⟩⟩ := Bytes.lines_eq_cons hr
        · cases m <;> simp
        · exact List.exists_cons_of_ne_nil hne
      rw [hl, List.headD_cons] at hrest
      rw [hl, hrest, List.tail_cons] at hlater
      simp only [hrest]
      exact ⟨by simp [hpos], hpad, by rw [hr]; rfl, by simp [hr, hlater]⟩

lemma Between.advance (h : Between a (w ++ r) c) : Between (a ++ w) r (c.advance w.length) := by
  induction w generalizing a c with
  | nil => rwa [List.append_nil]
  | cons b w ih =>
    have hnext := ih h.step
    rwa [List.append_assoc, List.singleton_append] at hnext

lemma exists_headD_lines (b : UInt8) (r : Bytes) : ∃ l, (Bytes.lines (b :: r)).headD [] = b :: l := by
  rw [Bytes.lines]
  split
  · exact ⟨[], rfl⟩
  · split <;> exact ⟨_, rfl⟩

lemma head?_headD_lines (r : Bytes) : ((Bytes.lines r).headD []).head? = r.head? := by
  cases r with
  | nil => rfl
  | cons b r =>
    obtain ⟨l, hl⟩ := exists_headD_lines b r
    rw [hl]
    rfl

lemma Between.peek?_nil (h : Between a [] c) : c.peek? = none := by
  have hrest : c.rest = [] := h.rest
  have hlater : c.later = [] := by rw [h.later, hrest]; rfl
  simp [peek?, atEnd, hrest, hlater]

lemma Between.peek?_cons (h : Between a (b :: r) c) : c.peek? = some ((Bytes.lines (b :: r)).headD []) := by
  obtain ⟨l, hl⟩ := exists_headD_lines b r
  have hrest := h.rest
  rw [hl] at hrest ⊢
  simp [peek?, atEnd, hrest, h.padding, Bytes.spaces]

lemma Between.line_eq (h : Between a r c) : c.line = (Bytes.lines r).headD [] := by
  cases r with
  | nil => rw [line, h.peek?_nil]; rfl
  | cons b r => rw [line, h.peek?_cons, Option.getD_some]

lemma Between.head_eq (h : Between a r c) : c.head = r.headD 0 := by
  rw [TextCursor.head, h.line_eq]
  cases r with
  | nil => rfl
  | cons b r =>
    obtain ⟨l, hl⟩ := exists_headD_lines b r
    rw [hl]
    rfl

lemma Between.span_eq (h : Between a r c) :
    c.span = ⟨a.length, a.length + ((Bytes.lines r).headD []).length, 0⟩ := by
  rw [TextCursor.span, h.pos, h.rest, h.padding]

/-! ### White space -/

lemma left_linesBehind (seen : Bytes) (ls : List Bytes) :
    skipSpaces.left (linesBehind seen ls) = ls.flatten.length := by
  have hsum : ∀ n, ((linesBehind seen ls).map fun l => l.text.length + l.span.padding).foldl (· + ·) n =
      n + ls.flatten.length := by
    induction ls generalizing seen with
    | nil => intro n; rfl
    | cons l ls ih =>
      intro n
      rw [linesBehind, List.map_cons, List.foldl_cons, ih, List.flatten_cons, List.length_append]
      simp [Nat.add_assoc]
  rw [skipSpaces.left, hsum, Nat.zero_add]

lemma Between.left_eq (h : Between a r c) : c.line.length + skipSpaces.left c.later = r.length := by
  have hr := congrArg List.length (Bytes.flatten_lines r)
  rw [h.line_eq, h.later, left_linesBehind]
  cases hl : Bytes.lines r with
  | nil => simpa [hl] using hr
  | cons l ls => simpa [hl] using hr

lemma Between.skipSpaces_go (h : Between a (w ++ r) c) (hw : ∀ b ∈ w, Bytes.isSpace b = true)
    (hr : ∀ b ∈ r.head?, Bytes.isSpace b = false) {fuel n : Nat} (hf : w.length ≤ fuel) :
    ∃ c', skipSpaces.go fuel c n = (c', n + w.length) ∧ Between (a ++ w) r c' := by
  induction w generalizing a c fuel n with
  | nil =>
    refine ⟨c, ?_, by rwa [List.append_nil]⟩
    cases fuel with
    | zero => rfl
    | succ fuel =>
      rw [List.nil_append] at h
      cases r with
      | nil => rw [skipSpaces.go, h.peek?_nil]; rfl
      | cons b r =>
        obtain ⟨l, hl⟩ := exists_headD_lines b r
        simp only [skipSpaces.go, h.peek?_cons, hl, hr b rfl]
        rfl
  | cons b w ih =>
    rw [List.forall_mem_cons] at hw
    rw [List.length_cons] at hf
    obtain ⟨fuel, rfl⟩ : ∃ k, fuel = k + 1 := ⟨fuel - 1, by omega⟩
    obtain ⟨c', hc', hb⟩ := @ih (a ++ [b]) c.step h.step hw.2 fuel (n + 1) (by omega)
    refine ⟨c', ?_, by rwa [List.append_assoc, List.singleton_append] at hb⟩
    obtain ⟨l, hl⟩ := exists_headD_lines b (w ++ r)
    have hpeek : c.peek? = some (b :: l) := by rw [← hl]; exact h.peek?_cons
    rw [skipSpaces.go, hpeek, List.length_cons, Nat.add_comm w.length, ← Nat.add_assoc, ← hc']
    exact if_pos hw.1

lemma Between.skipSpaces (h : Between a (w ++ r) c) (hw : ∀ b ∈ w, Bytes.isSpace b = true)
    (hr : ∀ b ∈ r.head?, Bytes.isSpace b = false) : Between (a ++ w) r c.skipSpaces.1 := by
  have hfuel : w.length ≤ c.line.length + skipSpaces.left c.later := by rw [h.left_eq]; simp
  obtain ⟨c', hc', hb⟩ := h.skipSpaces_go (n := 0) hw hr hfuel
  rwa [TextCursor.skipSpaces, hc']

lemma exists_spaces (r : Bytes) : ∃ w r', r = w ++ r' ∧ (∀ b ∈ w, Bytes.isSpace b = true) ∧
    ∀ b ∈ r'.head?, Bytes.isSpace b = false := by
  refine ⟨r.takeWhile Bytes.isSpace, r.dropWhile Bytes.isSpace, List.takeWhile_append_dropWhile.symm, ?_, ?_⟩
  · exact fun b hb => List.mem_takeWhile_imp hb
  · intro b hb
    have hnot := List.head?_dropWhile_not Bytes.isSpace r
    rw [Option.mem_def] at hb
    rwa [hb] at hnot

end TextCursor

lemma headD_lines_append {x : Bytes} (h : Bytes.newline ∉ x) (y : Bytes) :
    (Bytes.lines (x ++ y)).headD [] = x ++ (Bytes.lines y).headD [] := by
  induction x with
  | nil => rfl
  | cons b x ih =>
    rw [List.mem_cons, not_or] at h
    have hx := ih h.2
    rw [List.cons_append, Bytes.lines, if_neg (by simpa using Ne.symm h.1), List.cons_append, ← hx]
    split <;> simp_all

lemma exists_headD_lines_append (r : Bytes) : ∃ r', r = (Bytes.lines r).headD [] ++ r' ∧
    (∀ x b y, (Bytes.lines r).headD [] = x ++ b :: y → Bytes.newline ∉ x) ∧
    (Bytes.newline ∉ (Bytes.lines r).headD [] → r' = []) := by
  cases hl : Bytes.lines r with
  | nil =>
    have hr := Bytes.flatten_lines r
    rw [hl, List.flatten_nil] at hr
    exact ⟨r, rfl, fun x b y h => by simp at h, fun _ => hr.symm⟩
  | cons l ls =>
    obtain ⟨hr, -, hend⟩ := Bytes.lines_eq_cons hl
    refine ⟨ls.flatten, hr, ?_, ?_⟩
    swap
    · rw [List.headD_cons]
      intro hnl
      obtain ⟨m, -, rfl⟩ | ⟨-, -, rfl⟩ := hend
      · simp at hnl
      · rfl
    intro x b y h
    rw [List.headD_cons] at h
    obtain ⟨m, hm, rfl⟩ | ⟨hnl, -, -⟩ := hend
    · have hfront : x <+: m := by
        rw [List.append_eq_append_iff] at h
        obtain ⟨u, rfl, hu⟩ | ⟨u, rfl, -⟩ := h
        · obtain rfl : u = [] := by
            have := congrArg List.length hu
            simp at this
            exact List.length_eq_zero_iff.mp (by omega)
          simp
        · exact List.prefix_append _ _
      exact fun hx => hm (hfront.subset hx)
    · rw [h] at hnl
      exact fun hx => hnl (List.mem_append_left _ hx)

/-! ### Stretches of a block -/

lemma length_linesBehind (seen : Bytes) (ls : List Bytes) : (linesBehind seen ls).length = ls.length := by
  induction ls generalizing seen with
  | nil => rfl
  | cons l ls ih => rw [linesBehind, List.length_cons, ih, List.length_cons]

lemma linesBehind_append (seen : Bytes) (ls ms : List Bytes) :
    linesBehind seen (ls ++ ms) = linesBehind seen ls ++ linesBehind (seen ++ ls.flatten) ms := by
  induction ls generalizing seen with
  | nil => simp [linesBehind]
  | cons l ls ih => simp [linesBehind, ih]

lemma start_of_mem_linesBehind {seen : Bytes} {ls : List Bytes} {l : TextLine} (h : l ∈ linesBehind seen ls) :
    seen.length ≤ l.span.start := by
  induction ls generalizing seen with
  | nil => cases h
  | cons m ls ih =>
    rcases List.mem_cons.mp h with rfl | h
    · exact le_rfl
    · have hl := ih h
      rw [List.length_append] at hl
      omega

lemma exists_line_at (seen : Bytes) (l : Bytes) (ls : List Bytes) {start : Nat} (h : seen.length ≤ start) :
    ∃ pre m post, l :: ls = pre ++ m :: post ∧ (seen ++ pre.flatten).length ≤ start ∧
      (post = [] ∨ start < (seen ++ pre.flatten ++ m).length) := by
  induction ls generalizing seen l with
  | nil => exact ⟨[], l, [], rfl, by simpa using h, .inl rfl⟩
  | cons l' ls ih =>
    by_cases hs : start < (seen ++ l).length
    · exact ⟨[], l, l' :: ls, rfl, by simpa using h, .inr (by simpa using hs)⟩
    · obtain ⟨pre, m, post, heq, hpre, hpost⟩ := ih (seen ++ l) l' (by omega)
      refine ⟨l :: pre, m, post, by rw [heq]; rfl, ?_, ?_⟩
      · simpa using hpre
      · simpa using hpost

lemma blockValue_go {stop : Nat} (seen l : Bytes) (ls : List Bytes) {start : Nat} (h : seen.length ≤ start)
    (hl : ls = [] ∨ start ≤ (seen ++ l).length) :
    blockValue.go stop start (linesBehind seen (l :: ls)) =
      ((l :: ls).flatten.drop (start - seen.length)).take (stop - start) := by
  induction ls generalizing seen l start with
  | nil => simp [linesBehind, blockValue.go, Bytes.spaces]
  | cons l' ls ih =>
    have hl' : start ≤ seen.length + l.length := by simpa using hl
    rw [linesBehind, blockValue.go.eq_def, List.flatten_cons,
      List.drop_append_of_le_length (by omega), List.take_append]
    simp only [Bytes.spaces, List.replicate_zero, List.nil_append, List.length_drop]
    split
    · rw [show stop - start - (l.length - (start - seen.length)) = 0 by omega]
      simp
    · have hnext := ih (seen ++ l) l' le_rfl (.inr (by simp))
      rw [show stop - start - (l.length - (start - seen.length)) = stop - (seen ++ l).length by simp; omega]
      rw [linesBehind] at hnext ⊢
      rw [Nat.sub_self, List.drop_zero] at hnext
      exact congrArg _ hnext

lemma blockValue_blockOf (s : Bytes) (start stop : Nat) :
    blockValue (blockOf s) start stop = Bytes.slice s start stop := by
  cases hl : Bytes.lines s with
  | nil =>
    have hs := Bytes.flatten_lines s
    rw [hl, List.flatten_nil] at hs
    subst hs
    simp [blockOf, blockValue, linesBehind, Bytes.slice, hl]
  | cons l ls =>
    obtain ⟨pre, m, post, heq, hpre, hpost⟩ := exists_line_at [] l ls (Nat.zero_le start)
    simp only [List.nil_append] at hpre hpost
    have hs : s = pre.flatten ++ (m :: post).flatten := by
      rw [← List.flatten_append, ← heq, ← hl, Bytes.flatten_lines]
    have hgo := @blockValue_go stop pre.flatten m post start hpre (hpost.imp_right le_of_lt)
    rw [linesBehind] at hgo
    rw [blockOf, hl, heq, linesBehind_append, List.nil_append, linesBehind, blockValue]
    have hbehind : ∀ q ∈ (linesBehind (pre.flatten ++ m) post).reverse, decide (start < q.span.start) = true := by
      intro q hq
      have hstart := start_of_mem_linesBehind (List.mem_reverse.mp hq)
      rcases hpost with rfl | hpost
      · simp [linesBehind] at hq
      · exact decide_eq_true (by omega)
    have hhere : ¬ start < pre.flatten.length := by omega
    simp only [List.reverse_append, List.reverse_cons, List.append_assoc, List.dropWhile_append_of_pos hbehind,
      List.singleton_append, List.dropWhile_cons, hhere, decide_false, Bool.false_eq_true, if_false,
      List.length_cons, List.length_reverse]
    rw [List.drop_append, List.drop_of_length_le (by omega), Nat.add_sub_cancel_left, List.nil_append,
      List.drop_one, List.tail_cons, hgo, Bytes.slice, hs, List.drop_append, List.drop_of_length_le hpre,
      List.nil_append]

lemma blockValue_part (a x r : Bytes) : blockValue (blockOf (a ++ (x ++ r))) a.length (a.length + x.length) = x := by
  rw [blockValue_blockOf, Bytes.slice, Nat.add_sub_cancel_left, List.drop_left, List.take_left]

end MarkdownTidy
