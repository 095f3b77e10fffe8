import MarkdownTidy.Document.Inline.Link
import MarkdownTidy.Proofs.Document.BlockText
import MarkdownTidy.Proofs.Text.Glyphs

/-! Destinations and titles read from a text: which part of the text they take, and what stands
behind them. -/

namespace MarkdownTidy

/-! ### Closing bytes -/

section Search

variable {opener closer b : UInt8} {x r s : Bytes}

lemma hidesNext_hidden {c : UInt8} (h : Bytes.isPunct c = true) (s : Bytes) : hidesNext 92 (c :: s) = true := by
  simp [hidesNext, byte, h]

lemma searchLine_plain (h : hidesNext b s = false) (i : Nat) :
    searchLine opener closer i false (b :: s) =
      if b == closer then .found i else if b == opener then .refused
      else searchLine opener closer (i + 1) false s := by
  rw [searchLine, h]
  rfl

lemma searchLine_hidden {c : UInt8} (h : Bytes.isPunct c = true) (i : Nat) (s : Bytes) :
    searchLine opener closer i false (92 :: c :: s) = searchLine opener closer (i + 2) false s := by
  rw [searchLine, hidesNext_hidden h, searchLine]
  rfl

lemma searchLine_append (hx : Hangs x → ∀ c ∈ r.head?, Bytes.isPunct c = false)
    (hc : Glyph.plain closer ∉ glyphs x) (ho : Glyph.plain opener ∉ glyphs x) (i : Nat) :
    searchLine opener closer i false (x ++ r) = searchLine opener closer (i + x.length) false r := by
  induction x using glyph_induction generalizing i with
  | nil => rfl
  | plain b x hb ih =>
    rw [glyphs_plain hb, List.mem_cons, not_or] at hc ho
    have hseam : hidesNext b (x ++ r) = false := hidesNext_append hb fun h0 h92 => by
      subst h0 h92
      exact hx rfl
    have hbc : b ≠ closer := by
      rintro rfl
      exact hc.1 rfl
    have hbo : b ≠ opener := by
      rintro rfl
      exact ho.1 rfl
    rw [List.cons_append, searchLine_plain hseam, if_neg (by simpa using hbc), if_neg (by simpa using hbo),
      ih (fun h => hx (hangs_cons hb h)) hc.2 ho.2, List.length_cons, Nat.add_right_comm, Nat.add_assoc]
  | hidden c x hp ih =>
    rw [glyphs_hidden hp, List.mem_cons, not_or] at hc ho
    rw [hangs_hidden hp] at hx
    rw [List.cons_append, List.cons_append, searchLine_hidden hp, ih hx hc.2 ho.2]
    congr 1
    simp
    omega

lemma searchLine_found {i n : Nat} (hp : Bytes.isPunct closer = true)
    (h : searchLine opener closer i false s = .found n) :
    ∃ x r, s = x ++ closer :: r ∧ n = i + x.length ∧ ¬ Hangs x ∧
      Glyph.plain closer ∉ glyphs x ∧ Glyph.plain opener ∉ glyphs x := by
  induction s using glyph_induction generalizing i with
  | nil => cases h
  | plain b s hb ih =>
    rw [searchLine_plain hb] at h
    split at h
    · rename_i hbc
      obtain rfl : b = closer := by simpa using hbc
      cases h
      exact ⟨[], s, rfl, rfl, not_hangs_nil, by simp, by simp⟩
    · rename_i hbc
      split at h
      · cases h
      · rename_i hbo
        obtain ⟨x, r, rfl, rfl, hx, hc, ho⟩ := ih h
        have hb' : hidesNext b x = false := by
          cases x with
          | nil => simp [hidesNext]
          | cons c x => simpa [hidesNext] using hb
        refine ⟨b :: x, r, rfl, by simp; omega, ?_, ?_, ?_⟩
        · rw [hangs_plain hb']
          split
          · rename_i h0
            subst h0
            rintro rfl
            rw [List.nil_append, hidesNext_hidden hp] at hb
            cases hb
          · exact hx
        · rw [glyphs_plain hb', List.mem_cons, not_or]
          refine ⟨?_, hc⟩
          rintro ⟨⟩
          simp at hbc
        · rw [glyphs_plain hb', List.mem_cons, not_or]
          refine ⟨?_, ho⟩
          rintro ⟨⟩
          simp at hbo
  | hidden c s hc ih =>
    rw [searchLine_hidden hc] at h
    obtain ⟨x, r, rfl, rfl, hx, hxc, hxo⟩ := ih h
    rw [← hangs_hidden hc] at hx
    refine ⟨92 :: c :: x, r, rfl, by simp; omega, hx, ?_, ?_⟩
    · simpa [glyphs_hidden hc] using hxc
    · simpa [glyphs_hidden hc] using hxo

lemma searchLine_missing {i : Nat} (h : searchLine opener closer i false s = .missing) :
    Glyph.plain closer ∉ glyphs s ∧ Glyph.plain opener ∉ glyphs s := by
  induction s using glyph_induction generalizing i with
  | nil => simp
  | plain b s hb ih =>
    rw [searchLine_plain hb] at h
    split at h
    · cases h
    · rename_i hbc
      split at h
      · cases h
      · rename_i hbo
        have hb' : ∀ c, (¬ (b == c) = true) → Glyph.plain c ≠ Glyph.plain b := by
          rintro c hne ⟨⟩
          simp at hne
        simpa [glyphs_plain hb, hb' _ hbc, hb' _ hbo] using ih h
  | hidden c s hc ih =>
    rw [searchLine_hidden hc] at h
    simpa [glyphs_hidden hc] using ih h

lemma angleLength?_eq (i : Nat) (hidden : Bool) (s : Bytes) :
    angleLength? i hidden s =
      match searchLine 62 62 i hidden s with
      | .found n => some n
      | _ => none := by
  induction s generalizing i hidden with
  | nil => rfl
  | cons b s ih =>
    rw [angleLength?, searchLine]
    split
    · exact ih _ _
    · split
      · exact ih _ _
      · by_cases hb : b = 62
        · subst hb
          rfl
        · have hb' : (b == (62 : UInt8)) = false := by simpa using hb
          simp only [show (b == byte '>') = false from hb', hb', Bool.false_eq_true, if_false]
          exact ih _ _

end Search

/-! ### Destinations -/

def depth? (opened : Nat) : List Glyph → Option Nat
  | [] => some opened
  | .plain b :: gs =>
    if b == 40 then depth? (opened + 1) gs
    else if b == 41 then if opened == 0 then none else depth? (opened - 1) gs
    else depth? opened gs
  | .hidden _ :: gs => depth? opened gs

structure Bare (o : Nat) (d r : Bytes) : Prop where
  unspaced : ∀ b ∈ d, Bytes.isSpace b = false
  closed : ∃ n, depth? o (glyphs d) = some n ∧
    ∀ b ∈ r.head?, Bytes.isSpace b = true ∨ b = 41 ∧ n = 0 ∧ ¬ Hangs d

section Bare

variable {b : UInt8} {x r s : Bytes}

lemma bareLength_plain (h : hidesNext b s = false) (i o : Nat) :
    bareLength i o false (b :: s) =
      if b == 40 then bareLength (i + 1) (o + 1) false s
      else if b == 41 then if o == 0 then i else bareLength (i + 1) (o - 1) false s
      else if Bytes.isSpace b then i else bareLength (i + 1) o false s := by
  rw [bareLength, h]
  rfl

lemma bareLength_hidden {c : UInt8} (h : Bytes.isPunct c = true) (i o : Nat) (s : Bytes) :
    bareLength i o false (92 :: c :: s) = bareLength (i + 2) o false s := by
  rw [bareLength, hidesNext_hidden h, bareLength]
  rfl

lemma isSpace_of_isPunct {c : UInt8} (h : Bytes.isPunct c = true) : Bytes.isSpace c = false := by
  by_contra hs
  simp only [Bytes.isSpace, Bool.not_eq_false, Bool.or_eq_true, beq_iff_eq] at hs
  obtain (((rfl | rfl) | rfl) | rfl) | rfl := hs <;> cases h

lemma not_isPunct_of_isSpace {c : UInt8} (h : Bytes.isSpace c = true) : Bytes.isPunct c = false := by
  by_contra hs
  rw [isSpace_of_isPunct (by simpa using hs)] at h
  cases h

lemma bareLength_stop {o : Nat} (h : ∀ b ∈ r.head?, Bytes.isSpace b = true ∨ b = 41 ∧ o = 0) (i : Nat) :
    bareLength i o false r = i := by
  cases r with
  | nil => rfl
  | cons b r =>
    rcases h b rfl with hb | ⟨rfl, rfl⟩
    · have hne : ∀ c, Bytes.isPunct c = true → b ≠ c := by
        rintro c hc rfl
        rw [isSpace_of_isPunct hc] at hb
        cases hb
      have hhide : hidesNext b r = false := by simp [hidesNext, byte, hne 92 rfl]
      rw [bareLength_plain hhide]
      simp [hne 40 rfl, hne 41 rfl, hb]
    · rw [bareLength_plain (by simp [hidesNext, byte])]
      rfl

lemma Bare.bareLength_eq {o : Nat} (h : Bare o x r) (i : Nat) :
    bareLength i o false (x ++ r) = i + x.length := by
  obtain ⟨hs, n, hn, hr⟩ := h
  induction x using glyph_induction generalizing i o with
  | nil =>
    cases hn
    exact bareLength_stop (fun b hb => (hr b hb).imp_right fun h => ⟨h.1, h.2.1⟩) i
  | plain b x hb ih =>
    rw [List.forall_mem_cons] at hs
    have hseam : hidesNext b (x ++ r) = false := hidesNext_append hb fun h0 h92 c hc => by
      subst h0 h92
      obtain hc | ⟨-, -, hx⟩ := hr c hc
      · exact not_isPunct_of_isSpace hc
      · exact absurd rfl hx
    have hr' : ∀ b ∈ r.head?, Bytes.isSpace b = true ∨ b = 41 ∧ n = 0 ∧ ¬ Hangs x := fun c hc =>
      (hr c hc).imp_right fun h => ⟨h.1, h.2.1, fun hx => h.2.2 (hangs_cons hb hx)⟩
    rw [glyphs_plain hb, depth?] at hn
    rw [List.cons_append, bareLength_plain hseam, List.length_cons, Nat.add_comm x.length, ← Nat.add_assoc]
    split
    · rename_i h40
      rw [if_pos h40] at hn
      exact ih _ hs.2 hn hr'
    · rename_i h40
      rw [if_neg h40] at hn
      split
      · rename_i h41
        rw [if_pos h41] at hn
        split at hn
        · cases hn
        · rename_i h0
          rw [if_neg h0]
          exact ih _ hs.2 hn hr'
      · rename_i h41
        rw [if_neg h41] at hn
        rw [hs.1]
        exact ih _ hs.2 hn hr'
  | hidden c x hc ih =>
    rw [List.forall_mem_cons, List.forall_mem_cons] at hs
    rw [glyphs_hidden hc, depth?] at hn
    rw [hangs_hidden hc] at hr
    rw [List.cons_append, List.cons_append, bareLength_hidden hc, ih _ hs.2.2 hn hr]
    simp
    omega

lemma Bare.cons {o o' : Nat} (h : Bare o' x r) (hb : hidesNext b (x ++ r) = false) (hs : Bytes.isSpace b = false)
    (hd : ∀ gs, depth? o (.plain b :: gs) = depth? o' gs) : Bare o (b :: x) r := by
  obtain ⟨hx, n, hn, hr⟩ := h
  have hb' : hidesNext b x = false := by
    cases x with
    | nil => simp [hidesNext]
    | cons c x => simpa [hidesNext] using hb
  refine ⟨List.forall_mem_cons.mpr ⟨hs, hx⟩, n, by rwa [glyphs_plain hb', hd], fun c hc => ?_⟩
  refine (hr c hc).imp_right ?_
  rintro ⟨h41, h0, hh⟩
  refine ⟨h41, h0, ?_⟩
  rw [hangs_plain hb']
  split
  · rename_i hnil
    subst hnil h41
    rintro rfl
    rw [Option.mem_def, List.head?_eq_some_iff] at hc
    obtain ⟨r', rfl⟩ := hc
    cases hb
  · exact hh

lemma exists_bare (i o : Nat) (s : Bytes) :
    ∃ x r, s = x ++ r ∧ Bare o x r ∧ bareLength i o false s = i + x.length := by
  suffices h : ∃ x r, s = x ++ r ∧ Bare o x r by
    obtain ⟨x, r, rfl, hb⟩ := h
    exact ⟨x, r, rfl, hb, hb.bareLength_eq i⟩
  induction s using glyph_induction generalizing o with
  | nil => exact ⟨[], [], rfl, by simp, o, rfl, by simp⟩
  | plain b s hb ih =>
    by_cases hstop : Bytes.isSpace b = true ∨ b = 41 ∧ o = 0
    · refine ⟨[], b :: s, rfl, by simp, o, rfl, ?_⟩
      simpa using hstop.imp_right fun h => ⟨h.1, h.2, not_hangs_nil⟩
    · rw [not_or, Bool.not_eq_true] at hstop
      obtain ⟨o', ho'⟩ : ∃ o', ∀ gs, depth? o (.plain b :: gs) = depth? o' gs := by
        by_cases h40 : b = 40
        · exact ⟨o + 1, fun gs => by simp [depth?, h40]⟩
        · by_cases h41 : b = 41
          · exact ⟨o - 1, fun gs => by simp [depth?, h41, show o ≠ 0 from fun h0 => hstop.2 ⟨h41, h0⟩]⟩
          · exact ⟨o, fun gs => by simp [depth?, h40, h41]⟩
      obtain ⟨x, r, rfl, hx⟩ := ih o'
      exact ⟨b :: x, r, rfl, hx.cons hb hstop.1 ho'⟩
  | hidden c s hc ih =>
    obtain ⟨x, r, rfl, hx, n, hn, hr⟩ := ih o
    refine ⟨92 :: c :: x, r, rfl, ?_, n, ?_, ?_⟩
    · rw [List.forall_mem_cons, List.forall_mem_cons]
      exact ⟨rfl, isSpace_of_isPunct hc, hx⟩
    · rwa [glyphs_hidden hc, depth?]
    · rwa [hangs_hidden hc]

end Bare

inductive WrittenDestination (r : Bytes) : Bytes → Bytes → Prop
  | angle {d : Bytes} (line : Bytes.newline ∉ d) (shut : ¬ Hangs d) (inner : Glyph.plain 62 ∉ glyphs d) :
      WrittenDestination r (60 :: (d ++ [62])) d
  | bare {d : Bytes} (nonempty : d ≠ []) (first : d.head? ≠ some 60) (ends : Bare 0 d r) :
      WrittenDestination r d d

section Destination

open TextCursor (Between)

variable {a r x d : Bytes} {c c' : TextCursor}

lemma readDestination?_eq (h : Between a r c) (hr : ∀ b ∈ r.head?, Bytes.isSpace b = false) :
    ∃ c₁, Between a r c₁ ∧ readDestination? c =
      match (Bytes.lines r).headD [] with
      | b :: rest =>
        if b == byte '<' then (angleLength? 0 false rest).map fun n => (rest.take n, c₁.advance (n + 2))
        else if bareLength 0 0 false (b :: rest) == 0 then none
        else some ((b :: rest).take (bareLength 0 0 false (b :: rest)),
          c₁.advance (bareLength 0 0 false (b :: rest)))
      | [] => none := by
  obtain ⟨c₁, n, hskip⟩ : ∃ c₁ n, c.skipSpaces = (c₁, n) := ⟨_, _, rfl⟩
  have h₁ := h.skipSpaces (w := []) (by simp) hr
  rw [List.append_nil, hskip] at h₁
  refine ⟨c₁, h₁, ?_⟩
  simp only [readDestination?, hskip, h₁.line_eq]
  cases (Bytes.lines r).headD [] <;> rfl

lemma WrittenDestination.head_isSpace (hd : WrittenDestination r x d) :
    ∀ b ∈ (x ++ r).head?, Bytes.isSpace b = false := by
  cases hd with
  | angle => simp [Bytes.isSpace]
  | bare hne _ ends =>
    obtain ⟨b, x, rfl⟩ := List.exists_cons_of_ne_nil hne
    simpa using ends.unspaced b List.mem_cons_self

lemma WrittenDestination.headD_ne (hd : WrittenDestination r x d) : (x ++ r).headD 0 ≠ 41 := by
  cases hd with
  | angle => simp
  | bare hne _ ends =>
    obtain ⟨b, x, rfl⟩ := List.exists_cons_of_ne_nil hne
    obtain ⟨-, n, hn, -⟩ := ends
    rintro (rfl : b = 41)
    rw [glyphs_plain (by simp [hidesNext, byte])] at hn
    cases hn

lemma Bare.congr {o : Nat} {r' : Bytes} (h : Bare o x r) (hr : r.head? = r'.head?) : Bare o x r' :=
  ⟨h.unspaced, hr ▸ h.closed⟩

lemma Bare.newline_notMem {o : Nat} (h : Bare o x r) : Bytes.newline ∉ x := fun hx => by
  cases h.unspaced _ hx

lemma readDestination?_written (hd : WrittenDestination r x d) (h : Between a (x ++ r) c) :
    ∃ c', readDestination? c = some (d, c') ∧ Between (a ++ x) r c' := by
  obtain ⟨c₁, h₁, hread⟩ := readDestination?_eq h hd.head_isSpace
  refine ⟨c₁.advance x.length, ?_, h₁.advance⟩
  rw [hread]
  cases hd with
  | angle line shut inner =>
    have hline : Bytes.newline ∉ (60 :: (d ++ [62]) : Bytes) := by
      simpa using ⟨by decide, line, by decide⟩
    have hfound : searchLine 62 62 0 false (d ++ 62 :: (Bytes.lines r).headD []) = .found d.length := by
      rw [searchLine_append (fun h => absurd h shut) inner inner, searchLine_plain (by simp [hidesNext, byte])]
      simp
    rw [headD_lines_append hline, List.cons_append, List.append_assoc, List.singleton_append]
    simp only [angleLength?_eq, hfound, byte]
    simp
  | bare hne first ends =>
    have hlen := (ends.congr (TextCursor.head?_headD_lines r).symm).bareLength_eq 0
    rw [headD_lines_append ends.newline_notMem]
    obtain ⟨b, x, rfl⟩ := List.exists_cons_of_ne_nil hne
    have h60 : (b == byte '<') = false := by simpa [byte] using first
    rw [List.cons_append] at hlen ⊢
    simp only [h60, hlen]
    simp

lemma written_of_readDestination? (h : Between a r c) (hr : ∀ b ∈ r.head?, Bytes.isSpace b = false)
    (hc : readDestination? c = some (d, c')) :
    ∃ x r', r = x ++ r' ∧ WrittenDestination r' x d ∧ Between (a ++ x) r' c' := by
  obtain ⟨c₁, h₁, hread⟩ := readDestination?_eq h hr
  obtain ⟨r', hr', hnl, hlast⟩ := exists_headD_lines_append r
  rw [hread] at hc
  cases hl : (Bytes.lines r).headD [] with
  | nil =>
    rw [hl] at hc
    cases hc
  | cons b rest =>
    rw [hl] at hc hr' hnl hlast
    simp only at hc
    split at hc
    · rename_i h60
      obtain rfl : b = 60 := by simpa [byte] using h60
      obtain ⟨n, hn, he⟩ := Option.map_eq_some_iff.mp hc
      obtain ⟨rfl, rfl⟩ := Prod.mk.inj he
      rw [angleLength?_eq] at hn
      split at hn
      · rename_i k hk
        cases hn
        obtain ⟨x, y, rfl, hlen, hx, hx62, -⟩ := searchLine_found rfl hk
        obtain rfl : n = x.length := by omega
        rw [List.take_left]
        have hsplit : r = (60 :: (x ++ [62])) ++ (y ++ r') := by
          rw [hr']
          simp
        refine ⟨_, _, hsplit, .angle ?_ hx hx62, ?_⟩
        · have hfront := hnl (60 :: x) 62 y (by simp)
          exact fun hm => hfront (List.mem_cons_of_mem _ hm)
        · rw [hsplit] at h₁
          have hadv := h₁.advance
          simpa using hadv
      · cases hn
    · rename_i h60
      split at hc
      · cases hc
      · rename_i h0
        obtain ⟨x, y, hxy, hx, hlen⟩ := exists_bare 0 0 (b :: rest)
        rw [Nat.zero_add] at hlen
        rw [hlen] at hc h0
        rw [hxy, List.take_left] at hc
        obtain ⟨rfl, rfl⟩ := Prod.mk.inj (Option.some.inj hc)
        have hsplit : r = x ++ (y ++ r') := by rw [hr', hxy, List.append_assoc]
        have hne : x ≠ [] := by simpa using h0
        have hfirst : x.head? ≠ some 60 := by
          obtain ⟨b', x, rfl⟩ := List.exists_cons_of_ne_nil hne
          obtain rfl : b = b' := (List.cons.inj hxy).1
          simpa [byte] using h60
        refine ⟨x, y ++ r', hsplit, .bare hne hfirst (hx.congr ?_), ?_⟩
        · cases y with
          | cons b y => rfl
          | nil =>
            rw [List.append_nil] at hxy
            rw [hlast (hxy ▸ hx.newline_notMem)]
            rfl
        · rw [hsplit] at h₁
          exact h₁.advance

end Destination

/-! ### Titles -/

section Closure

open TextCursor (Between)

variable {opener closer : UInt8} {a x r s : Bytes} {c c' : TextCursor}

lemma joinedValue_cons (lines : List TextLine) (s : Span) (ss : List Span) :
    joinedValue lines (s :: ss) = blockValue lines s.start s.stop ++ joinedValue lines ss := List.flatMap_cons

lemma findClosure_go_complete (h92 : closer ≠ 92)
    (h : Between a (x ++ closer :: r) c) (hx : ¬ Hangs x) (hc : Glyph.plain closer ∉ glyphs x)
    (ho : Glyph.plain opener ∉ glyphs x) {fuel : Nat} (hf : (Bytes.lines (x ++ closer :: r)).length ≤ fuel)
    (spans : List Span) :
    ∃ spans' c', findClosure.go opener closer fuel c spans = (some (spans ++ spans'), c') ∧
      joinedValue (blockOf (a ++ (x ++ closer :: r))) spans' = x ∧ Between (a ++ (x ++ [closer])) r c' := by
  induction fuel generalizing a x c spans with
  | zero =>
    have hne : Bytes.lines (x ++ closer :: r) = [] := List.length_eq_zero_iff.mp (by omega)
    have hflat := Bytes.flatten_lines (x ++ closer :: r)
    rw [hne] at hflat
    simp at hflat
  | succ fuel ih =>
    have hpeek : c.peek? = some ((Bytes.lines (x ++ closer :: r)).headD []) := by
      cases x <;> exact h.peek?_cons
    rw [findClosure.go, hpeek]
    by_cases hnl : Bytes.newline ∈ x
    · -- the closing byte stands on a later line
      obtain ⟨y, x', rfl, hy⟩ := List.eq_append_cons_of_mem hnl
      have hlines : Bytes.lines (y ++ Bytes.newline :: x' ++ closer :: r) =
          (y ++ [Bytes.newline]) :: Bytes.lines (x' ++ closer :: r) := by
        rw [List.append_assoc, List.cons_append, Bytes.lines_append_newline hy]
      have hend : ¬ Hangs (y ++ [Bytes.newline]) := by
        rw [hangs_concat fun _ => rfl]
        decide
      have hsplit : y ++ Bytes.newline :: x' = (y ++ [Bytes.newline]) ++ x' := by simp
      rw [hsplit, glyphs_append_of_not_hangs hend, List.mem_append, not_or] at hc ho
      have hmissing : searchLine opener closer 0 false (y ++ [Bytes.newline]) = .missing := by
        have hpass := @searchLine_append opener closer _ [] (fun h => absurd h hend) hc.1 ho.1 0
        rw [List.append_nil] at hpass
        rw [hpass, searchLine]
      have hnext := h.nextLine hlines
      rw [Bytes.flatten_lines] at hnext
      rw [hlines, List.length_cons] at hf
      have hx' : ¬ Hangs x' := fun hh => hx (hsplit ▸ hh.append_left hend)
      obtain ⟨spans', c', hgo, hjoin, hb⟩ :=
        ih hnext hx' hc.2 ho.2 (by omega) (spans ++ [c.span])
      refine ⟨c.span :: spans', c', ?_, ?_, ?_⟩
      · rw [hlines, List.headD_cons]
        simp only [hmissing, hgo, List.append_assoc, List.singleton_append]
      · rw [joinedValue_cons, h.span_eq, hlines, List.headD_cons, hsplit, List.append_assoc, blockValue_part,
          ← List.append_assoc a, hjoin]
      · rw [hsplit]
        simpa only [List.append_assoc] using hb
    · obtain ⟨l, hl⟩ := TextCursor.exists_headD_lines closer r
      have hfound : searchLine opener closer 0 false (x ++ closer :: l) = .found x.length := by
        rw [searchLine_append (fun h => absurd h hx) hc ho, searchLine_plain (by simp [hidesNext, byte, h92])]
        simp
      rw [headD_lines_append hnl, hl]
      simp only [hfound]
      refine ⟨[{ c.span with stop := c.span.start + x.length }], _, rfl, ?_, ?_⟩
      · rw [joinedValue_cons, h.span_eq, blockValue_part]
        simp [joinedValue]
      · have hadv := @TextCursor.Between.advance a r (x ++ [closer]) c (by simpa using h)
        simpa using hadv

lemma findClosure_go_sound (hp : Bytes.isPunct closer = true) (h : Between a s c) {fuel : Nat}
    {spans out : List Span} (hg : findClosure.go opener closer fuel c spans = (some out, c')) :
    ∃ x r spans', s = x ++ closer :: r ∧ out = spans ++ spans' ∧ joinedValue (blockOf (a ++ s)) spans' = x ∧
      ¬ Hangs x ∧ Glyph.plain closer ∉ glyphs x ∧ Glyph.plain opener ∉ glyphs x ∧
      Between (a ++ (x ++ [closer])) r c' := by
  induction fuel generalizing a s c spans with
  | zero => cases hg
  | succ fuel ih =>
    rw [findClosure.go] at hg
    cases s with
    | nil =>
      rw [h.peek?_nil] at hg
      cases hg
    | cons b s =>
      rw [h.peek?_cons] at hg
      cases hl : Bytes.lines (b :: s) with
      | nil =>
        obtain ⟨l, hl'⟩ := TextCursor.exists_headD_lines b s
        rw [hl] at hl'
        cases hl'
      | cons l ls =>
        obtain ⟨hs, -, hend⟩ := Bytes.lines_eq_cons hl
        simp only [hl, List.headD_cons] at hg
        split at hg
        · rename_i n hfound
          obtain ⟨x, y, rfl, hn, hx, hc, ho⟩ := searchLine_found hp hfound
          obtain rfl : n = x.length := by omega
          obtain ⟨hout, rfl⟩ := Prod.mk.inj hg
          have hsplit : b :: s = x ++ closer :: (y ++ ls.flatten) := by
            rw [hs]
            simp
          refine ⟨x, y ++ ls.flatten, [{ c.span with stop := c.span.start + x.length }], hsplit,
            (Option.some.inj hout).symm, ?_, hx, hc, ho, ?_⟩
          · rw [joinedValue_cons, h.span_eq, hsplit, blockValue_part]
            simp [joinedValue]
          · rw [hsplit] at h
            have hadv := @TextCursor.Between.advance a (y ++ ls.flatten) (x ++ [closer]) c (by simpa using h)
            simpa using hadv
        · cases hg
        · rename_i hmissing
          obtain ⟨hc, ho⟩ := searchLine_missing hmissing
          obtain ⟨x, r, spans', hr, rfl, hjoin, hx, hxc, hxo, hb⟩ := ih (h.nextLine hl) hg
          -- what is found behind this line shows that the line has an end
          have hline : ¬ Hangs l := by
            obtain ⟨m, -, rfl⟩ | ⟨-, -, rfl⟩ := hend
            · rw [hangs_concat fun _ => rfl]
              decide
            · simp at hr
          refine ⟨l ++ x, r, c.span :: spans', ?_, by simp, ?_, ?_, ?_, ?_, ?_⟩
          · rw [hs, hr, List.append_assoc]
          · rw [joinedValue_cons, h.span_eq, hl, List.headD_cons, hs, blockValue_part, ← List.append_assoc, hjoin]
          · exact not_hangs_append hline hx
          · rw [glyphs_append_of_not_hangs hline, List.mem_append, not_or]
            exact ⟨hc, hxc⟩
          · rw [glyphs_append_of_not_hangs hline, List.mem_append, not_or]
            exact ⟨ho, hxo⟩
          · simpa only [List.append_assoc] using hb

lemma findClosure_complete (h92 : closer ≠ 92) (h : Between a (x ++ closer :: r) c) (hx : ¬ Hangs x)
    (hc : Glyph.plain closer ∉ glyphs x) (ho : Glyph.plain opener ∉ glyphs x) :
    ∃ spans c', findClosure opener closer c = (some spans, c') ∧
      joinedValue (blockOf (a ++ (x ++ closer :: r))) spans = x ∧ Between (a ++ (x ++ [closer])) r c' := by
  have hfuel : (Bytes.lines (x ++ closer :: r)).length ≤ c.later.length + 1 := by
    rw [h.later, length_linesBehind, List.length_tail]
    omega
  exact findClosure_go_complete h92 h hx hc ho hfuel []

lemma findClosure_sound (hp : Bytes.isPunct closer = true) (h : Between a s c) {spans : List Span}
    (hg : findClosure opener closer c = (some spans, c')) :
    ∃ x r, s = x ++ closer :: r ∧ joinedValue (blockOf (a ++ s)) spans = x ∧ ¬ Hangs x ∧
      Glyph.plain closer ∉ glyphs x ∧ Glyph.plain opener ∉ glyphs x ∧ Between (a ++ (x ++ [closer])) r c' := by
  obtain ⟨x, r, spans', hs, rfl, hrest⟩ := findClosure_go_sound hp h hg
  exact ⟨x, r, hs, hrest⟩

structure WrittenTitle (q : UInt8) (x t : Bytes) : Prop where
  quotes : ∃ q', titleCloser? q = some q' ∧ x = q :: (t ++ [q']) ∧ Glyph.plain q' ∉ glyphs t
  opened : Glyph.plain q ∉ glyphs t
  shut : ¬ Hangs t

lemma titleCloser?_cases {q q' : UInt8} (h : titleCloser? q = some q') :
    q = 34 ∧ q' = 34 ∨ q = 39 ∧ q' = 39 ∨ q = 40 ∧ q' = 41 := by
  rw [titleCloser?] at h
  split at h
  · rename_i hq
    cases h
    rcases (by simpa [byte] using hq : q = 34 ∨ q = 39) with rfl | rfl <;> simp
  · split at h
    · rename_i hq
      cases h
      obtain rfl : q = 40 := by simpa [byte] using hq
      exact .inr (.inr ⟨rfl, rfl⟩)
    · cases h

lemma punct_of_titleCloser? {q q' : UInt8} (h : titleCloser? q = some q') :
    Bytes.isPunct q = true ∧ Bytes.isPunct q' = true ∧ q' ≠ 92 := by
  rcases titleCloser?_cases h with ⟨rfl, rfl⟩ | ⟨rfl, rfl⟩ | ⟨rfl, rfl⟩ <;> decide

lemma WrittenTitle.head_isPunct {q : UInt8} {t : Bytes} (h : WrittenTitle q x t) :
    ∀ b ∈ (x ++ r).head?, Bytes.isPunct b = true := by
  obtain ⟨q', hq, rfl, -⟩ := h.quotes
  simpa using (punct_of_titleCloser? hq).1

lemma WrittenTitle.headD_ne {q : UInt8} {t : Bytes} (h : WrittenTitle q x t) : (x ++ r).headD 0 ≠ 41 := by
  obtain ⟨q', hq, rfl, -⟩ := h.quotes
  rintro (rfl : q = 41)
  cases hq

lemma readTitle?_eq {b : UInt8} (lines : List TextLine) (h : Between a (b :: r) c) (hb : Bytes.isSpace b = false) :
    ∃ c₁, Between (a ++ [b]) r c₁ ∧ readTitle? lines c =
      match titleCloser? b with
      | none => none
      | some closer =>
        match findClosure b closer c₁ with
        | (some spans, c) => some (joinedValue lines spans, c)
        | (none, _) => none := by
  obtain ⟨c₁, n, hskip⟩ : ∃ c₁ n, c.skipSpaces = (c₁, n) := ⟨_, _, rfl⟩
  have h₁ := h.skipSpaces (w := []) (by simp) (by simpa using hb)
  rw [List.append_nil, hskip] at h₁
  refine ⟨c₁.step, h₁.step, ?_⟩
  obtain rfl : c₁.head = b := h₁.head_eq
  rcases hq : titleCloser? c₁.head with _ | closer
  · simp [readTitle?, hskip, hq]
  · rcases hf : findClosure c₁.head closer c₁.step with ⟨_ | spans, c₂⟩ <;> simp [readTitle?, hskip, hq, hf]

lemma readTitle?_written {q : UInt8} {t : Bytes} (ht : WrittenTitle q x t) (h : Between a (x ++ r) c) :
    ∃ c', readTitle? (blockOf (a ++ (x ++ r))) c = some (t, c') ∧ Between (a ++ x) r c' := by
  obtain ⟨⟨q', hq, rfl, hc⟩, ho, hx⟩ := ht
  obtain ⟨hp, -, h92⟩ := punct_of_titleCloser? hq
  have htext : q :: (t ++ [q']) ++ r = q :: (t ++ q' :: r) := by simp
  rw [htext] at h ⊢
  obtain ⟨c₁, h₁, hread⟩ := readTitle?_eq (blockOf (a ++ q :: (t ++ q' :: r))) h (isSpace_of_isPunct hp)
  obtain ⟨spans, c', hclose, hjoin, hb⟩ := findClosure_complete h92 h₁ hx hc ho
  refine ⟨c', ?_, by simpa using hb⟩
  rw [hread, hq]
  simp only [hclose, Option.some.injEq, Prod.mk.injEq, and_true]
  simpa using hjoin

lemma written_of_readTitle? {t : Bytes} (h : Between a r c) (hr : ∀ b ∈ r.head?, Bytes.isSpace b = false)
    (hc : readTitle? (blockOf (a ++ r)) c = some (t, c')) :
    ∃ q x r', r = x ++ r' ∧ WrittenTitle q x t ∧ Between (a ++ x) r' c' := by
  cases r with
  | nil =>
    obtain ⟨c₁, n, hskip⟩ : ∃ c₁ n, c.skipSpaces = (c₁, n) := ⟨_, _, rfl⟩
    have h₁ := h.skipSpaces (w := []) (by simp) hr
    rw [List.append_nil, hskip] at h₁
    simp only [readTitle?, hskip, h₁.head_eq, List.headD_nil] at hc
    cases hc
  | cons q r =>
    obtain ⟨c₁, h₁, hread⟩ := readTitle?_eq (blockOf (a ++ q :: r)) h (hr q rfl)
    rw [hread] at hc
    cases hq : titleCloser? q with
    | none =>
      rw [hq] at hc
      cases hc
    | some q' =>
      simp only [hq] at hc
      split at hc
      · rename_i spans c₂ hclose
        obtain ⟨hjoined, rfl⟩ := Prod.mk.inj (Option.some.inj hc)
        obtain ⟨x, r', rfl, hjoin, hx, hxc, hxo, hb⟩ := findClosure_sound (punct_of_titleCloser? hq).2.1 h₁ hclose
        obtain rfl : x = t := by
          rw [← hjoin, ← hjoined]
          simp
        exact ⟨q, q :: (x ++ [q']), r', by simp, ⟨⟨q', hq, rfl, hxc⟩, hxo, hx⟩, by simpa using hb⟩
      · cases hc

end Closure

/-! ### Targets -/

/-- What stands between the parentheses of a target, in front of the closing one and `r`. -/
inductive WrittenTarget (r : Bytes) : Bytes → Bytes → Option Bytes → Prop
  | empty {w : Bytes} (hw : ∀ b ∈ w, Bytes.isSpace b = true) : WrittenTarget r w [] none
  | untitled {w x w' d : Bytes} (hw : ∀ b ∈ w, Bytes.isSpace b = true) (hw' : ∀ b ∈ w', Bytes.isSpace b = true)
      (hd : WrittenDestination (w' ++ 41 :: r) x d) : WrittenTarget r (w ++ (x ++ w')) d none
  | titled {w x w' y w'' d t : Bytes} {q : UInt8} (hw : ∀ b ∈ w, Bytes.isSpace b = true)
      (hw' : ∀ b ∈ w', Bytes.isSpace b = true) (hw'' : ∀ b ∈ w'', Bytes.isSpace b = true)
      (hd : WrittenDestination (w' ++ (y ++ (w'' ++ 41 :: r))) x d) (ht : WrittenTitle q y t) :
      WrittenTarget r (w ++ (x ++ (w' ++ (y ++ w'')))) d (some t)

namespace Inline

open TextCursor (Between)

variable {a s r u d : Bytes} {t : Option Bytes} {c c' : TextCursor}

lemma eq_cons_of_headD {s : Bytes} (h : s.headD 0 = 41) : ∃ r, s = 41 :: r := by
  cases s with
  | nil => cases h
  | cons b s => exact ⟨s, by rw [← h]; rfl⟩

lemma isSpace_paren : ∀ b ∈ (41 :: r).head?, Bytes.isSpace b = false := by simp [Bytes.isSpace]

lemma inlineTarget?_eq (lines : List TextLine) (c : TextCursor) :
    inlineTarget? lines c =
      if c.step.skipSpaces.1.head == 41 then some (⟨[], none⟩, c.step.skipSpaces.1.step)
      else
        match readDestination? c.step.skipSpaces.1 with
        | none => none
        | some (d, c₂) =>
          if c₂.skipSpaces.1.head == 41 then some (⟨d, none⟩, c₂.skipSpaces.1.step)
          else
            match readTitle? lines c₂.skipSpaces.1 with
            | none => none
            | some (t, c₄) =>
              if c₄.skipSpaces.1.head == 41 then some (⟨d, some t⟩, c₄.skipSpaces.1.step) else none := rfl

lemma inlineTarget?_written (hu : WrittenTarget r u d t) (h : Between a (40 :: (u ++ 41 :: r)) c) :
    ∃ c', inlineTarget? (blockOf (a ++ 40 :: (u ++ 41 :: r))) c = some (⟨d, t⟩, c') ∧
      Between (a ++ 40 :: (u ++ [41])) r c' := by
  have h₀ := h.step
  rw [inlineTarget?_eq]
  cases hu with
  | empty hw =>
    have h₁ := h₀.skipSpaces hw isSpace_paren
    refine ⟨_, if_pos (by rw [h₁.head_eq]; rfl), by simpa using h₁.step⟩
  | @untitled w x w' d hw hw' hd =>
    have hcut : w ++ (x ++ w') ++ 41 :: r = w ++ (x ++ (w' ++ 41 :: r)) := by simp
    rw [hcut] at h₀ ⊢
    have h₁ := h₀.skipSpaces hw hd.head_isSpace
    obtain ⟨c₂, hread, h₂⟩ := readDestination?_written hd h₁
    have h₃ := h₂.skipSpaces hw' isSpace_paren
    have hne : ¬ (c.step.skipSpaces.1.head == 41) = true := by
      rw [h₁.head_eq, beq_iff_eq]
      exact hd.headD_ne
    refine ⟨c₂.skipSpaces.1.step, ?_, by simpa using h₃.step⟩
    rw [if_neg hne, hread]
    exact if_pos (by rw [h₃.head_eq]; rfl)
  | @titled w x w' y w'' d t q hw hw' hw'' hd ht =>
    have hcut : w ++ (x ++ (w' ++ (y ++ w''))) ++ 41 :: r = w ++ (x ++ (w' ++ (y ++ (w'' ++ 41 :: r)))) := by simp
    rw [hcut] at h₀ ⊢
    have h₁ := h₀.skipSpaces hw hd.head_isSpace
    obtain ⟨c₂, hread, h₂⟩ := readDestination?_written hd h₁
    have h₃ := h₂.skipSpaces hw' (fun b hb => isSpace_of_isPunct (ht.head_isPunct b hb))
    obtain ⟨c₄, htitle, h₄⟩ := readTitle?_written ht h₃
    have h₅ := h₄.skipSpaces hw'' isSpace_paren
    have hne : ¬ (c.step.skipSpaces.1.head == 41) = true := by
      rw [h₁.head_eq, beq_iff_eq]
      exact hd.headD_ne
    have hne' : ¬ (c₂.skipSpaces.1.head == 41) = true := by
      rw [h₃.head_eq, beq_iff_eq]
      exact ht.headD_ne
    refine ⟨c₄.skipSpaces.1.step, ?_, by simpa using h₅.step⟩
    rw [if_neg hne, hread]
    simp only [if_neg hne']
    simp only [List.append_assoc, List.cons_append, List.nil_append] at htitle
    rw [htitle]
    exact if_pos (by rw [h₅.head_eq]; rfl)

lemma written_of_inlineTarget? (h : Between a (40 :: s) c)
    (hc : inlineTarget? (blockOf (a ++ 40 :: s)) c = some (⟨d, t⟩, c')) :
    ∃ u r, s = u ++ 41 :: r ∧ WrittenTarget r u d t ∧ Between (a ++ 40 :: (u ++ [41])) r c' := by
  obtain ⟨w, s₁, rfl, hw, hs₁⟩ := TextCursor.exists_spaces s
  have h₁ := h.step.skipSpaces hw hs₁
  rw [inlineTarget?_eq] at hc
  split at hc
  · rename_i hparen
    rw [h₁.head_eq] at hparen
    obtain ⟨r, rfl⟩ := eq_cons_of_headD (by simpa using hparen)
    cases hc
    exact ⟨w, r, rfl, .empty hw, by simpa using h₁.step⟩
  · split at hc
    · cases hc
    · rename_i d₁ c₂ hread
      obtain ⟨x, s₂, rfl, hd, h₂⟩ := written_of_readDestination? h₁ hs₁ hread
      obtain ⟨w', s₃, rfl, hw', hs₃⟩ := TextCursor.exists_spaces s₂
      have h₃ := h₂.skipSpaces hw' hs₃
      split at hc
      · rename_i hparen
        rw [h₃.head_eq] at hparen
        obtain ⟨r, rfl⟩ := eq_cons_of_headD (by simpa using hparen)
        cases hc
        exact ⟨w ++ (x ++ w'), r, by simp, .untitled hw hw' hd, by simpa using h₃.step⟩
      · split at hc
        · cases hc
        · rename_i t₁ c₄ htitle
          have htitle' : readTitle? (blockOf (a ++ [40] ++ w ++ x ++ w' ++ s₃)) c₂.skipSpaces.1 = some (t₁, c₄) := by
            simpa using htitle
          obtain ⟨q, y, s₄, rfl, ht, h₄⟩ := written_of_readTitle? h₃ hs₃ htitle'
          obtain ⟨w'', s₅, rfl, hw'', hs₅⟩ := TextCursor.exists_spaces s₄
          have h₅ := h₄.skipSpaces hw'' hs₅
          split at hc
          · rename_i hparen
            rw [h₅.head_eq] at hparen
            obtain ⟨r, rfl⟩ := eq_cons_of_headD (by simpa using hparen)
            cases hc
            exact ⟨_, r, by simp, .titled hw hw' hw'' hd ht, by simpa using h₅.step⟩
          · cases hc

end Inline

end MarkdownTidy
