import MarkdownTidy.Proofs.Document.LinkTarget
import MarkdownTidy.Proofs.Html.References
import MarkdownTidy.Writer.Link

/-! Links that are written and read again. -/

namespace MarkdownTidy.Writer

def isAngle (b : UInt8) : Bool := b == 60 || b == 62

lemma isAngle_cases {b : UInt8} (h : isAngle b = true) : b = 60 ∨ b = 62 := by simpa [isAngle] using h

lemma isPunct_of_isAngle (b : UInt8) (h : isAngle b = true) : Bytes.isPunct b = true := by
  rcases isAngle_cases h with rfl | rfl <;> rfl

def isQuote (b : UInt8) : Bool := b == 34

lemma isPunct_of_isQuote (b : UInt8) (h : isQuote b = true) : Bytes.isPunct b = true := by
  obtain rfl : b = 34 := by simpa [isQuote] using h
  rfl

lemma destination_angles {d : Bytes} (h : needsAngles d = true) :
    destination d = 60 :: (escapeIn isAngle d ++ [62]) := by
  rw [destination, if_pos h]
  rfl

lemma destination_bare {d : Bytes} (h : ¬ needsAngles d = true) : destination d = d := by
  rw [destination, if_neg h]

lemma of_not_needsAngles {d : Bytes} (h : ¬ needsAngles d = true) : d ≠ [] ∧ 60 ∉ d := by
  simp only [needsAngles, Bool.or_eq_true, not_or, List.isEmpty_iff, List.any_eq_true, not_exists, not_and] at h
  exact ⟨h.1.1, fun h60 => h.2 60 h60 (by decide)⟩

def quoted (title : Bytes) : Bytes := 34 :: (escapeIn isQuote title ++ [34])

lemma replaceByte_eq (title : Bytes) : Bytes.replaceByte (byte '"') (utf8 "\\\"") title = escapeIn isQuote title := by
  refine List.flatMap_congr fun b _ => ?_
  by_cases hb : b = 34
  · subst hb
    rfl
  · rw [if_neg (by simpa [byte] using hb), if_neg (by simpa [isQuote] using hb)]

def linkText (d title : Bytes) : Bytes := destination d ++ if title = [] then [] else 32 :: quoted title

lemma linkTail_eq (d title : Bytes) : linkTail d title = 40 :: (linkText d title ++ [41]) := by
  have hp : utf8 "(" = [40] ∧ utf8 ")" = [41] ∧ utf8 " \"" = [32, 34] ∧ utf8 "\"" = [34] := by decide
  simp only [linkTail, replaceByte_eq, hp]
  by_cases ht : title = []
  · simp [ht, linkText]
  · simp [ht, linkText, quoted]

/-- A link that is read back from what is written for it. -/
structure Recoverable (d title : Bytes) : Prop where
  angles : needsAngles d = true →
    Bytes.newline ∉ d ∧ (∀ c, isAngle c = true → Glyph.hidden c ∉ glyphs d) ∧ ¬ Hangs d
  bare : ¬ needsAngles d = true → (∀ b ∈ d, Bytes.isSpace b = false) ∧
    ∃ n, depth? 0 (glyphs d) = some n ∧ (title = [] → n = 0 ∧ ¬ Hangs d)
  title : Glyph.hidden 34 ∉ glyphs title ∧ ¬ Hangs title

lemma newline_mem_escapeIn {p : UInt8 → Bool} {d : Bytes} : Bytes.newline ∈ escapeIn p d ↔ Bytes.newline ∈ d := by
  rw [escapeIn, List.mem_flatMap]
  constructor
  · rintro ⟨c, hc, hm⟩
    split at hm
    · have h92 : Bytes.newline ≠ 92 := by decide
      simp only [List.mem_cons, h92, List.not_mem_nil, or_false, false_or] at hm
      exact hm ▸ hc
    · exact List.mem_singleton.mp hm ▸ hc
  · intro h
    exact ⟨_, h, by split <;> simp⟩

lemma plain_mem_angles {c : UInt8} (hc : isAngle c = true) (d : Bytes) :
    Glyph.plain c ∈ glyphs (escapeIn isAngle d) ↔ Glyph.hidden c ∈ glyphs d :=
  plain_mem_glyphs_escapeIn isPunct_of_isAngle rfl hc d

lemma hangs_angles (d : Bytes) : Hangs (escapeIn isAngle d) ↔ Hangs d := hangs_escapeIn isPunct_of_isAngle rfl d

/-! ### What is written can be read -/

section

variable {d title r t : Bytes}

lemma Recoverable.writtenDestination (h : Recoverable d title)
    (hr : ∀ b ∈ r.head?, Bytes.isSpace b = true ∨ b = 41 ∧ title = []) :
    ∃ d', WrittenDestination r (destination d) d' ∧ Html.resolved d' = Html.resolved d := by
  by_cases hd : needsAngles d = true
  · obtain ⟨hline, hangle, hshut⟩ := h.angles hd
    rw [destination_angles hd]
    refine ⟨escapeIn isAngle d, .angle ?_ ?_ ?_, ?_⟩
    · rwa [newline_mem_escapeIn]
    · rwa [hangs_angles]
    · rw [plain_mem_angles rfl]
      exact hangle 62 rfl
    · rw [Html.resolved, unescapePunctuation_escapeIn isPunct_of_isAngle rfl hangle]
      rfl
  · obtain ⟨hspace, n, hn, hend⟩ := h.bare hd
    obtain ⟨hne, h60⟩ := of_not_needsAngles hd
    rw [destination_bare hd]
    refine ⟨d, .bare hne (fun hh => h60 (List.mem_of_head? hh)) ⟨hspace, n, hn, ?_⟩, rfl⟩
    intro b hb
    exact (hr b hb).imp_right (And.imp_right hend)

lemma Recoverable.writtenTitle (h : Recoverable d title) : WrittenTitle 34 (quoted title) (escapeIn isQuote title) := by
  have hplain : Glyph.plain 34 ∉ glyphs (escapeIn isQuote title) := by
    rw [plain_mem_glyphs_escapeIn isPunct_of_isQuote rfl rfl]
    exact h.title.1
  refine ⟨⟨34, rfl, rfl, hplain⟩, hplain, ?_⟩
  rw [hangs_escapeIn isPunct_of_isQuote rfl]
  exact h.title.2

lemma Recoverable.text_title (h : Recoverable d title) :
    Html.text (escapeIn isQuote title) = Html.text title := by
  have hq : ∀ b, isQuote b = true → b = 34 := fun b hb => by simpa [isQuote] using hb
  refine Html.text_append_escapeIn (x := []) (fun b hb => ?_) rfl ?_ (fun h => absurd h not_hangs_nil)
  · rw [hq b hb]
    decide
  · intro c hc
    rw [hq c hc]
    exact h.title.1

lemma Recoverable.writtenTarget (h : Recoverable d title) (t : Bytes) :
    ∃ d' t', WrittenTarget t (linkText d title) d' t' ∧ Html.resolved d' = Html.resolved d ∧
      Html.text (t'.getD []) = Html.text title := by
  by_cases ht : title = []
  · subst ht
    obtain ⟨d', hd', hres⟩ := h.writtenDestination (r := 41 :: t) (by simp)
    refine ⟨d', none, ?_, hres, rfl⟩
    have hu := @WrittenTarget.untitled t [] _ [] _ (by simp) (by simp) hd'
    simpa [linkText] using hu
  · obtain ⟨d', hd', hres⟩ :=
      h.writtenDestination (r := [32] ++ (quoted title ++ ([] ++ 41 :: t))) (by simp [Bytes.isSpace])
    refine ⟨d', some (escapeIn isQuote title), ?_, hres, h.text_title⟩
    have hu := @WrittenTarget.titled t [] _ [32] _ [] _ _ _ (by simp) (by simp [Bytes.isSpace]) (by simp)
      hd' h.writtenTitle
    simpa [linkText, ht] using hu

/-! ### What is read was recoverable -/

lemma eq_nil_of_front {b : UInt8} {s w y : Bytes} (hw : ∀ b ∈ w, Bytes.isSpace b = true)
    (hb : Bytes.isSpace b = false) (h : b :: s = w ++ y) : w = [] := by
  cases w with
  | nil => rfl
  | cons c w =>
    obtain rfl : b = c := (List.cons.inj h).1
    rw [hw b List.mem_cons_self] at hb
    cases hb

lemma eq_nil_of_back {b : UInt8} {s w y : Bytes} (hw : ∀ b ∈ w, Bytes.isSpace b = true)
    (hb : Bytes.isSpace b = false) (h : s ++ [b] = y ++ w) : w = [] := by
  have hr := congrArg List.reverse h
  rw [List.reverse_append, List.reverse_append] at hr
  exact List.reverse_eq_nil_iff.mp (eq_nil_of_front (by simpa using hw) hb hr)

lemma recoverable_destination {w x w' d' : Bytes} (hw : ∀ b ∈ w, Bytes.isSpace b = true)
    (hw' : ∀ b ∈ w', Bytes.isSpace b = true) (hD : destination d = w ++ (x ++ w'))
    (hx : WrittenDestination r x d') (hres : Html.resolved d' = Html.resolved d) :
    (needsAngles d = true →
      Bytes.newline ∉ d ∧ (∀ c, isAngle c = true → Glyph.hidden c ∉ glyphs d) ∧ ¬ Hangs d) ∧
    (¬ needsAngles d = true → w' = [] ∧ Bare 0 d r) := by
  refine ⟨fun hd => ?_, fun hd => ?_⟩
  · rw [destination_angles hd] at hD
    obtain rfl := eq_nil_of_front hw rfl hD
    obtain rfl := eq_nil_of_back hw' rfl (s := 60 :: escapeIn isAngle d) (y := x) (by simpa using hD)
    rw [List.nil_append, List.append_nil] at hD
    cases hx with
    | bare _ first => exact absurd (by rw [← hD]; rfl) first
    | angle line shut =>
      obtain rfl : escapeIn isAngle d = d' := by simpa using hD
      refine ⟨by rwa [newline_mem_escapeIn] at line, ?_, by rwa [hangs_angles] at shut⟩
      have hcount := Html.length_resolveReferences_escaped (p := isAngle) ?_ (glyphs d) []
      · intro c hc hm
        rw [List.nil_append, List.nil_append, ← glyphs_escapeIn isPunct_of_isAngle rfl, map_byte_glyphs,
          map_byte_glyphs] at hcount
        have hzero : (glyphs d).countP (Glyph.isHidden isAngle) = 0 := by
          have hlen := congrArg List.length hres
          rw [Html.resolved, Html.resolved] at hlen
          omega
        exact List.countP_eq_zero.mp hzero _ hm hc
      · intro b hb
        rcases isAngle_cases hb with rfl | rfl <;> decide
  · rw [destination_bare hd] at hD
    obtain ⟨hne, h60⟩ := of_not_needsAngles hd
    cases hx with
    | angle =>
      rw [hD] at h60
      simp at h60
    | bare _ _ ends =>
      have hlen := Html.length_resolved_spaced hw hw' x [] (fun _ => rfl)
      rw [List.append_nil, ← hD, ← hres] at hlen
      have h0 : w.length = 0 ∧ w'.length = 0 := by omega
      obtain rfl := List.length_eq_zero_iff.mp h0.1
      obtain rfl := List.length_eq_zero_iff.mp h0.2
      rw [List.nil_append, List.append_nil] at hD
      rw [hD]
      exact ⟨rfl, ends⟩

lemma sixty_mem_destination {d : Bytes} (h : needsAngles d = true) : 60 ∈ destination d := by
  simp [destination_angles h]

lemma resolved_quote (y : Bytes) : ∃ z, Html.resolved (34 :: y) = 34 :: z := by
  have hplain : hidesNext 34 y = false := by simp [hidesNext, byte]
  refine ⟨Html.resolveReferences (Html.unescapePunctuation y), ?_⟩
  rw [Html.resolved, ← map_byte_glyphs, glyphs_plain hplain, List.map_cons, map_byte_glyphs]
  exact Html.resolveReferences_append (s := 34) rfl (by decide) [] _

lemma not_all_spaces {d' : Bytes} (hw : ∀ b ∈ destination d, Bytes.isSpace b = true)
    (hres : Html.resolved d' = Html.resolved d) : ∃ b z, Html.resolved d' = b :: z ∧ Bytes.isSpace b = true := by
  have hd : ¬ needsAngles d = true := fun h => by cases hw 60 (sixty_mem_destination h)
  rw [destination_bare hd] at hw
  obtain ⟨b, z, rfl⟩ := List.exists_cons_of_ne_nil (of_not_needsAngles hd).1
  have hsame := Html.resolved_spaces hw []
  rw [List.append_nil] at hsame
  exact ⟨b, z ++ Html.resolved [], by rw [hres, hsame]; rfl, hw b List.mem_cons_self⟩

lemma recoverable_untitled {d' : Bytes} {t' : Option Bytes} (h : WrittenTarget t (destination d) d' t')
    (hres : Html.resolved d' = Html.resolved d) : Recoverable d [] := by
  have htitle : Glyph.hidden 34 ∉ glyphs [] ∧ ¬ Hangs [] := ⟨by simp, not_hangs_nil⟩
  generalize hD : destination d = u at h
  cases h with
  | empty hw =>
    obtain ⟨b, z, hb, -⟩ := not_all_spaces (hD ▸ hw) hres
    cases hb
  | untitled hw hw' hd =>
    obtain ⟨hangles, hbare⟩ := recoverable_destination hw hw' hD hd hres
    refine ⟨hangles, fun hn => ?_, htitle⟩
    obtain ⟨rfl, hs, n, hn, hend⟩ := hbare hn
    refine ⟨hs, n, hn, fun _ => ?_⟩
    obtain h41 | ⟨-, h0⟩ := hend 41 rfl
    · cases h41
    · exact h0
  | @titled w x w' y w'' _ τ q hw hw' hw'' hd ht =>
    exfalso
    obtain ⟨q', hq, rfl, -⟩ := ht.quotes
    have hcases := titleCloser?_cases hq
    by_cases hn : needsAngles d = true
    · rw [destination_angles hn] at hD
      have hback : 60 :: escapeIn isAngle d ++ [62] = (w ++ (x ++ (w' ++ q :: (τ ++ [q'])))) ++ w'' := by
        simpa using hD
      obtain rfl := eq_nil_of_back hw'' rfl hback
      have hlast : 60 :: escapeIn isAngle d ++ [62] = (w ++ (x ++ (w' ++ q :: τ))) ++ [q'] := by simpa using hback
      obtain ⟨-, ⟨⟩⟩ := List.append_inj' hlast rfl
      simp at hcases
    · rw [destination_bare hn] at hD
      cases hd with
      | angle => exact (of_not_needsAngles hn).2 (by simp [hD])
      | bare _ _ ends =>
        have hgap : w' ≠ [] := by
          rintro rfl
          obtain ⟨-, n, -, hend⟩ := ends
          have hq' := hend q rfl
          rcases hcases with ⟨rfl, -⟩ | ⟨rfl, -⟩ | ⟨rfl, -⟩ <;> simp [Bytes.isSpace] at hq'
        have hlen := Html.length_resolved_spaced hw hw' d' (q :: (τ ++ [q']) ++ w'') (fun h => absurd h hgap)
        rw [← hD, ← hres] at hlen
        have hpos := List.length_pos_of_ne_nil hgap
        omega

lemma getLast?_of_escapeIn {u τ : Bytes} (h : escapeIn isQuote title = u ++ 34 :: τ) : u.getLast? = some 92 := by
  induction title generalizing u with
  | nil => simp [escapeIn] at h
  | cons b title ih =>
    have hlast : ∀ {v : Bytes} (c : UInt8), v.getLast? = some 92 → (c :: v).getLast? = some 92 := by
      intro v c hv
      rw [List.getLast?_cons, hv]
      rfl
    by_cases hb : b = 34
    · subst hb
      rw [escapeIn_cons, if_pos (by rfl), List.cons_append, List.cons_append] at h
      rcases u with _ | ⟨c, _ | ⟨c', u⟩⟩
      · cases h
      · obtain rfl : 92 = c := (List.cons.inj h).1
        rfl
      · exact hlast c (hlast c' (ih (List.cons.inj (List.cons.inj h).2).2))
    · rw [escapeIn_cons, if_neg (by simpa [isQuote] using hb), List.cons_append, List.nil_append] at h
      cases u with
      | nil => exact absurd (List.cons.inj h).1 hb
      | cons c u => exact hlast c (ih (List.cons.inj h).2)

lemma title_between_quotes {F τ : Bytes} (h : destination d ++ 32 :: quoted title = F ++ 34 :: (τ ++ [34]))
    (hτ : Glyph.plain 34 ∉ glyphs τ) (hF : F.getLast? ≠ some 92) :
    F = destination d ++ [32] ∧ τ = escapeIn isQuote title := by
  have hend : ((destination d ++ [32]) ++ 34 :: escapeIn isQuote title) ++ [34] = (F ++ 34 :: τ) ++ [34] := by
    simpa [quoted] using h
  obtain ⟨u, rfl, hu⟩ | ⟨u, hu, hτu⟩ := List.append_eq_append_iff.mp (List.append_cancel_right hend)
  · -- the title that was read begins inside the one that was written
    cases u with
    | nil =>
      rw [List.nil_append] at hu
      exact ⟨List.append_nil _, (List.cons.inj hu).2.symm⟩
    | cons c u =>
      have hback := getLast?_of_escapeIn (List.cons.inj hu).2
      refine absurd ?_ hF
      rw [List.getLast?_append, List.getLast?_cons, hback]
      rfl
  · -- the title that was read contains the opening quote of the one that was written
    cases u with
    | nil =>
      rw [List.append_nil] at hu
      rw [List.nil_append] at hτu
      exact ⟨hu.symm, (List.cons.inj hτu).2⟩
    | cons c u =>
      exfalso
      obtain ⟨rfl, rfl⟩ := List.cons.inj hτu
      rcases List.eq_nil_or_concat' u with rfl | ⟨v, b, rfl⟩
      · obtain ⟨-, ⟨⟩⟩ := List.append_inj' hu rfl
      · have hblank : destination d ++ [32] = (F ++ 34 :: v) ++ [b] := by simpa using hu
        obtain ⟨-, ⟨⟩⟩ := List.append_inj' hblank rfl
        have hshut : ¬ Hangs (v ++ [32]) := by
          rw [hangs_concat fun _ => rfl]
          decide
        have hplain : Glyph.plain 34 ∈ glyphs ((v ++ [32]) ++ 34 :: escapeIn isQuote title) := by
          rw [glyphs_append_of_not_hangs hshut, glyphs_plain (by simp [hidesNext, byte])]
          simp
        exact hτ hplain

lemma gap_of_writtenDestination {w' x d' z : Bytes} {q : UInt8} (hq : Bytes.isSpace q = false) (h41 : q ≠ 41)
    (hd : WrittenDestination (w' ++ q :: z) x d') :
    (∃ v b, w' = v ++ [b]) ∨ w' = [] ∧ ∃ v, x = v ++ [62] := by
  rcases List.eq_nil_or_concat' w' with rfl | h
  · refine .inr ⟨rfl, ?_⟩
    cases hd with
    | angle => exact ⟨60 :: d', rfl⟩
    | bare _ _ ends =>
      obtain ⟨-, n, -, hend⟩ := ends
      have hstop := hend q rfl
      simp [hq, h41] at hstop
  · exact .inl h

lemma destination_quoted_ne {w x z d' : Bytes} (hw : ∀ b ∈ w, Bytes.isSpace b = true) (hd : WrittenDestination z x d')
    (hres : Html.resolved d' = Html.resolved d) : destination d ++ 32 :: quoted title ≠ w ++ x := by
  intro hu
  cases hd with
  | @angle d' =>
    have hlast : (destination d ++ 32 :: 34 :: escapeIn isQuote title) ++ [34] = (w ++ 60 :: d') ++ [62] := by
      simpa [quoted] using hu
    obtain ⟨-, ⟨⟩⟩ := List.append_inj' hlast rfl
  | bare _ _ ends =>
    obtain ⟨v, rfl, hv⟩ | ⟨v, -, rfl⟩ := List.append_eq_append_iff.mp hu
    · -- the destination was passed over as white space
      rw [List.forall_mem_append] at hw
      obtain ⟨b, z, hb, hspace⟩ := not_all_spaces hw.1 hres
      cases v with
      | nil => cases ends.unspaced 32 (by rw [List.nil_append] at hv; rw [← hv]; simp)
      | cons c v =>
        obtain ⟨-, hquote⟩ := List.cons.inj hv
        rw [List.forall_mem_cons] at hw
        obtain rfl := eq_nil_of_front hw.2.2 rfl hquote
        obtain rfl : quoted title = _ := hquote
        obtain ⟨z', hz'⟩ := resolved_quote (escapeIn isQuote title ++ [34])
        rw [quoted, hz'] at hb
        obtain ⟨rfl, -⟩ := List.cons.inj hb
        cases hspace
    · cases ends.unspaced 32 (by simp)

lemma title_in_place {w x w' z d' τ : Bytes} (hw' : ∀ b ∈ w', Bytes.isSpace b = true)
    (hd : WrittenDestination (w' ++ 34 :: z) x d') (hτ : Glyph.plain 34 ∉ glyphs τ)
    (hu : destination d ++ 32 :: quoted title = w ++ (x ++ (w' ++ 34 :: (τ ++ [34])))) :
    ∃ v b, w' = v ++ [b] ∧ destination d = w ++ (x ++ v) ∧ τ = escapeIn isQuote title := by
  have hgap := gap_of_writtenDestination rfl (by decide) hd
  have hF : (w ++ (x ++ w')).getLast? ≠ some 92 := by
    rcases hgap with ⟨v, b, rfl⟩ | ⟨rfl, v, rfl⟩
    · have hb := hw' b (by simp)
      simp only [← List.append_assoc, List.getLast?_concat]
      rintro ⟨⟩
      cases hb
    · rw [List.append_nil, ← List.append_assoc, List.getLast?_concat]
      decide
  obtain ⟨hD, rfl⟩ := @title_between_quotes _ _ (w ++ (x ++ w')) τ (by simpa using hu) hτ hF
  rcases hgap with ⟨v, b, rfl⟩ | ⟨rfl, v, rfl⟩
  · have hcut : destination d ++ [32] = (w ++ (x ++ v)) ++ [b] := by simpa using hD.symm
    exact ⟨v, b, rfl, (List.append_inj' hcut rfl).1, rfl⟩
  · have hcut : (w ++ v) ++ [62] = destination d ++ [32] := by simpa using hD
    obtain ⟨-, ⟨⟩⟩ := List.append_inj' hcut rfl

lemma recoverable_titled {d' : Bytes} {t' : Option Bytes} (ht : title ≠ [])
    (h : WrittenTarget t (destination d ++ 32 :: quoted title) d' t')
    (hres : Html.resolved d' = Html.resolved d) : Recoverable d title := by
  generalize hu : destination d ++ 32 :: quoted title = u at h
  -- no white space is left behind the closing quote
  have hback : ∀ {y w : Bytes}, (∀ b ∈ w, Bytes.isSpace b = true) → u = y ++ w → w = [] := by
    intro y w hw h
    refine eq_nil_of_back (b := 34) (s := destination d ++ 32 :: 34 :: escapeIn isQuote title) (y := y) hw rfl ?_
    rw [← h, ← hu]
    simp [quoted]
  cases h with
  | empty hw =>
    have h34 := hw 34 (by rw [← hu]; simp [quoted])
    cases h34
  | @untitled w x w' _ hw hw' hd =>
    obtain rfl := @hback (w ++ x) w' hw' (by simp)
    rw [List.append_nil] at hu
    exact absurd hu (destination_quoted_ne hw hd hres)
  | @titled w x w' y w'' _ τ q hw hw' hw'' hd htitle =>
    obtain rfl := @hback (w ++ (x ++ (w' ++ y))) w'' hw'' (by simp)
    obtain ⟨q', hq, rfl, hplain⟩ := htitle.quotes
    have hlast : (destination d ++ 32 :: 34 :: escapeIn isQuote title) ++ [34] =
        (w ++ (x ++ (w' ++ q :: τ))) ++ [q'] := by
      simpa [quoted] using hu
    obtain ⟨-, ⟨⟩⟩ := List.append_inj' hlast rfl
    obtain rfl : q = 34 := by
      rcases titleCloser?_cases hq with ⟨h, -⟩ | ⟨-, h⟩ | ⟨-, h⟩
      · exact h
      · cases h
      · cases h
    obtain ⟨v, b, rfl, hdest, rfl⟩ := title_in_place hw' hd hplain (by simpa using hu)
    rw [List.forall_mem_append] at hw'
    obtain ⟨hangles, hbare⟩ := recoverable_destination hw hw'.1 hdest hd hres
    refine ⟨hangles, fun hn => ?_, ?_, ?_⟩
    · obtain ⟨-, hs, n, hn, -⟩ := hbare hn
      exact ⟨hs, n, hn, fun h => absurd h ht⟩
    · rwa [← plain_mem_glyphs_escapeIn isPunct_of_isQuote rfl rfl]
    · rw [← hangs_escapeIn isPunct_of_isQuote rfl]
      exact htitle.shut

lemma recoverable_of_writtenTarget {d' : Bytes} {t' : Option Bytes}
    (h : WrittenTarget t (linkText d title) d' t') (hres : Html.resolved d' = Html.resolved d) :
    Recoverable d title := by
  by_cases ht : title = []
  · subst ht
    exact recoverable_untitled (by simpa [linkText] using h) hres
  · exact recoverable_titled ht (by simpa [linkText, ht] using h) hres

end

/-- Reading a link back, whatever text follows it: exactly what was written is taken, and destination and
title stand for what they stood for. -/
theorem inlineTarget?_linkTail_iff (d title t : Bytes) :
    (∃ d' t' c, Inline.inlineTarget? (blockOf (linkTail d title ++ t)) (.ofLines (blockOf (linkTail d title ++ t))) =
        some (⟨d', t'⟩, c) ∧ c.pos = (linkTail d title).length ∧
      Html.resolved d' = Html.resolved d ∧ Html.text (t'.getD []) = Html.text title) ↔ Recoverable d title := by
  have hstart := TextCursor.between_ofLines (linkTail d title ++ t)
  have htext : linkTail d title ++ t = 40 :: (linkText d title ++ 41 :: t) := by simp [linkTail_eq]
  rw [htext] at hstart ⊢
  constructor
  · rintro ⟨d', t', c, hread, hpos, hres, -⟩
    obtain ⟨u, r, hu, hw, hc⟩ := Inline.written_of_inlineTarget? hstart hread
    rw [hc.pos, linkTail_eq] at hpos
    obtain ⟨rfl, hr⟩ := List.append_inj hu (by simpa using hpos.symm)
    obtain ⟨-, rfl⟩ := List.cons.inj hr
    exact recoverable_of_writtenTarget hw hres
  · intro h
    obtain ⟨d', t', hw, hres, htitle⟩ := h.writtenTarget t
    obtain ⟨c, hread, hc⟩ := Inline.inlineTarget?_written hw hstart
    refine ⟨d', t', c, hread, ?_, hres, htitle⟩
    rw [hc.pos, linkTail_eq]
    simp

/-- Only parentheses without a backslash count where a destination ends, but all of them count when it is
written: the last one of this destination is left behind. -/
theorem inlineTarget?_linkTail_escaped_paren :
    (Inline.inlineTarget? (blockOf (utf8 "(<\\()>)")) (.ofLines (blockOf (utf8 "(<\\()>)")))).map
        (fun r => (r.1.destination, r.1.title)) = some (utf8 "\\()", none) ∧
      ¬ ∃ d' t' c, Inline.inlineTarget? (blockOf (linkTail (utf8 "\\()") [] ++ []))
          (.ofLines (blockOf (linkTail (utf8 "\\()") [] ++ []))) = some (⟨d', t'⟩, c) ∧
        c.pos = (linkTail (utf8 "\\()") []).length ∧
        Html.resolved d' = Html.resolved (utf8 "\\()") ∧ Html.text (t'.getD []) = Html.text [] := by
  refine ⟨by decide, ?_⟩
  rintro ⟨d', t', c, hread, hpos, -⟩
  have hstop : (Inline.inlineTarget? (blockOf (linkTail (utf8 "\\()") [] ++ []))
      (.ofLines (blockOf (linkTail (utf8 "\\()") [] ++ [])))).map (·.2.pos) = some 4 := by decide
  rw [hread, Option.map_some, Option.some.injEq, hpos] at hstop
  revert hstop
  decide

end MarkdownTidy.Writer
