import MarkdownTidy.Proofs.Bytes.Cutting
import MarkdownTidy.Proofs.Text.Glyphs
import MarkdownTidy.Proofs.Text.LetterCase

/-! Character references end at any byte that cannot belong to one, so a text is resolved piece by
piece between such bytes. -/

namespace MarkdownTidy.Html

def isReferenceByte (b : UInt8) : Bool := Bytes.isAlphanumeric b || b == byte '#' || b == byte ';'

structure Local (find? : Bytes → Option (Bytes × Nat)) : Prop where
  append : ∀ {x y : Bytes} {s : UInt8}, isReferenceByte s = false → find? (x ++ s :: y) = find? x
  taken : ∀ {x t : Bytes} {n : Nat}, find? x = some (t, n) →
    n ≤ x.length ∧ ∀ b ∈ x.take n, isReferenceByte b = true

section Runs

variable {p : UInt8 → Bool} {s : UInt8}

lemma takeWhile_append_cons (hs : p s = false) (x y : Bytes) : (x ++ s :: y).takeWhile p = x.takeWhile p := by
  induction x with
  | nil => simp [hs]
  | cons b x ih => cases hb : p b <;> simp [hb, ih]

lemma head?_behind_run (hs : p s = false) (h59 : s ≠ 59) (x y : Bytes) :
    (((x ++ s :: y).dropWhile p).head? != some (byte ';')) = ((x.dropWhile p).head? != some (byte ';')) := by
  induction x with
  | nil => simp [hs, byte, bne, h59]
  | cons b x ih => cases hb : p b <;> simp [hb, ih]

lemma taken_run (hp : ∀ b, p b = true → isReferenceByte b = true) {x : Bytes}
    (h : (x.dropWhile p).head? = some (byte ';')) :
    (x.takeWhile p).length + 1 ≤ x.length ∧
      ∀ b ∈ x.take ((x.takeWhile p).length + 1), isReferenceByte b = true := by
  obtain ⟨r, hr⟩ := List.head?_eq_some_iff.mp h
  have hx : x = x.takeWhile p ++ [byte ';'] ++ r := by
    rw [List.append_assoc, List.singleton_append, ← hr, List.takeWhile_append_dropWhile]
  have htake : x.take ((x.takeWhile p).length + 1) = x.takeWhile p ++ [byte ';'] := by
    conv_lhs => rw [hx]
    exact List.take_left' (by rw [← hx]; simp)
  refine ⟨?_, ?_⟩
  · have hl := congrArg List.length hx
    simp only [List.length_append, List.length_singleton] at hl
    omega
  · rw [htake]
    intro b hb
    rcases List.mem_append.mp hb with hb | hb
    · exact hp b (List.mem_takeWhile_imp hb)
    · rw [List.mem_singleton.mp hb]
      rfl

end Runs

section Separator

variable {s : UInt8}

lemma ne_of_not_referenceByte {c : UInt8} (hs : isReferenceByte s = false) (hc : isReferenceByte c = true) : s ≠ c := by
  rintro rfl
  rw [hs] at hc
  cases hc

lemma not_alphanumeric (hs : isReferenceByte s = false) : Bytes.isAlphanumeric s = false := by
  simp only [isReferenceByte, Bool.or_eq_false_iff] at hs
  exact hs.1.1

lemma isReferenceByte_of_alphanumeric {b : UInt8} (h : Bytes.isAlphanumeric b = true) : isReferenceByte b = true := by
  simp [isReferenceByte, h]

lemma isReferenceByte_of_isDigit {b : UInt8} (h : Bytes.isDigit b = true) : isReferenceByte b = true :=
  isReferenceByte_of_alphanumeric (by simp [Bytes.isAlphanumeric, h])

lemma isReferenceByte_of_isHexDigit {b : UInt8} (h : Bytes.isHexDigit b = true) : isReferenceByte b = true :=
  isReferenceByte_of_alphanumeric (Bytes.isAlphanumeric_of_isHexDigit h)

lemma eq_false_of_imp {p : UInt8 → Bool} (hp : ∀ b, p b = true → isReferenceByte b = true)
    (hs : isReferenceByte s = false) : p s = false := by
  by_contra h
  rw [hp s (by simpa using h)] at hs
  cases hs

end Separator

lemma numericReference?_append (longest : Option Nat) {s : UInt8} (hs : isReferenceByte s = false)
    (x y : Bytes) : numericReference? longest (x ++ s :: y) = numericReference? longest x := by
  have hhex : Bytes.isHexDigit s = false := eq_false_of_imp (fun _ => isReferenceByte_of_isHexDigit) hs
  have hdigit : Bytes.isDigit s = false := eq_false_of_imp (fun _ => isReferenceByte_of_isDigit) hs
  have h59 : s ≠ 59 := ne_of_not_referenceByte hs rfl
  cases x with
  | nil =>
    have h1 : s ≠ 120 := ne_of_not_referenceByte hs rfl
    have h2 : s ≠ 88 := ne_of_not_referenceByte hs rfl
    simp [numericReference?, byte, h1, h2, hdigit]
  | cons c x =>
    have hrun := takeWhile_append_cons hdigit (c :: x) y
    have hbehind := head?_behind_run hdigit h59 (c :: x) y
    rw [List.cons_append] at hrun hbehind
    simp only [numericReference?, List.cons_append, Bytes.drop_length_takeWhile]
    simp only [hrun, hbehind, takeWhile_append_cons hhex, head?_behind_run hhex h59]

lemma taken_numericReference? {longest : Option Nat} {x : Bytes} {code n : Nat}
    (h : numericReference? longest x = some (code, n)) :
    n ≤ x.length ∧ ∀ b ∈ x.take n, isReferenceByte b = true := by
  cases x with
  | nil => cases h
  | cons c x =>
    simp only [numericReference?, Bytes.drop_length_takeWhile] at h
    split at h
    · rename_i hc
      split at h
      · cases h
      · rename_i hn
        obtain ⟨-, rfl⟩ := Prod.mk.inj (Option.some.inj h)
        have hsemi : (x.dropWhile Bytes.isHexDigit).head? = some (byte ';') := by
          simp only [Bool.or_eq_true, not_or, bne_iff_ne, not_not] at hn
          exact hn.2
        obtain ⟨hl, ht⟩ := taken_run (fun _ => isReferenceByte_of_isHexDigit) hsemi
        refine ⟨by simpa using hl, ?_⟩
        rw [List.take_succ_cons]
        intro b hb
        rcases List.mem_cons.mp hb with rfl | hb
        · rcases (by simpa [byte] using hc : b = 120 ∨ b = 88) with rfl | rfl <;> rfl
        · exact ht b hb
    · split at h
      · cases h
      · rename_i hn
        obtain ⟨-, rfl⟩ := Prod.mk.inj (Option.some.inj h)
        have hsemi : ((c :: x).dropWhile Bytes.isDigit).head? = some (byte ';') := by
          simp only [Bool.or_eq_true, not_or, bne_iff_ne, not_not] at hn
          exact hn.2
        exact taken_run (fun _ => isReferenceByte_of_isDigit) hsemi

lemma local_namedReference? : Local namedReference? where
  append {x y s} hs := by
    have halpha := not_alphanumeric hs
    have h59 : s ≠ 59 := ne_of_not_referenceByte hs rfl
    simp only [namedReference?, Bytes.drop_length_takeWhile]
    rw [takeWhile_append_cons halpha, head?_behind_run halpha h59]
  taken {x t n} h := by
    simp only [namedReference?, Bytes.drop_length_takeWhile] at h
    split at h
    · cases h
    · rename_i hn
      obtain ⟨codes, -, hc⟩ := Option.map_eq_some_iff.mp h
      obtain ⟨-, rfl⟩ := Prod.mk.inj hc
      exact taken_run (fun _ => isReferenceByte_of_alphanumeric) (by simpa using hn)

lemma taken_hash {longest : Option Nat} {rest : Bytes} {code n : Nat}
    (h : numericReference? longest rest = some (code, n)) :
    n + 1 ≤ (35 :: rest).length ∧ ∀ b ∈ (35 :: rest).take (n + 1), isReferenceByte b = true := by
  obtain ⟨hl, ht⟩ := taken_numericReference? h
  refine ⟨by simpa using hl, ?_⟩
  rw [List.take_succ_cons]
  intro b hb
  rcases List.mem_cons.mp hb with rfl | hb
  · rfl
  · exact ht b hb

lemma local_reference? : Local reference? where
  append {x y s} hs := by
    have h35 : s ≠ 35 := ne_of_not_referenceByte hs rfl
    cases x with
    | nil =>
      have hn := local_namedReference?.append (x := []) (y := y) hs
      simp only [List.nil_append] at hn
      simp [reference?, byte, h35, hn, show namedReference? [] = none from rfl]
    | cons c x =>
      have hn := local_namedReference?.append (x := c :: x) (y := y) hs
      rw [List.cons_append] at hn
      simp only [reference?, List.cons_append, numericReference?_append _ hs, hn]
  taken {x t n} h := by
    cases x with
    | nil => cases h
    | cons c x =>
      simp only [reference?] at h
      split at h
      · rename_i hc
        obtain rfl : c = 35 := by simpa [byte] using hc
        obtain ⟨⟨code, m⟩, hm, he⟩ := Option.map_eq_some_iff.mp h
        obtain ⟨-, rfl⟩ := Prod.mk.inj he
        exact taken_hash hm
      · obtain ⟨⟨u, m⟩, hm, he⟩ := Option.map_eq_some_iff.mp h
        obtain ⟨-, rfl⟩ := Prod.mk.inj he
        exact local_namedReference?.taken hm

/-! ### Destinations -/

def numeric? : Bytes → Option (Bytes × Nat)
  | 35 :: rest => (numericReference? none rest).map fun (code, n) => (Utf8.encode code, n + 1)
  | _ => none

def named? (s : Bytes) : Option (Bytes × Nat) :=
  if s.head? == some (byte '#') then none else namedReference? s

lemma numeric?_cons {c : UInt8} (hc : c ≠ 35) (s : Bytes) : numeric? (c :: s) = none := by
  rw [numeric?]
  intro rest h
  exact hc (List.cons.inj h).1

lemma local_numeric? : Local numeric? where
  append {x y s} hs := by
    cases x with
    | nil => exact numeric?_cons (ne_of_not_referenceByte hs rfl) y
    | cons c x =>
      by_cases hc : c = 35
      · subst hc
        simp only [numeric?, List.cons_append, numericReference?_append _ hs]
      · rw [List.cons_append, numeric?_cons hc, numeric?_cons hc]
  taken {x t n} h := by
    cases x with
    | nil => cases h
    | cons c x =>
      by_cases hc : c = 35
      · subst hc
        obtain ⟨⟨code, m⟩, hm, he⟩ := Option.map_eq_some_iff.mp h
        obtain ⟨-, rfl⟩ := Prod.mk.inj he
        exact taken_hash hm
      · rw [numeric?_cons hc] at h
        cases h

lemma local_named? : Local named? where
  append {x y s} hs := by
    have h35 : s ≠ 35 := ne_of_not_referenceByte hs rfl
    cases x with
    | nil => simp [named?, byte, h35, ← local_namedReference?.append (x := []) (y := y) hs]
    | cons c x =>
      rw [named?, named?, local_namedReference?.append hs]
      rfl
  taken {x t n} h := by
    rw [named?] at h
    split at h
    · cases h
    · exact local_namedReference?.taken h

section Replacing

variable {find? : Bytes → Option (Bytes × Nat)} {s : UInt8} {x y : Bytes}

lemma replaceReferences_fuel {fuel fuel' : Nat} (h : x.length ≤ fuel) (h' : x.length ≤ fuel') :
    replaceReferences find? fuel x = replaceReferences find? fuel' x := by
  induction fuel generalizing fuel' x with
  | zero =>
    obtain rfl : x = [] := List.length_eq_zero_iff.mp (by omega)
    cases fuel' <;> rfl
  | succ fuel ih =>
    cases x with
    | nil => cases fuel' <;> rfl
    | cons b x =>
      cases fuel' with
      | zero => simp at h'
      | succ fuel' =>
        rw [List.length_cons, Nat.add_le_add_iff_right] at h h'
        have hdrop : ∀ n, replaceReferences find? fuel (x.drop n) = replaceReferences find? fuel' (x.drop n) := by
          intro n
          have hn : (x.drop n).length ≤ x.length := by simp
          exact ih (by omega) (by omega)
        simp only [replaceReferences, ih h h', hdrop]

lemma replaceReferences_append (hf : Local find?) (hs : isReferenceByte s = false) (ha : s ≠ 38) {fuel : Nat}
    (h : (x ++ s :: y).length ≤ fuel) :
    replaceReferences find? fuel (x ++ s :: y) =
      replaceReferences find? fuel x ++ s :: replaceReferences find? fuel y := by
  induction fuel generalizing x with
  | zero => simp at h
  | succ fuel ih =>
    have hy : y.length ≤ fuel := by simp at h; omega
    have hy' : replaceReferences find? (fuel + 1) y = replaceReferences find? fuel y :=
      replaceReferences_fuel (by omega) hy
    cases x with
    | nil => simp [replaceReferences, byte, ha, hy']
    | cons b x =>
      have hx : (x ++ s :: y).length ≤ fuel := by simpa using h
      have hnext := ih hx
      rw [hy', List.cons_append]
      simp only [replaceReferences, hf.append hs, hnext]
      split
      · cases hr : find? x with
        | none => rfl
        | some r =>
          obtain ⟨t, n⟩ := r
          have hn := (hf.taken hr).1
          have hdrop : (x ++ s :: y).drop n = x.drop n ++ s :: y := List.drop_append_of_le_length hn
          have hlen : (x.drop n ++ s :: y).length ≤ fuel := by
            rw [← hdrop, List.length_drop]
            omega
          simp only [hdrop, ih hlen, List.append_assoc]
      · rfl

lemma replaceReferences_pieces (hf : Local find?) (hs : isReferenceByte s = false) (ha : s ≠ 38) (x y : Bytes) :
    replaceReferences find? (x ++ s :: y).length (x ++ s :: y) =
      replaceReferences find? x.length x ++ s :: replaceReferences find? y.length y := by
  have hx : x.length ≤ (x ++ s :: y).length := by simp
  have hy : y.length ≤ (x ++ s :: y).length := by simp; omega
  rw [replaceReferences_append hf hs ha le_rfl, replaceReferences_fuel hx le_rfl, replaceReferences_fuel hy le_rfl]

end Replacing

def resolveReferences (x : Bytes) : Bytes := resolveNamed (resolveNumeric x)

lemma resolveReferences_append {s : UInt8} (hs : isReferenceByte s = false) (ha : s ≠ 38) (x y : Bytes) :
    resolveReferences (x ++ s :: y) = resolveReferences x ++ s :: resolveReferences y := by
  have hnum : resolveNumeric (x ++ s :: y) = resolveNumeric x ++ s :: resolveNumeric y :=
    replaceReferences_pieces local_numeric? hs ha x y
  rw [resolveReferences, hnum]
  exact replaceReferences_pieces local_named? hs ha _ _

lemma length_resolveReferences_escaped {p : UInt8 → Bool}
    (hp : ∀ b, p b = true → isReferenceByte b = false ∧ b ≠ 38) (gs : List Glyph) (x : Bytes) :
    (resolveReferences (x ++ (gs.flatMap (Glyph.escaped p)).map Glyph.byte)).length =
      (resolveReferences (x ++ gs.map Glyph.byte)).length +
        gs.countP (Glyph.isHidden p) := by
  induction gs generalizing x with
  | nil => simp
  | cons g gs ih =>
    have hnext := ih (x ++ [g.byte])
    simp only [List.append_assoc, List.singleton_append] at hnext
    cases g with
    | plain b =>
      by_cases hb : p b = true <;> simpa [Glyph.escaped, Glyph.byte, Glyph.isHidden, hb] using hnext
    | hidden b =>
      by_cases hb : p b = true
      · obtain ⟨hr, ha⟩ := hp b hb
        have h92 : isReferenceByte 92 = false := by decide
        have hfront : ∀ y, resolveReferences (b :: y) = b :: resolveReferences y :=
          resolveReferences_append hr ha []
        have hrest := ih []
        simp only [List.nil_append] at hrest
        simp only [List.flatMap_cons, Glyph.escaped, hb, if_true, List.map_cons, Glyph.byte,
          List.cons_append, List.nil_append, resolveReferences_append h92 (by decide), hfront,
          resolveReferences_append hr ha, List.length_append, List.length_cons, List.countP_cons, Glyph.isHidden]
        omega
      · simpa [Glyph.escaped, Glyph.byte, Glyph.isHidden, hb] using hnext

def resolved (d : Bytes) : Bytes := resolveReferences (unescapePunctuation d)

lemma unescapePunctuation_append {x y : Bytes} (h : Hangs x → ∀ c ∈ y.head?, Bytes.isPunct c = false) :
    unescapePunctuation (x ++ y) = unescapePunctuation x ++ unescapePunctuation y := by
  rw [← map_byte_glyphs, glyphs_append h, List.map_append, map_byte_glyphs, map_byte_glyphs]

lemma resolved_append {s : UInt8} (hs : Bytes.isSpace s = true) (x y : Bytes) :
    resolved (x ++ s :: y) = resolved x ++ s :: resolved y := by
  have hcases : s = 32 ∨ s = 9 ∨ s = 10 ∨ s = 12 ∨ s = 13 := by simpa [Bytes.isSpace, or_assoc] using hs
  have hplain : hidesNext s y = false ∧ Bytes.isPunct s = false ∧ isReferenceByte s = false ∧ s ≠ 38 := by
    rcases hcases with rfl | rfl | rfl | rfl | rfl <;> exact ⟨rfl, rfl, rfl, by decide⟩
  obtain ⟨hhide, hpunct, href, ha⟩ := hplain
  have hfront : unescapePunctuation (s :: y) = s :: unescapePunctuation y := by
    rw [← map_byte_glyphs, glyphs_plain hhide, List.map_cons, map_byte_glyphs]
    rfl
  rw [resolved, unescapePunctuation_append (fun _ => by simpa using hpunct), hfront,
    resolveReferences_append href ha]
  rfl

lemma resolved_spaces {w : Bytes} (hw : ∀ b ∈ w, Bytes.isSpace b = true) (y : Bytes) :
    resolved (w ++ y) = w ++ resolved y := by
  induction w with
  | nil => rfl
  | cons b w ih =>
    rw [List.forall_mem_cons] at hw
    rw [List.cons_append, List.cons_append, ← ih hw.2]
    exact resolved_append hw.1 [] _

lemma length_resolved_spaced {w w' : Bytes} (hw : ∀ b ∈ w, Bytes.isSpace b = true)
    (hw' : ∀ b ∈ w', Bytes.isSpace b = true) (x y : Bytes) (h : w' = [] → y = []) :
    (resolved (w ++ (x ++ (w' ++ y)))).length = w.length + (resolved x).length + w'.length + (resolved y).length := by
  rw [resolved_spaces hw]
  cases w' with
  | nil =>
    rw [h rfl]
    simp [show resolved [] = [] from rfl]
  | cons b w' =>
    rw [List.forall_mem_cons] at hw'
    rw [List.cons_append, resolved_append hw'.1, resolved_spaces hw'.2]
    simp
    omega

/-! ### Text -/

lemma textUpTo_fuel {fuel fuel' : Nat} {x : Bytes} (h : x.length ≤ fuel) (h' : x.length ≤ fuel') :
    textUpTo fuel x = textUpTo fuel' x := by
  induction fuel generalizing fuel' x with
  | zero =>
    obtain rfl : x = [] := List.length_eq_zero_iff.mp (by omega)
    cases fuel' <;> rfl
  | succ fuel ih =>
    cases x with
    | nil => cases fuel' <;> rfl
    | cons b x =>
      cases fuel' with
      | zero => simp at h'
      | succ fuel' =>
        rw [List.length_cons, Nat.add_le_add_iff_right] at h h'
        have hdrop : ∀ n, textUpTo fuel (x.drop n) = textUpTo fuel' (x.drop n) := by
          intro n
          have hn : (x.drop n).length ≤ x.length := by simp
          exact ih (by omega) (by omega)
        have hnext : textUpTo fuel x = textUpTo fuel' x := ih h h'
        cases x with
        | nil => simp only [textUpTo, hdrop, hnext]
        | cons c x =>
          have htail : textUpTo fuel x = textUpTo fuel' x := hdrop 1
          simp only [textUpTo, hdrop, hnext, htail]

lemma text_eq {fuel : Nat} {x : Bytes} (h : x.length ≤ fuel) : textUpTo fuel x = text x :=
  textUpTo_fuel h le_rfl

@[simp] lemma text_nil : text [] = [] := rfl

lemma text_hidden {c : UInt8} (hc : Bytes.isPunct c = true) (s : Bytes) :
    text (92 :: c :: s) = markupByte c ++ text s := by
  rw [← text_eq (Nat.le_succ_of_le le_rfl : (s.length : Nat) ≤ s.length + 1)]
  simp [text, textUpTo, byte, hc]

def plainByte (b : UInt8) : Bytes := if b == 0 then Utf8.encode Utf8.replacement else markupByte b

lemma text_plain {b : UInt8} {s : Bytes} (h : hidesNext b s = false) (ha : b ≠ 38) :
    text (b :: s) = plainByte b ++ text s := by
  have h38 : (b == byte '&') = false := by simpa [byte] using ha
  by_cases hb : b = 92
  · subst hb
    cases s with
    | nil => rfl
    | cons c s =>
      have hc : Bytes.isPunct c = false := by simpa [hidesNext, byte] using h
      simp only [text, List.length_cons, textUpTo, hc]
      rfl
  · have h92 : (b == byte '\\') = false := by simpa [byte] using hb
    rw [plainByte]
    simp only [text, List.length_cons, textUpTo, h92, h38, Bool.false_eq_true, if_false]
    split <;> rfl

lemma text_reference {s t : Bytes} {n : Nat} (h : reference? s = some (t, n)) :
    text (38 :: s) = t ++ text (s.drop n) := by
  have hn : (s.drop n).length ≤ s.length := by simp
  rw [← text_eq hn]
  simp [text, textUpTo, byte, h]

lemma text_amp {s : Bytes} (h : reference? s = none) : text (38 :: s) = utf8 "&amp;" ++ text s := by
  simp [text, textUpTo, byte, h]

lemma text_append {s : UInt8} (hs : isReferenceByte s = false) {x : Bytes} (hx : ¬ Hangs x) (y : Bytes) :
    text (x ++ s :: y) = text x ++ text (s :: y) := by
  induction hn : x.length using Nat.strongRecOn generalizing x with
  | _ n ih =>
    subst hn
    cases x using glyph_cases with
    | nil => rfl
    | plain b x hb =>
      have hx' : ¬ Hangs x := fun h => hx (hangs_cons hb h)
      have hseam : hidesNext b (x ++ s :: y) = false := hidesNext_append hb fun h0 h92 => by
        subst h0 h92
        exact absurd rfl hx
      by_cases ha : b = 38
      · subst ha
        rw [List.cons_append]
        have hsame : reference? (x ++ s :: y) = reference? x := local_reference?.append hs
        cases hr : reference? x with
        | none =>
          rw [hr] at hsame
          rw [text_amp hsame, text_amp hr, ih x.length (by simp) hx' rfl, List.append_assoc]
        | some r =>
          obtain ⟨t, k⟩ := r
          obtain ⟨hk, ht⟩ := local_reference?.taken hr
          rw [hr] at hsame
          -- what the reference takes has no backslash, so what is behind it hangs no more than the whole
          have hfront : ¬ Hangs (x.take k) := not_hangs_of_notMem fun h => by cases ht 92 h
          have hdrop : ¬ Hangs (x.drop k) := fun h => hx' (List.take_append_drop k x ▸ h.append_left hfront)
          rw [text_reference hsame, text_reference hr, List.drop_append_of_le_length hk,
            ih (x.drop k).length (by rw [List.length_drop, List.length_cons]; omega) hdrop rfl, List.append_assoc]
      · rw [List.cons_append, text_plain hseam ha, text_plain hb ha, ih x.length (by simp) hx' rfl,
          List.append_assoc]
    | hidden c x hc =>
      rw [hangs_hidden hc] at hx
      rw [List.cons_append, List.cons_append, text_hidden hc, text_hidden hc,
        ih x.length (by rw [List.length_cons, List.length_cons]; omega) hx rfl, List.append_assoc]

lemma text_append_escapeIn {p : UInt8 → Bool}
    (hp : ∀ b, p b = true → Bytes.isPunct b = true ∧ isReferenceByte b = false ∧ b ≠ 38 ∧ b ≠ 0)
    (h92 : p 92 = false) {s x : Bytes} (hs : ∀ c, p c = true → Glyph.hidden c ∉ glyphs s)
    (hx : Hangs x → ∀ c ∈ s.head?, Bytes.isPunct c = false) :
    text (x ++ escapeIn p s) = text (x ++ s) := by
  induction s using glyph_induction generalizing x with
  | nil => rfl
  | plain b s hb ih =>
    rw [glyphs_plain hb] at hs
    have hs' : ∀ c, p c = true → Glyph.hidden c ∉ glyphs s := fun c hc h => hs c hc (List.mem_cons_of_mem _ h)
    rw [escapeIn_cons]
    by_cases hpb : p b = true
    · obtain ⟨hpunct, href, ha, h0⟩ := hp b hpb
      have hx' : ¬ Hangs x := fun h => by simpa [hpunct] using hx h b rfl
      have hrest := ih (x := []) hs' (fun h => absurd h not_hangs_nil)
      have hmark : plainByte b = markupByte b := if_neg (by simpa using h0)
      simp only [hpb, if_true, List.cons_append, List.nil_append] at hrest ⊢
      rw [text_append (by decide) hx', text_hidden hpunct, text_append href hx', text_plain hb ha, hrest, hmark]
    · have hx' : Hangs (x ++ [b]) → ∀ c ∈ s.head?, Bytes.isPunct c = false := by
        intro h c hc
        rw [hangs_concat fun hh => hx hh b rfl] at h
        subst h
        rw [Option.mem_def] at hc
        simpa [hidesNext, byte, hc] using hb
      have hnext := ih hs' hx'
      simpa [hpb] using hnext
  | hidden c s hc ih =>
    rw [glyphs_hidden hc] at hs
    have hs' : ∀ c, p c = true → Glyph.hidden c ∉ glyphs s := fun c hc h => hs c hc (List.mem_cons_of_mem _ h)
    have hpc : ¬ p c = true := fun h => hs c h List.mem_cons_self
    have hx' : ¬ Hangs x := fun h => by cases hx h 92 rfl
    have hseam : ¬ Hangs (x ++ [92, c]) := by
      rw [Hangs, glyphs_append_of_not_hangs hx', glyphs_hidden hc]
      simp
    have hnext := ih hs' fun h => absurd h hseam
    simpa [escapeIn_cons, h92, hpc] using hnext

end MarkdownTidy.Html
