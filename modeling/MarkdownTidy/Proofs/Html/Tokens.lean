import MarkdownTidy.Html.Escape
import MarkdownTidy.Html.Token
import MarkdownTidy.Proofs.Html.TagAttributes
import MarkdownTidy.Proofs.Shortcode.ValueEscaping

/-! Tokenizing what was written as tags with escaped text between them. Resolving the references of an escaped text
gives the text back, in values as in text, and escaping brings in no byte that tags are delimited by. -/

namespace MarkdownTidy.Html

/-! ### Escaped text -/

@[simp] lemma escape_nil : escape [] = [] := rfl

@[simp] lemma escape_cons (b : UInt8) (s : Bytes) : escape (b :: s) = escapeByte b ++ escape s := rfl

def referenceText : Bytes := utf8 "&#13469;almpgt"

lemma mem_escapeByte {b c : UInt8} (h : c ∈ escapeByte b) : (c = b ∧ escapeByte b = [b]) ∨ c ∈ referenceText := by
  have hmem : ∀ w : Bytes, w.all (referenceText.contains ·) = true → c ∈ w → c ∈ referenceText := fun w hw hc =>
    List.contains_iff_mem.mp (List.all_eq_true.mp hw c hc)
  rw [escapeByte] at h ⊢
  repeat' split at h
  all_goals first | exact .inr (hmem _ rfl h) | skip
  simp_all

lemma mem_escape {c : UInt8} {s : Bytes} (h : c ∈ escape s) :
    (c ∈ s ∧ escapeByte c = [c]) ∨ c ∈ referenceText := by
  obtain ⟨b, hb, hc⟩ := List.mem_flatMap.mp h
  rcases mem_escapeByte hc with ⟨rfl, he⟩ | hc
  · exact .inl ⟨hb, he⟩
  · exact .inr hc

lemma notMem_escape {c : UInt8} (hc : escapeByte c ≠ [c]) (hr : c ∉ referenceText) (s : Bytes) : c ∉ escape s :=
  fun h => (mem_escape h).elim (fun h => hc h.2) hr

lemma escapeByte_cases (b : UInt8) :
    (b ≠ 38 ∧ escapeByte b = [b]) ∨
      ∃ name, escapeByte b = 38 :: name ∧ ∀ inValue t, resolve inValue (name ++ t) = ([b], name.length + 1) := by
  rw [escapeByte]
  repeat' split
  · rename_i hb
    obtain rfl : b = 38 := by simpa [byte] using hb
    exact .inr ⟨[97, 109, 112, 59], rfl, resolve_closed (by decide) (by decide) codes?_written.1⟩
  · rename_i hb
    obtain rfl : b = 39 := by simpa [byte] using hb
    exact .inr ⟨[35, 51, 57, 59], rfl, fun inValue t => by simp [resolve, byte, numericDigits]; rfl⟩
  · rename_i hb
    obtain rfl : b = 60 := by simpa [byte] using hb
    exact .inr ⟨[108, 116, 59], rfl, resolve_closed (by decide) (by decide) codes?_written.2.2.2.1⟩
  · rename_i hb
    obtain rfl : b = 62 := by simpa [byte] using hb
    exact .inr ⟨[103, 116, 59], rfl, resolve_closed (by decide) (by decide) codes?_written.2.2.1⟩
  · rename_i hb
    obtain rfl : b = 34 := by simpa [byte] using hb
    exact .inr ⟨[35, 51, 52, 59], rfl, fun inValue t => by simp [resolve, byte, numericDigits]; rfl⟩
  · rename_i hb
    obtain rfl : b = 13 := by simpa [byte] using hb
    exact .inr ⟨[35, 49, 51, 59], rfl, fun inValue t => by simp [resolve, byte, numericDigits]; rfl⟩
  · rename_i hb _ _ _ _ _
    exact .inl ⟨by simpa [byte] using hb, rfl⟩

lemma unescapeUpTo_escape (inValue : Bool) {fuel : Nat} {s : Bytes} (h : (escape s).length ≤ fuel) :
    unescapeUpTo inValue fuel (escape s) = s := by
  induction s generalizing fuel with
  | nil => cases fuel <;> rfl
  | cons b s ih =>
    rw [escape_cons] at h ⊢
    rcases escapeByte_cases b with ⟨hb, he⟩ | ⟨name, he, hresolve⟩
    · rw [he] at h ⊢
      cases fuel with
      | zero => simp at h
      | succ fuel =>
        have hnext : unescapeUpTo inValue fuel (escape s) = s := ih (by simpa using h)
        simp [unescapeUpTo, byte, hb, hnext]
    · rw [he] at h ⊢
      cases fuel with
      | zero => simp at h
      | succ fuel =>
        have hnext : unescapeUpTo inValue fuel (escape s) = s := ih (by simp at h; omega)
        simp [unescapeUpTo, byte, hresolve, hnext]

lemma unescape_escape (inValue : Bool) (s : Bytes) : unescape inValue (escape s) = s :=
  unescapeUpTo_escape inValue (Nat.le_refl _)

lemma convertNewlines_escape (s : Bytes) : convertNewlines (escape s) = escape s :=
  Shortcode.convertNewlines_eq_self_iff.mpr (notMem_escape (by decide) (by decide) s)

lemma quote_notMem_escape (s : Bytes) : 34 ∉ escape s := notMem_escape (by decide) (by decide) s

lemma angle_notMem_escape (s : Bytes) : 60 ∉ escape s := notMem_escape (by decide) (by decide) s

/-! ### Names -/

structure IsTagName (name : Bytes) : Prop where
  ne_nil : name ≠ []
  lower : ∀ b ∈ name, Bytes.isLower b = true

structure IsWrittenKey (name : Bytes) : Prop where
  key : IsKey name
  lower : ∀ b ∈ name, Bytes.isUpper b = false

def writtenAttributes (l : List (Bytes × Bytes)) : Bytes := l.flatMap fun p => 32 :: quotedPair p.1 (escape p.2)

@[simp] lemma writtenAttributes_nil : writtenAttributes [] = [] := rfl

@[simp] lemma writtenAttributes_cons (p : Bytes × Bytes) (l : List (Bytes × Bytes)) :
    writtenAttributes (p :: l) = 32 :: (quotedPair p.1 (escape p.2) ++ writtenAttributes l) := rfl

@[simp] lemma writtenAttributes_append (k l : List (Bytes × Bytes)) :
    writtenAttributes (k ++ l) = writtenAttributes k ++ writtenAttributes l := List.flatMap_append

/-! ### Attributes -/

lemma lowerAscii_eq_self {s : Bytes} (h : ∀ b ∈ s, Bytes.isUpper b = false) : Bytes.lowerAscii s = s := by
  have hid : s.map Bytes.lowerByte = s.map id :=
    List.map_congr_left fun b hb => Bytes.lowerByte_of_not_upper (by simp [h b hb])
  rw [Bytes.lowerAscii, hid, List.map_id]

lemma tagAttribute_escape {name : Bytes} (h : IsWrittenKey name) (value : Bytes) :
    tagAttribute name (escape value) = (name, value) := by
  rw [tagAttribute, lowerAscii_eq_self h.lower, convertNewlines_escape, unescape_escape]

lemma tagAttributesUpTo_written {l : List (Bytes × Bytes)} (hl : ∀ p ∈ l, IsWrittenKey p.1) (fuel : Nat) (t : Bytes) :
    tagAttributesUpTo (l.length + fuel) (writtenAttributes l ++ t) =
      (tagAttributesUpTo fuel t).map fun r => (l ++ r.1, r.2) := by
  induction l with
  | nil => simp
  | cons p l ih =>
    rw [List.forall_mem_cons] at hl
    rw [writtenAttributes_cons, List.cons_append, List.append_assoc, tagAttributesUpTo_space, List.length_cons,
      Nat.add_right_comm, tagAttributesUpTo_pair _ hl.1.key (quote_notMem_escape p.2), ih hl.2,
      tagAttribute_escape hl.1, Option.map_map]
    rfl

lemma tagAttributesUpTo_angle (fuel : Nat) (t : Bytes) : tagAttributesUpTo (fuel + 1) (62 :: t) = some ([], t) := by
  simp [tagAttributesUpTo, isTagSpace, byte, List.dropWhile]

lemma tagAttributesUpTo_key {name : Bytes} (hk : IsKey name) (fuel : Nat) (t : Bytes) :
    tagAttributesUpTo (fuel + 1) (name ++ 61 :: t) = none ∨
      ∃ v more rest, tagAttributesUpTo (fuel + 1) (name ++ 61 :: t) = some (tagAttribute name v :: more, rest) := by
  have hkey := takeKey_append hk t
  obtain ⟨b, rest, rfl, hs, -, hgt, -⟩ := hk
  have hgt' : (b == byte '>') = false := by simpa [byte] using hgt
  rw [tagAttributesUpTo, List.cons_append, List.dropWhile_cons, hs]
  simp only [Bool.false_eq_true, if_false, hgt']
  rw [← List.cons_append, hkey]
  cases takeValue? (61 :: t) with
  | none => exact .inl rfl
  | some r =>
    simp only
    cases tagAttributesUpTo fuel r.2 with
    | none => exact .inl rfl
    | some q => exact .inr ⟨r.1, q.1, q.2, rfl⟩

lemma length_le_writtenAttributes (l : List (Bytes × Bytes)) : l.length ≤ (writtenAttributes l).length := by
  induction l with
  | nil => simp
  | cons p l ih =>
    rw [writtenAttributes_cons, List.length_cons, List.length_cons, List.length_append]
    omega

lemma exists_written (l : List (Bytes × Bytes)) (t : Bytes) :
    ∃ c u, writtenAttributes l ++ 62 :: t = c :: u ∧ endsTagName c = true := by
  cases l with
  | nil => exact ⟨62, t, rfl, rfl⟩
  | cons p l => exact ⟨32, _, rfl, rfl⟩

/-! ### Tags -/

lemma ne_of_isLetter {b c : UInt8} (hb : Bytes.isLetter b = true) (hc : Bytes.isLetter c = false) : b ≠ c := by
  rintro rfl
  rw [hb] at hc
  cases hc

section Tags

variable {name : Bytes} (hname : IsTagName name)
include hname

lemma IsTagName.not_endsTagName {b : UInt8} (hb : b ∈ name) : endsTagName b = false := by
  have hlow := hname.lower b hb
  rw [Bool.eq_false_iff]
  intro hends
  simp only [endsTagName, isTagSpace, byte, Bool.or_eq_true, beq_iff_eq] at hends
  rcases hends with (((((rfl | rfl) | rfl) | rfl) | rfl) | rfl) | rfl <;> cases hlow

lemma IsTagName.lowerAscii_eq : Bytes.lowerAscii name = name := by
  refine lowerAscii_eq_self fun b hb => ?_
  have hlow := hname.lower b hb
  simp only [Bytes.isLower, Bytes.isUpper, Bool.and_eq_true, decide_eq_true_eq, Bool.and_eq_false_iff,
    decide_eq_false_iff_not, UInt8.le_iff_toNat_le, UInt8.reduceToNat] at hlow ⊢
  omega

lemma takeTag?_name {c : UInt8} (hc : endsTagName c = true) (t : Bytes) :
    takeTag? (name ++ c :: t) = (tagAttributesUpTo (t.length + 2) (c :: t)).map fun r =>
      (⟨name, r.1, ((name ++ c :: t).take ((name ++ c :: t).length - r.2.length)).dropLast.getLast? ==
        some (byte '/')⟩, r.2) := by
  have hpos : ∀ b ∈ name, (!endsTagName b) = true := fun b hb => by simp [hname.not_endsTagName hb]
  have hneg : (!endsTagName c) = false := by simp [hc]
  simp only [takeTag?, takeWhile_append_stop hpos hneg, dropWhile_append_stop hpos hneg, List.length_cons,
    hname.lowerAscii_eq]

lemma getLast?_written (l : List (Bytes × Bytes)) : (name ++ writtenAttributes l).getLast? ≠ some (byte '/') := by
  rcases List.eq_nil_or_concat' l with rfl | ⟨l, p, rfl⟩
  · rw [writtenAttributes_nil, List.append_nil]
    intro h
    cases hname.lower _ (List.mem_of_getLast? h)
  · simp [quotedPair, List.getLast?_append, List.getLast?_cons]
    decide

lemma takeTag?_read {w t : Bytes} {l : List (Bytes × Bytes)} (hw : ∃ c u, w ++ 62 :: t = c :: u ∧ endsTagName c = true)
    (hlast : (name ++ w).getLast? ≠ some (byte '/'))
    (hread : ∀ fuel, w.length < fuel → tagAttributesUpTo fuel (w ++ 62 :: t) = some (l, t)) :
    takeTag? (name ++ (w ++ 62 :: t)) = some (⟨name, l, false⟩, t) := by
  obtain ⟨c, u, hu, hc⟩ := hw
  have hlength : w.length < u.length + 2 := by
    have hcons := congrArg List.length hu
    simp only [List.length_append, List.length_cons] at hcons
    omega
  have hall : tagAttributesUpTo (u.length + 2) (c :: u) = some (l, t) := hu ▸ hread _ hlength
  have htake : (name ++ c :: u).take ((name ++ c :: u).length - t.length) = name ++ w ++ [62] := by
    have hform : name ++ c :: u = (name ++ w ++ [62]) ++ t := by simp [← hu]
    rw [hform]
    exact List.take_left' (by simp only [List.length_append]; omega)
  have hopen : ((name ++ w).getLast? == some (byte '/')) = false := beq_false_of_ne hlast
  rw [hu, takeTag?_name hname hc, hall]
  simp only [Option.map_some, htake, List.dropLast_concat, hopen]

lemma takeTag?_written {l : List (Bytes × Bytes)} (hl : ∀ p ∈ l, IsWrittenKey p.1) (t : Bytes) :
    takeTag? (name ++ (writtenAttributes l ++ 62 :: t)) = some (⟨name, l, false⟩, t) := by
  refine takeTag?_read hname (exists_written l t) (getLast?_written hname l) fun fuel hfuel => ?_
  have hlength := length_le_writtenAttributes l
  have henough : fuel = l.length + (fuel - l.length - 1 + 1) := by omega
  rw [henough, tagAttributesUpTo_written hl, tagAttributesUpTo_angle]
  simp

lemma takeTag?_key {l : List (Bytes × Bytes)} (hl : ∀ p ∈ l, IsWrittenKey p.1) {key : Bytes} (hk : IsKey key) (t : Bytes) :
    takeTag? (name ++ (writtenAttributes l ++ 32 :: (key ++ 61 :: t))) = none ∨
      ∃ v more closed after, takeTag? (name ++ (writtenAttributes l ++ 32 :: (key ++ 61 :: t))) =
        some (⟨name, l ++ tagAttribute key v :: more, closed⟩, after) := by
  obtain ⟨c, u, hu, hc⟩ : ∃ c u, writtenAttributes l ++ 32 :: (key ++ 61 :: t) = c :: u ∧ endsTagName c = true := by
    cases l with
    | nil => exact ⟨32, _, rfl, rfl⟩
    | cons p l => exact ⟨32, _, rfl, rfl⟩
  have hlen : l.length ≤ u.length := by
    have hall := length_le_writtenAttributes l
    have hcons := congrArg List.length hu
    simp only [List.length_append, List.length_cons] at hcons
    omega
  have hfuel : u.length + 2 = l.length + (u.length - l.length + 1 + 1) := by omega
  have hread : tagAttributesUpTo (u.length + 2) (c :: u) =
      (tagAttributesUpTo (u.length - l.length + 1 + 1) (key ++ 61 :: t)).map fun r => (l ++ r.1, r.2) := by
    rw [← hu, hfuel, tagAttributesUpTo_written hl, tagAttributesUpTo_space]
  rw [hu, takeTag?_name hname hc, hread]
  rcases tagAttributesUpTo_key hk (u.length - l.length + 1) t with hnone | ⟨v, more, after, hsome⟩
  · exact .inl (by rw [hnone]; rfl)
  · exact .inr ⟨v, more, _, after, by rw [hsome]; rfl⟩

/-! ### Tokens -/

lemma IsTagName.exists_cons : ∃ b rest, name = b :: rest ∧ Bytes.isLetter b = true := by
  obtain ⟨b, rest, rfl⟩ := List.exists_cons_of_ne_nil hname.ne_nil
  exact ⟨b, rest, rfl, by simp [Bytes.isLetter, hname.lower b List.mem_cons_self]⟩

lemma takeMarkup?_name (t : Bytes) :
    takeMarkup? (name ++ t) = (takeTag? (name ++ t)).elim (some none) fun r =>
      if rawTextElements.contains r.1.name then none else some (some (r.1.startToken, r.2)) := by
  obtain ⟨b, rest, rfl, hb⟩ := hname.exists_cons
  have h33 : (b == byte '!') = false := beq_false_of_ne (ne_of_isLetter hb rfl)
  have h63 : (b == byte '?') = false := beq_false_of_ne (ne_of_isLetter hb rfl)
  have h47 : (b == byte '/') = false := beq_false_of_ne (ne_of_isLetter hb rfl)
  simp only [takeMarkup?, List.cons_append, h33, h63, h47, Bool.false_eq_true, if_false]
  cases takeTag? (b :: (rest ++ t)) <;> rfl

lemma tokensUpTo_name (fuel : Nat) (t : Bytes) :
    tokensUpTo (fuel + 1) (60 :: (name ++ t)) = (takeTag? (name ++ t)).elim (some []) fun r =>
      if rawTextElements.contains r.1.name then none
      else (tokensUpTo fuel r.2).map (r.1.startToken :: ·) := by
  have hopens : opensMarkup (name ++ t) = true := by
    obtain ⟨b, rest, rfl, hb⟩ := hname.exists_cons
    simp [opensMarkup, hb]
  have hangle : ((60 : UInt8) == byte '<') = true := rfl
  simp only [tokensUpTo, hangle, hopens, Bool.and_self, if_true, takeMarkup?_name hname]
  cases takeTag? (name ++ t) with
  | none => rfl
  | some r =>
    cases hraw : rawTextElements.contains r.1.name <;> simp only [Option.elim_some, hraw] <;> rfl

lemma tokensUpTo_read (hraw : rawTextElements.contains name = false) {w t : Bytes} {l : List (Bytes × Bytes)}
    (h : takeTag? (name ++ w) = some (⟨name, l, false⟩, t)) (fuel : Nat) :
    tokensUpTo (fuel + 1) (60 :: (name ++ w)) = (tokensUpTo fuel t).map (.startTag name l :: ·) := by
  rw [tokensUpTo_name hname, h]
  simp only [Option.elim_some, hraw, Bool.false_eq_true, if_false]
  rfl

lemma tokensUpTo_startTag (hraw : rawTextElements.contains name = false) {l : List (Bytes × Bytes)}
    (hl : ∀ p ∈ l, IsWrittenKey p.1) (fuel : Nat) (t : Bytes) :
    tokensUpTo (fuel + 1) (60 :: (name ++ (writtenAttributes l ++ 62 :: t))) =
      (tokensUpTo fuel t).map (.startTag name l :: ·) :=
  tokensUpTo_read hname hraw (takeTag?_written hname hl t) fuel

lemma tokensUpTo_endTag (fuel : Nat) (t : Bytes) :
    tokensUpTo (fuel + 1) (60 :: 47 :: (name ++ 62 :: t)) = (tokensUpTo fuel t).map (.endTag name :: ·) := by
  have hread := takeTag?_written hname (l := []) (by simp) t
  obtain ⟨b, rest, rfl, hb⟩ := hname.exists_cons
  have h62 : (b == byte '>') = false := beq_false_of_ne (ne_of_isLetter hb rfl)
  have hangle : ((60 : UInt8) == byte '<') = true := rfl
  have hopens : ∀ u, opensMarkup (47 :: u) = true := fun _ => rfl
  have h33 : ((47 : UInt8) == byte '!') = false := rfl
  have h63 : ((47 : UInt8) == byte '?') = false := rfl
  have h47 : ((47 : UInt8) == byte '/') = true := rfl
  rw [writtenAttributes_nil, List.nil_append] at hread
  simp only [tokensUpTo, hangle, hopens, Bool.and_self, if_true, takeMarkup?, h33, h63, h47, Bool.false_eq_true, if_false,
    List.cons_append, h62, hb]
  rw [← List.cons_append, hread]
  rfl

end Tags

lemma takeText_append {s : Bytes} (hs : 60 ∉ s) (t : Bytes) :
    takeText (s ++ t) = (s ++ (takeText t).1, (takeText t).2) := by
  induction s with
  | nil => rfl
  | cons b s ih =>
    rw [List.mem_cons, not_or] at hs
    have hb : (b == byte '<') = false := beq_false_of_ne fun h => hs.1 h.symm
    simp only [List.cons_append, takeText, hb, Bool.false_and, Bool.false_eq_true, if_false, ih hs.2]

lemma tokensUpTo_text {v t : Bytes} (hv : v ≠ []) (ht : takeText t = ([], t)) (fuel : Nat) :
    tokensUpTo (fuel + 1) (escape v ++ t) = (tokensUpTo fuel t).map (.text v :: ·) := by
  have hmem := angle_notMem_escape v
  have htake : takeText (escape v ++ t) = (escape v, t) := by
    rw [takeText_append hmem, ht, List.append_nil]
  have hne : escape v ≠ [] := by
    obtain ⟨b, v, rfl⟩ := List.exists_cons_of_ne_nil hv
    rw [escape_cons]
    rcases escapeByte_cases b with ⟨-, he⟩ | ⟨name, he, -⟩ <;> rw [he] <;> exact List.cons_ne_nil _ _
  obtain ⟨b, w, hw⟩ := List.exists_cons_of_ne_nil hne
  have hb : (b == byte '<') = false := beq_false_of_ne fun h => hmem (hw ▸ h ▸ List.mem_cons_self)
  rw [hw, List.cons_append] at htake ⊢
  simp only [tokensUpTo, hb, Bool.false_and, Bool.false_eq_true, if_false, htake]
  rw [← hw, convertNewlines_escape, unescape_escape]

end MarkdownTidy.Html
