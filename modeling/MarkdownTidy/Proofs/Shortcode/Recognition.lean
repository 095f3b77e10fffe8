import MarkdownTidy.Proofs.Bytes.Search
import MarkdownTidy.Proofs.Shortcode.RoundTrip

/-! Where a shortcode is recognized. It spans the opening delimiter, the text up to the first closing
delimiter behind it, and that delimiter; what follows has no part in it. -/

namespace MarkdownTidy.Shortcode

variable {r : Reader} {m : MarkdownAttributes} {value inner : Bytes} {sc : Shortcode}

/-- What stands between the opening delimiter of a text and the first closing one behind it. -/
def Reader.Encloses (r : Reader) (value inner : Bytes) : Prop :=
  r.opening ++ inner ++ r.closing <+: value ∧
    ∀ other, r.opening ++ other ++ r.closing <+: value → inner.length ≤ other.length

lemma Reader.encloses_append {body : Bytes} :
    r.Encloses (r.opening ++ body) inner ↔
      Bytes.find? r.closing body = some inner.length ∧ inner <+: body := by
  simp only [Bytes.find?_eq_some_iff, Reader.Encloses, List.append_assoc,
    List.prefix_append_right_inj]

lemma Reader.Encloses.append (h : r.Encloses value inner) (t : Bytes) :
    r.Encloses (r.opening ++ inner ++ r.closing ++ t) inner := by
  refine ⟨List.prefix_append _ t, fun other hother => ?_⟩
  by_contra! hlt
  -- An earlier closing delimiter would lie in the part that both texts share.
  have hshort : r.opening ++ other ++ r.closing <+: r.opening ++ inner ++ r.closing :=
    List.prefix_of_prefix_length_le hother (List.prefix_append _ t) (by simp; omega)
  exact absurd (h.2 other (hshort.trans h.1)) (by omega)

/-! ### The reader of what is enclosed -/

lemma tokenize?_of_encloses (h : r.Encloses value inner) :
    r.tokenize? m value =
      ((r.parse? m inner).1.map fun sc => (r.opening.length + inner.length + r.closing.length, sc),
        (r.parse? m inner).2) := by
  obtain ⟨body, rfl⟩ : r.opening <+: value :=
    ((List.prefix_append _ _).trans (List.prefix_append _ _)).trans h.1
  obtain ⟨hfind, hinner⟩ := Reader.encloses_append.mp h
  have hopening : r.opening.isPrefixOf (r.opening ++ body) = true :=
    List.isPrefixOf_iff_prefix.mpr (List.prefix_append _ _)
  simp only [Reader.tokenize?, hopening, Bool.not_true, Bool.false_eq_true, if_false, List.drop_left,
    hfind, ← List.prefix_iff_eq_take.mp hinner]
  rcases r.parse? m inner with ⟨_ | sc, m'⟩ <;> rfl

lemma tokenize?_of_not_encloses (h : ∀ inner, ¬ r.Encloses value inner) :
    r.tokenize? m value = (none, m) := by
  rw [Reader.tokenize?]
  split
  · rfl
  · rename_i hopening
    obtain ⟨body, rfl⟩ : r.opening <+: value := by simpa using hopening
    simp only [List.drop_left]
    cases hfind : Bytes.find? r.closing body with
    | none => rfl
    | some k =>
      have hlen : (body.take k).length = k := List.length_take_of_le (Bytes.find?_le_length hfind)
      exact absurd (Reader.encloses_append.mpr ⟨by rw [hlen, hfind], List.take_prefix k body⟩)
        (h (body.take k))

lemma attributes?_eq_none {raw : Bytes} (h : (r.attributes? m raw).1 = none) :
    r.attributes? m raw = (none, m) := by
  rw [Reader.attributes?, (attributes?_eq_none_iff r).mp h]

lemma parse?_eq_none (h : (r.parse? m inner).1 = none) : (r.parse? m inner).2 = m := by
  rw [Reader.parse?] at h ⊢
  split
  · rfl
  · rename_i hne
    rw [if_neg hne] at h
    generalize splitName (Utf8.codePoints (Text.trimSpace inner)) = split at h ⊢
    rcases split with ⟨name, _ | rest⟩
    · rfl
    · have hattrs := @attributes?_eq_none r m rest
      simp only at h ⊢
      generalize r.attributes? m rest = read at h hattrs ⊢
      rcases read with ⟨_ | attrs, m'⟩
      · exact congrArg Prod.snd (hattrs rfl)
      · cases h

/-! ### Tokens -/

lemma tokenize_eq (silent : Bool) :
    r.tokenize m value silent =
      (match (r.tokenize? m value).1 with
        | none => ⟨0, none, false⟩
        | some (n, sc) => if silent then ⟨0, none, true⟩ else ⟨n, some sc, true⟩,
        (r.tokenize? m value).2) := by
  rw [Reader.tokenize]
  rcases r.tokenize? m value with ⟨_ | ⟨n, sc⟩, m'⟩ <;> rfl

lemma tokenize_of_encloses (h : r.Encloses value inner) (hsc : (r.parse? m inner).1 = some sc) :
    r.tokenize m value false =
      (⟨r.opening.length + inner.length + r.closing.length, some sc, true⟩, (r.parse? m inner).2) := by
  rw [tokenize_eq, tokenize?_of_encloses h, hsc]
  rfl

lemma tokenize_eq_none (h : ∀ inner, r.Encloses value inner → (r.parse? m inner).1 = none)
    (silent : Bool) : r.tokenize m value silent = (⟨0, none, false⟩, m) := by
  have hnone : r.tokenize? m value = (none, m) := by
    by_cases hin : ∃ inner, r.Encloses value inner
    · obtain ⟨inner, hinner⟩ := hin
      rw [tokenize?_of_encloses hinner, h inner hinner, parse?_eq_none (h inner hinner)]
      rfl
    · exact tokenize?_of_not_encloses (not_exists.mp hin)
  rw [tokenize_eq, hnone]

lemma found_tokenize_iff (silent : Bool) : (r.tokenize m value silent).1.found = true ↔
    ∃ inner, r.Encloses value inner ∧ (r.parse? m inner).1.isSome = true := by
  by_cases h : ∃ inner, r.Encloses value inner ∧ (r.parse? m inner).1.isSome = true
  · obtain ⟨inner, hinner, hsome⟩ := h
    obtain ⟨sc, hsc⟩ := Option.isSome_iff_exists.mp hsome
    refine iff_of_true ?_ ⟨inner, hinner, hsome⟩
    rw [tokenize_eq, tokenize?_of_encloses hinner, hsc]
    cases silent <;> rfl
  · refine iff_of_false ?_ h
    rw [tokenize_eq_none fun inner hinner => by simpa using fun hs => h ⟨inner, hinner, hs⟩]
    simp

/-- A shortcode is found exactly when the text begins with the opening delimiter, a closing delimiter
follows, and what stands before the first of these reads as a shortcode. It spans both delimiters and
what they enclose, and is the same before any other text. A silent call finds the same and tells no
more, and a call that finds nothing leaves the names alone. -/
theorem tokenize_spans (r : Reader) (m : MarkdownAttributes) (value : Bytes) :
    ((r.tokenize m value false).1.found = true ↔
      ∃ inner, r.Encloses value inner ∧ (r.parse? m inner).1.isSome = true) ∧
    (∀ inner sc, r.Encloses value inner → (r.parse? m inner).1 = some sc →
      let n := r.opening.length + inner.length + r.closing.length
      r.tokenize m value false = (⟨n, some sc, true⟩, (r.parse? m inner).2) ∧
      n ≤ value.length ∧ r.opening ++ inner ++ r.closing <+: value ∧
      (∀ t, r.tokenize m (value.take n ++ t) false = r.tokenize m value false) ∧
      sc.identifier ≠ [] ∧ Text.Unspaced sc.identifier ∧
      (sc.attributes.map fun a => Text.lower a.name).Nodup) ∧
    r.tokenize m value true =
      (⟨0, none, (r.tokenize m value false).1.found⟩, (r.tokenize m value false).2) ∧
    ∀ silent, (r.tokenize m value silent).1.found = false →
      r.tokenize m value silent = (⟨0, none, false⟩, m) := by
  refine ⟨found_tokenize_iff false, fun inner sc hinner hsc => ?_, ?_, fun silent h => ?_⟩
  · obtain ⟨hid, hsp, -, -⟩ := parse?_spec hsc
    have htake : value.take (r.opening.length + inner.length + r.closing.length) =
        r.opening ++ inner ++ r.closing := by
      rw [← List.length_append, ← List.length_append, ← List.prefix_iff_eq_take.mp hinner.1]
    refine ⟨tokenize_of_encloses hinner hsc, ?_, hinner.1, fun t => ?_, hid, hsp,
      (attributes_of_parse? hsc).2⟩
    · simpa only [List.length_append] using hinner.1.length_le
    · rw [htake, tokenize_of_encloses (hinner.append t) hsc, tokenize_of_encloses hinner hsc]
  · rw [tokenize_eq, tokenize_eq]
    rcases (r.tokenize? m value).1 with _ | ⟨n, sc⟩ <;> rfl
  · refine tokenize_eq_none (fun inner hinner => ?_) silent
    by_contra hsome
    have hfound := (found_tokenize_iff silent).mpr ⟨inner, hinner, Option.isSome_iff_ne_none.mpr hsome⟩
    rw [h] at hfound
    cases hfound

/-- A closing delimiter that overlaps with itself, and another one behind it. -/
theorem tokenize_spans_overlapping :
    let r := Reader.new (utf8 "[") (utf8 "]]") id
    let sc : Shortcode := ⟨utf8 "x", [⟨utf8 "A", utf8 "1"⟩]⟩
    r.Encloses (utf8 "[x A=1]]] y]]") (utf8 "x A=1") ∧
      (r.parse? ⟨true, []⟩ (utf8 "x A=1")).1 = some sc ∧
      ∀ t, r.tokenize ⟨true, []⟩ (utf8 "[x A=1]]" ++ t) false =
        (⟨8, some sc, true⟩, ⟨true, [utf8 "a"]⟩) := by
  intro r sc
  have henclosed : r.Encloses (r.opening ++ utf8 "x A=1]]] y]]") (utf8 "x A=1") :=
    Reader.encloses_append.mpr (by decide)
  have hparse : r.parse? ⟨true, []⟩ (utf8 "x A=1") = (some sc, ⟨true, [utf8 "a"]⟩) := by
    decide +kernel
  obtain ⟨htoken, -, -, hrest, -⟩ :=
    (tokenize_spans r ⟨true, []⟩ _).2.1 _ sc henclosed (by rw [hparse])
  refine ⟨henclosed, by rw [hparse], fun t => ?_⟩
  rw [hparse] at htoken
  exact (hrest t).trans htoken

end MarkdownTidy.Shortcode
