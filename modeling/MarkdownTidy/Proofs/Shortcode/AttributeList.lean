import MarkdownTidy.Proofs.Html.TagAttributes
import MarkdownTidy.Proofs.Shortcode.SharedNames
import MarkdownTidy.Proofs.Shortcode.ValueEscaping
import MarkdownTidy.Proofs.Text.LetterCase

/-! Attribute lists. What is printed for a list is read back as that list, line ends in its values
apart; and in every list that is read, names are keys and no two agree up to case. -/

namespace MarkdownTidy.Shortcode

open Html

/-! ### Names as written -/

lemma skipWrittenValue?_quoted {v : Bytes} (hv : 34 ∉ v) (t : Bytes) :
    skipWrittenValue? (61 :: 34 :: (v ++ 34 :: t)) = some t := by
  have hq : ∀ b ∈ v, (b != 34) = true := fun b hb => by
    simp only [bne_iff_ne, ne_eq]
    rintro rfl
    exact hv hb
  have hs : (34 != (34 : UInt8)) = false := by decide
  have he : isTagSpace 61 = false := by decide
  have hm : isTagSpace 34 = false := by decide
  simp [skipWrittenValue?, byte, he, hm, dropWhile_append_stop hq hs]

lemma writtenNamesUpTo_space (fuel : Nat) (s : Bytes) :
    writtenNamesUpTo fuel (32 :: s) = writtenNamesUpTo fuel s := by
  cases fuel with
  | zero => rfl
  | succ fuel =>
    conv_lhs => unfold writtenNamesUpTo
    conv_rhs => unfold writtenNamesUpTo
    rfl

lemma writtenNamesUpTo_pair (fuel : Nat) {name v : Bytes} (hk : IsKey name) (hv : 34 ∉ v)
    (t : Bytes) : writtenNamesUpTo (fuel + 1) (quotedPair name v ++ t) =
      name :: writtenNamesUpTo fuel t := by
  have htext : quotedPair name v ++ t = name ++ 61 :: 34 :: (v ++ 34 :: t) := by simp [quotedPair]
  obtain ⟨b, rest, rfl, hs, hslash, hgt, hrest⟩ := hk
  have hr : ∀ c ∈ rest, (!endsKey c) = true := fun c hc => by simp [hrest c hc]
  have he : (!endsKey 61) = false := by decide
  have hgt' : (b == byte '>') = false := by simpa [byte] using hgt
  have hslash' : (b == byte '/') = false := by simpa [byte] using hslash
  rw [htext, writtenNamesUpTo, List.cons_append, List.dropWhile_cons, hs]
  simp only [Bool.false_eq_true, if_false, hgt', hslash']
  rw [takeWhile_append_stop hr he, dropWhile_append_stop hr he]
  simp only [List.head?_cons, skipWrittenValue?_quoted hv]
  rfl

lemma writtenNamesUpTo_pairs {l : List (Bytes × Bytes)} (hk : ∀ p ∈ l, IsKey p.1)
    (hv : ∀ p ∈ l, 34 ∉ p.2) {fuel : Nat} (hf : l.length ≤ fuel) :
    writtenNamesUpTo fuel (l.flatMap fun p => 32 :: quotedPair p.1 p.2) = l.map (·.1) := by
  induction l generalizing fuel with
  | nil => cases fuel <;> rfl
  | cons p l ih =>
    obtain ⟨n, rfl⟩ : ∃ n, fuel = n + 1 := ⟨fuel - 1, by simp at hf; omega⟩
    have hi := @ih (fun q hq => hk q (List.mem_cons_of_mem _ hq))
      (fun q hq => hv q (List.mem_cons_of_mem _ hq)) n (by simpa using hf)
    rw [List.flatMap_cons, List.cons_append, writtenNamesUpTo_space,
      writtenNamesUpTo_pair n (hk p List.mem_cons_self) (hv p List.mem_cons_self), hi, List.map_cons]

lemma isKey_of_mem_writtenNamesUpTo {fuel : Nat} {s name : Bytes}
    (h : name ∈ writtenNamesUpTo fuel s) : IsKey name := by
  induction fuel generalizing s with
  | zero => simp [writtenNamesUpTo] at h
  | succ fuel ih =>
    rw [writtenNamesUpTo] at h
    split at h
    · simp at h
    · rename_i b rest hdrop
      have hs : isTagSpace b = false := by
        have hh := List.head?_dropWhile_not isTagSpace s
        rw [hdrop] at hh
        simpa using hh
      split at h
      · simp at h
      · rename_i hgt
        split at h
        · exact ih h
        · rename_i hslash
          rcases List.mem_cons.mp h with rfl | h
          · refine ⟨b, _, rfl, hs, by simpa [byte] using hslash, by simpa [byte] using hgt, ?_⟩
            intro c hc
            simpa using List.mem_takeWhile_imp hc
          · split at h
            · exact ih h
            · split at h
              · simp at h
              · exact ih h

/-! ### Spelling -/

lemma respell_lowerAscii (l : List (Bytes × Bytes)) (f : Bytes → Bytes) :
    respell (l.map fun p => (Bytes.lowerAscii p.1, f p.2)) (l.map (·.1)) =
      l.map fun p => (p.1, f p.2) := by
  rw [respell, if_pos (by simp), List.zip_map', List.map_map]
  refine List.map_congr_left fun p _ => ?_
  simp [Text.equalFold_lowerAscii]

lemma head?_respell {p q : Bytes × Bytes} {w : Bytes} {parsed : List (Bytes × Bytes)}
    {written : List Bytes} (h : (respell (p :: parsed) (w :: written)).head? = some q) :
    q.1 = w ∨ q.1 = p.1 := by
  rw [respell] at h
  split at h
  · rw [List.zip_cons_cons, List.map_cons, List.head?_cons, Option.some.injEq] at h
    subst h
    simp only
    split
    · exact Or.inl rfl
    · exact Or.inr rfl
  · rw [List.head?_cons, Option.some.injEq] at h
    exact Or.inr (h ▸ rfl)

lemma isKey_of_mem_respell {parsed : List (Bytes × Bytes)} {written : List Bytes}
    (hp : ∀ p ∈ parsed, IsKey p.1) (hw : ∀ w ∈ written, IsKey w) {p : Bytes × Bytes}
    (h : p ∈ respell parsed written) : IsKey p.1 := by
  rw [respell] at h
  split at h
  · obtain ⟨⟨a, w⟩, haw, rfl⟩ := List.mem_map.mp h
    have hz := List.of_mem_zip haw
    simp only
    split
    · exact hw w hz.2
    · exact hp a hz.1
  · exact hp p h

/-! ### Names kept -/

variable (r : Reader) {m : MarkdownAttributes}

lemma keep_eq {l : List (Bytes × Bytes)} {seen : List Bytes} (hm : m.spread = false)
    (hn : ∀ p ∈ l, Text.lower p.1 ∉ m.names) (hd : (l.map fun p => Text.lower p.1).Nodup)
    (hs : ∀ p ∈ l, Text.lower p.1 ∉ seen) :
    r.keep m seen l = (l.map fun p => ⟨p.1, p.2⟩, m) := by
  induction l generalizing seen with
  | nil => rfl
  | cons p l ih =>
    obtain ⟨name, value⟩ := p
    rw [List.map_cons, List.nodup_cons] at hd
    have hseen : seen.contains (Text.lower name) = false := by
      simpa using hs _ List.mem_cons_self
    have hname : m.names.contains (Text.lower name) = false := by
      simpa using hn _ List.mem_cons_self
    have hi := @ih (Text.lower name :: seen) (fun q hq => hn q (List.mem_cons_of_mem _ hq)) hd.2
      (fun q hq => by
        rw [List.mem_cons, not_or]
        refine ⟨fun he => hd.1 ?_, hs q (List.mem_cons_of_mem _ hq)⟩
        exact he ▸ List.mem_map_of_mem hq)
    simp only [Reader.keep, hseen, MarkdownAttributes.observe_fixed hm, hname, hi]
    rfl

lemma mem_keep {l : List (Bytes × Bytes)} {seen : List Bytes} {a : Attribute}
    (h : a ∈ (r.keep m seen l).1) : ∃ p ∈ l, p.1 = a.name := by
  induction l generalizing seen m with
  | nil => simp [Reader.keep] at h
  | cons p l ih =>
    obtain ⟨name, value⟩ := p
    rw [Reader.keep] at h
    simp only at h
    split at h
    · obtain ⟨q, hq, he⟩ := ih h
      exact ⟨q, List.mem_cons_of_mem _ hq, he⟩
    · rcases List.mem_cons.mp h with rfl | h
      · exact ⟨_, List.mem_cons_self, rfl⟩
      · obtain ⟨q, hq, he⟩ := ih h
        exact ⟨q, List.mem_cons_of_mem _ hq, he⟩

lemma keep_names (l : List (Bytes × Bytes)) (seen : List Bytes) :
    ((r.keep m seen l).1.map fun a => Text.lower a.name).Nodup ∧
      ∀ a ∈ (r.keep m seen l).1, Text.lower a.name ∉ seen := by
  induction l generalizing seen m with
  | nil => simp [Reader.keep]
  | cons p l ih =>
    obtain ⟨name, value⟩ := p
    rw [Reader.keep]
    simp only
    split
    · exact ih seen
    · rename_i hseen
      obtain ⟨hnodup, hnot⟩ := @ih (m.observe name).2 (Text.lower name :: seen)
      refine ⟨?_, ?_⟩
      · rw [List.map_cons, List.nodup_cons]
        refine ⟨?_, hnodup⟩
        intro hmem
        obtain ⟨a, ha, he⟩ := List.mem_map.mp hmem
        exact hnot a ha (by simp [he])
      · intro a ha
        rcases List.mem_cons.mp ha with rfl | ha
        · simpa using hseen
        · exact fun hm => hnot a ha (List.mem_cons_of_mem _ hm)

lemma head?_keep {l : List (Bytes × Bytes)} {a : Attribute}
    (h : (r.keep m [] l).1.head? = some a) : ∃ p, l.head? = some p ∧ p.1 = a.name := by
  cases l with
  | nil => simp [Reader.keep] at h
  | cons p l =>
    rw [Reader.keep] at h
    simp only [List.contains_nil, Bool.false_eq_true, if_false, List.head?_cons,
      Option.some.injEq] at h
    exact ⟨p, rfl, h ▸ rfl⟩

/-! ### Printed lists -/

lemma printAttribute_eq (a : Attribute) :
    printAttribute a = quotedPair a.name (escapeValue a.value) := rfl

lemma printAttributes_singleton (a : Attribute) : printAttributes [a] = printAttribute a := by
  simp [printAttributes, Bytes.join]

lemma printAttributes_cons_cons (a b : Attribute) (attrs : Attributes) :
    printAttributes (a :: b :: attrs) = printAttribute a ++ 32 :: printAttributes (b :: attrs) := by
  simp [printAttributes, Bytes.join, List.intercalate_cons_cons, show utf8 " " = [32] from rfl]

lemma cons_printAttributes {attrs : Attributes} (h : attrs ≠ []) :
    32 :: printAttributes attrs =
      (attrs.map fun a => (a.name, escapeValue a.value)).flatMap fun p => 32 :: quotedPair p.1 p.2 := by
  induction attrs with
  | nil => contradiction
  | cons a attrs ih =>
    cases attrs with
    | nil => simp [printAttributes_singleton, printAttribute_eq]
    | cons b attrs =>
      rw [printAttributes_cons_cons, ih (by simp), printAttribute_eq]
      rfl

lemma printAttributes_eq_append {attrs : Attributes} (h : attrs ≠ []) :
    ∃ s, printAttributes attrs = s ++ [34] := by
  induction attrs with
  | nil => contradiction
  | cons a attrs ih =>
    cases attrs with
    | nil => exact ⟨_, printAttributes_singleton a⟩
    | cons b attrs =>
      obtain ⟨s, hs⟩ := ih (by simp)
      exact ⟨printAttribute a ++ 32 :: s, by simp [printAttributes_cons_cons, hs]⟩

lemma printAttributes_cons (value : Bytes) (attrs : Attributes) :
    ∃ s, ∀ name, printAttributes (⟨name, value⟩ :: attrs) = name ++ 61 :: (s ++ [34]) := by
  cases attrs with
  | nil =>
    refine ⟨34 :: escapeValue value, fun name => ?_⟩
    simp [printAttributes_singleton, printAttribute_eq, quotedPair]
  | cons b attrs =>
    obtain ⟨s, hs⟩ := printAttributes_eq_append (List.cons_ne_nil b attrs)
    refine ⟨34 :: escapeValue value ++ 34 :: 32 :: s, fun name => ?_⟩
    simp [printAttributes_cons_cons, hs, printAttribute_eq, quotedPair]

lemma length_le_flatMap (l : List (Bytes × Bytes)) :
    l.length ≤ (l.flatMap fun p => 32 :: quotedPair p.1 p.2).length := by
  induction l with
  | nil => simp
  | cons p l ih =>
    simp only [List.flatMap_cons, List.length_append, List.length_cons] at ih ⊢
    omega

lemma attributes?_printAttributes {attrs : Attributes} (hk : ∀ a ∈ attrs, IsKey a.name) :
    r.attributes? m (printAttributes attrs) =
      (some (r.keep m [] (attrs.map fun a => (a.name, convertNewlines a.value))).1,
        (r.keep m [] (attrs.map fun a => (a.name, convertNewlines a.value))).2) := by
  by_cases hne : attrs = []
  · subst hne
    rfl
  have hkey : ∀ p ∈ attrs.map (fun a => (a.name, escapeValue a.value)), IsKey p.1 := by
    intro p hp
    obtain ⟨a, ha, rfl⟩ := List.mem_map.mp hp
    exact hk a ha
  have hquote : ∀ p ∈ attrs.map (fun a => (a.name, escapeValue a.value)), 34 ∉ p.2 := by
    intro p hp
    obtain ⟨a, -, rfl⟩ := List.mem_map.mp hp
    exact quote_notMem_escapeValue a.value
  have hlen := length_le_flatMap (attrs.map fun a => (a.name, escapeValue a.value))
  rw [← cons_printAttributes hne, List.length_cons] at hlen
  have htags : tagAttributes? (printAttributes attrs ++ utf8 " />") =
      some ((attrs.map fun a => (a.name, escapeValue a.value)).map fun p =>
        (Bytes.lowerAscii p.1, unescape true (convertNewlines p.2))) := by
    rw [tagAttributes?, ← tagAttributesUpTo_space, ← List.cons_append, cons_printAttributes hne]
    rw [show utf8 " />" = [32, 47, 62] from rfl, tagAttributesUpTo_pairs hkey hquote]
    · rfl
    · simp only [List.length_append, List.length_cons, List.length_nil]
      omega
  have hnames : writtenNames (printAttributes attrs) =
      (attrs.map fun a => (a.name, escapeValue a.value)).map (·.1) := by
    rw [writtenNames, ← writtenNamesUpTo_space, cons_printAttributes hne,
      writtenNamesUpTo_pairs hkey hquote hlen]
  have hspelled := respell_lowerAscii (attrs.map fun a => (a.name, escapeValue a.value))
    fun v => unescape true (convertNewlines v)
  rw [Reader.attributes?, htags]
  simp only [hnames, hspelled]
  simp only [List.map_map, Function.comp_def, convertNewlines_escapeValue, unescape_escapeValue]

/-! ### Lists that were read -/

lemma attributes?_eq_none_iff {raw : Bytes} :
    (r.attributes? m raw).1 = none ↔ tagAttributes? (raw ++ utf8 " />") = none := by
  rw [Reader.attributes?]
  cases tagAttributes? (raw ++ utf8 " />") <;> simp

lemma isKey_of_mem_attributes? {raw : Bytes} {attrs : Attributes}
    (h : (r.attributes? m raw).1 = some attrs) {a : Attribute} (ha : a ∈ attrs) : IsKey a.name := by
  rw [Reader.attributes?] at h
  split at h
  · simp at h
  · rename_i parsed hparsed
    obtain ⟨⟨l, t⟩, hl, rfl⟩ := Option.map_eq_some_iff.mp hparsed
    simp only [Option.some.injEq] at h
    subst h
    obtain ⟨p, hp, he⟩ := mem_keep r ha
    rw [← he]
    exact isKey_of_mem_respell (fun q hq => isKey_of_mem_tagAttributesUpTo hl hq)
      (fun w hw => isKey_of_mem_writtenNamesUpTo hw) hp

lemma nodup_attributes? {raw : Bytes} {attrs : Attributes}
    (h : (r.attributes? m raw).1 = some attrs) : (attrs.map fun a => Text.lower a.name).Nodup := by
  rw [Reader.attributes?] at h
  split at h
  · simp at h
  · simp only [Option.some.injEq] at h
    subst h
    exact (keep_names r _ _).1

end MarkdownTidy.Shortcode
