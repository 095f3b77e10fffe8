import Mathlib.Tactic.Common
import MarkdownTidy.Shortcode.Reader

/-! Which part of a set of markdown-bearing names shortcodes can see. Whatever a spreading set holds,
it says yes to every name, so all spreading sets read a text alike; a fixed set stays as it is. -/

namespace MarkdownTidy

namespace MarkdownAttributes

variable {m : MarkdownAttributes}

lemma mem_insertName {name n : Bytes} {names : List Bytes} :
    n ∈ insertName name names ↔ n = name ∨ n ∈ names := by
  induction names with
  | nil => simp [insertName]
  | cons k ks ih =>
    rw [insertName]
    split
    · rename_i he
      rw [eq_of_beq he, List.mem_cons, or_self_left]
    · split
      · rw [List.mem_cons]
      · rw [List.mem_cons, ih, List.mem_cons, or_left_comm]

lemma observe_spreading (hm : m.spread = true) (name : Bytes) :
    m.observe name = (true, m.add [name]) := by
  have hmem : Text.lower name ∈ (m.add [name]).names := mem_insertName.mpr (.inl rfl)
  simp [observe, hm, hmem]

lemma observe_fixed (hm : m.spread = false) (name : Bytes) :
    m.observe name = (m.names.contains (Text.lower name), m) := by
  simp [observe, hm]

end MarkdownAttributes

namespace Shortcode

def SameAnswer {α : Type} (x y : α × MarkdownAttributes) : Prop :=
  x.1 = y.1 ∧ x.2.spread = true ∧ y.2.spread = true

variable (r : Reader) {m n : MarkdownAttributes}

section Spreading

variable (hm : m.spread = true) (hn : n.spread = true)
include hm hn

lemma keep_sameAnswer (seen : List Bytes) (l : List (Bytes × Bytes)) :
    SameAnswer (r.keep m seen l) (r.keep n seen l) := by
  induction l generalizing m n seen with
  | nil => exact ⟨rfl, hm, hn⟩
  | cons p l ih =>
    obtain ⟨name, value⟩ := p
    by_cases hs : seen.contains (Text.lower name) = true
    · simpa only [Reader.keep, hs, if_true] using ih hm hn seen
    · obtain ⟨he, hm', hn'⟩ := ih (show (m.add [name]).spread = true from hm)
        (show (n.add [name]).spread = true from hn) (Text.lower name :: seen)
      simp only [Reader.keep, hs, MarkdownAttributes.observe_spreading hm,
        MarkdownAttributes.observe_spreading hn, he, SameAnswer]
      exact ⟨rfl, hm', hn'⟩

lemma attributes?_sameAnswer (raw : Bytes) :
    SameAnswer (r.attributes? m raw) (r.attributes? n raw) := by
  rw [Reader.attributes?, Reader.attributes?]
  cases Html.tagAttributes? (raw ++ utf8 " />") with
  | none => exact ⟨rfl, hm, hn⟩
  | some parsed =>
    obtain ⟨he, hm', hn'⟩ := keep_sameAnswer r hm hn [] (respell parsed (writtenNames raw))
    exact ⟨congrArg some he, hm', hn'⟩

lemma parse?_sameAnswer (inner : Bytes) : SameAnswer (r.parse? m inner) (r.parse? n inner) := by
  rw [Reader.parse?, Reader.parse?]
  split
  · exact ⟨rfl, hm, hn⟩
  · rcases splitName (Utf8.codePoints (Text.trimSpace inner)) with ⟨name, _ | rest⟩
    · exact ⟨rfl, hm, hn⟩
    · have h := attributes?_sameAnswer r hm hn rest
      revert h
      simp only
      rcases r.attributes? m rest with ⟨x, m'⟩
      rcases r.attributes? n rest with ⟨y, n'⟩
      rintro ⟨rfl, hm', hn'⟩
      cases x <;> exact ⟨rfl, hm', hn'⟩

lemma tokenize?_sameAnswer (value : Bytes) :
    SameAnswer (r.tokenize? m value) (r.tokenize? n value) := by
  rw [Reader.tokenize?, Reader.tokenize?]
  split
  · exact ⟨rfl, hm, hn⟩
  · simp only
    cases Bytes.find? r.closing (value.drop r.opening.length) with
    | none => exact ⟨rfl, hm, hn⟩
    | some k =>
      have h := parse?_sameAnswer r hm hn ((value.drop r.opening.length).take k)
      revert h
      simp only
      rcases r.parse? m _ with ⟨x, m'⟩
      rcases r.parse? n _ with ⟨y, n'⟩
      rintro ⟨rfl, hm', hn'⟩
      cases x <;> exact ⟨rfl, hm', hn'⟩

end Spreading

section Fixed

variable (hm : m.spread = false)
include hm

lemma keep_fixed (seen : List Bytes) (l : List (Bytes × Bytes)) : (r.keep m seen l).2 = m := by
  induction l generalizing seen with
  | nil => rfl
  | cons p l ih =>
    rw [Reader.keep]
    simp only [MarkdownAttributes.observe_fixed hm]
    split
    · exact ih seen
    · exact ih _

lemma attributes?_fixed (raw : Bytes) : (r.attributes? m raw).2 = m := by
  rw [Reader.attributes?]
  split
  · rfl
  · exact keep_fixed r hm _ _

lemma parse?_fixed (inner : Bytes) : (r.parse? m inner).2 = m := by
  rw [Reader.parse?]
  split
  · rfl
  · rcases splitName (Utf8.codePoints (Text.trimSpace inner)) with ⟨name, _ | rest⟩
    · rfl
    · have h := attributes?_fixed r hm rest
      rcases he : r.attributes? m rest with ⟨_ | attrs, m'⟩ <;> simpa only [he] using h

lemma tokenize?_fixed (value : Bytes) : (r.tokenize? m value).2 = m := by
  rw [Reader.tokenize?]
  split
  · rfl
  · simp only
    cases Bytes.find? r.closing (value.drop r.opening.length) with
    | none => rfl
    | some k =>
      have h := parse?_fixed r hm ((value.drop r.opening.length).take k)
      rcases he : r.parse? m ((value.drop r.opening.length).take k) with ⟨_ | sc, m'⟩ <;>
        simpa only [he] using h

end Fixed

end Shortcode

end MarkdownTidy
