import Mathlib.Tactic.Common
import MarkdownTidy.Html.Element

/-! Pages in which elements are missing. Nothing is written for a missing element, and it stops nothing, with one
exception: an element that is written with its content must not have a missing element for its only child. -/

namespace MarkdownTidy.Html.Element

variable {depth : Int} {tag : Bytes} {attributes : List (Bytes × Bytes)} {children : List Element} {e c : Element}

def HasContent (tag : Bytes) : Prop := tag ≠ [] ∧ voidTags.contains tag = false

/-- Whether an element is written when another one is: it is that one, or stands in its content. -/
inductive Writes : Element → Element → Prop
  | self (e : Element) : Writes e e
  | content {tag : Bytes} {attributes : List (Bytes × Bytes)} {children : List Element} {c e : Element}
    (htag : HasContent tag) (hc : c ∈ children) (h : Writes c e) : Writes (.tagged tag attributes children) e

def IsVacant (e : Element) : Prop := ∃ tag attributes, HasContent tag ∧ e = .tagged tag attributes [.missing]

/-! ### One element -/

lemma render_tagged (h : HasContent tag) (depth : Int) : render depth (.tagged tag attributes children) =
    (shortContent children).bind fun short =>
      match short with
      | some content => .ok (indentation depth ++ openingTag tag attributes ++ content ++ (utf8 "</" ++ tag ++ utf8 ">\n"))
      | none => (renderAll (depth + 1) children).map fun inner =>
          indentation depth ++ openingTag tag attributes ++ utf8 "\n" ++ inner ++ indentation depth ++
            (utf8 "</" ++ tag ++ utf8 ">\n") := by
  have hne : tag.isEmpty = false := by simpa using h.1
  simp only [render, hne, h.2, Bool.false_eq_true, if_false]
  cases shortContent children with
  | error x => rfl
  | ok short =>
    cases short with
    | some content => rfl
    | none => cases renderAll (depth + 1) children <;> rfl

lemma exists_render_of_not_hasContent (h : ¬ HasContent tag) (depth : Int) :
    ∃ out, render depth (.tagged tag attributes children) = .ok out := by
  rw [render]
  by_cases hnil : tag = []
  · exact ⟨textLines depth [], by simp [hnil]⟩
  · have hvoid : voidTags.contains tag = true := by simpa [HasContent, hnil] using h
    have hne : tag.isEmpty = false := by simpa using hnil
    simp only [hne, hvoid, Bool.false_eq_true, if_false, if_true, Except.ok.injEq, exists_eq']

def IsText (e : Element) : Prop := (∃ content, e = .text content) ∨ ∃ attributes children, e = .tagged [] attributes children

lemma IsText.exists_render (h : IsText e) (depth : Int) : ∃ out, render depth e = .ok out := by
  obtain ⟨content, rfl⟩ | ⟨attributes, children, rfl⟩ := h
  · exact ⟨_, rfl⟩
  · exact exists_render_of_not_hasContent (fun h => h.1 rfl) depth

lemma shortContent_cases (children : List Element) :
    (children = [.missing] ∧ shortContent children = .error .missingChild) ∨ shortContent children = .ok none ∨
      ∃ t, shortContent children = .ok (some (escape t)) ∧ ∀ c ∈ children, IsText c := by
  fun_cases shortContent children with
  | case1 => exact .inr (.inr ⟨[], rfl, by simp⟩)
  | case2 => exact .inl ⟨rfl, rfl⟩
  | case3 content hlong => exact .inr (.inl rfl)
  | case4 content hshort => exact .inr (.inr ⟨Text.trimSpace content, rfl, by simp [IsText]⟩)
  | case5 attributes children => exact .inr (.inr ⟨[], rfl, by simp [IsText]⟩)
  | case6 => exact .inr (.inl rfl)

/-! ### Trees -/

lemma renderAll_eq_error {x : RenderError} (hc : c ∈ children) (h : render depth c = .error x) :
    ∃ y, renderAll depth children = .error y := by
  induction children with
  | nil => cases hc
  | cons d children ih =>
    rw [renderAll]
    cases hd : render depth d with
    | error y => exact ⟨y, rfl⟩
    | ok s =>
      rcases List.mem_cons.mp hc with rfl | hc
      · rw [hd] at h
        cases h
      · obtain ⟨y, hy⟩ := ih hc
        exact ⟨y, by simp only [hy]⟩

lemma Writes.exists_error (h : Writes e c) (hc : IsVacant c) (depth : Int) : ∃ x, render depth e = .error x := by
  induction h generalizing depth with
  | self e =>
    obtain ⟨tag, attributes, htag, rfl⟩ := hc
    exact ⟨.missingChild, by rw [render_tagged htag]; rfl⟩
  | @content tag attributes children d e htag hd h ih =>
    obtain ⟨x, hx⟩ := ih hc (depth + 1)
    rw [render_tagged htag]
    rcases shortContent_cases children with ⟨-, hshort⟩ | hshort | ⟨t, -, htext⟩
    · exact ⟨.missingChild, by rw [hshort]; rfl⟩
    · obtain ⟨y, hy⟩ := renderAll_eq_error hd hx
      exact ⟨y, by simp only [hshort, Except.bind, hy, Except.map]⟩
    · obtain ⟨out, hout⟩ := (htext d hd).exists_render (depth + 1)
      rw [hout] at hx
      cases hx

mutual

lemma exists_render (e : Element) (h : ∀ c, Writes e c → ¬ IsVacant c) (depth : Int) : ∃ out, render depth e = .ok out := by
  match e with
  | .missing => exact ⟨[], rfl⟩
  | .text content => exact ⟨_, rfl⟩
  | .raw content => exact ⟨_, rfl⟩
  | .tagged tag attributes children =>
    by_cases htag : HasContent tag
    · rw [render_tagged htag]
      rcases shortContent_cases children with ⟨rfl, -⟩ | hshort | ⟨t, hshort, -⟩
      · exact absurd ⟨tag, attributes, htag, rfl⟩ (h _ (.self _))
      · obtain ⟨inner, hinner⟩ := exists_renderAll children (fun c hc d hd => h d (.content htag hc hd)) (depth + 1)
        exact ⟨_, by simp only [hshort, Except.bind, hinner, Except.map]; rfl⟩
      · exact ⟨_, by rw [hshort]; rfl⟩
    · exact exists_render_of_not_hasContent htag depth

lemma exists_renderAll (es : List Element) (h : ∀ e ∈ es, ∀ c, Writes e c → ¬ IsVacant c) (depth : Int) :
    ∃ out, renderAll depth es = .ok out := by
  match es with
  | [] => exact ⟨[], rfl⟩
  | e :: es =>
    rw [List.forall_mem_cons] at h
    obtain ⟨s, hs⟩ := exists_render e h.1 depth
    obtain ⟨rest, hrest⟩ := exists_renderAll es h.2 depth
    exact ⟨s ++ rest, by rw [renderAll, hs, hrest]⟩

end

/-- A missing page is written as nothing. Any other is written, wherever elements are missing in it, exactly if no
element is written in it whose content is a single missing element. -/
theorem render_missing_iff (depth : Int) : render depth .missing = .ok [] ∧
    ∀ e, (∃ out, render depth e = .ok out) ↔ ∀ c, Writes e c → ¬ IsVacant c := by
  refine ⟨rfl, fun e => ⟨?_, fun h => exists_render e h depth⟩⟩
  rintro ⟨out, hout⟩ c hc hvacant
  obtain ⟨x, hx⟩ := hc.exists_error hvacant depth
  rw [hout] at hx
  cases hx

/-- Between other children, and in pairs, missing elements do no harm. -/
theorem render_missing_iff_scattered :
    let page : Element := .tagged (utf8 "div") [] [.missing, .tagged (utf8 "p") [] [.missing, .missing], .text (utf8 "a")]
    render 0 page = .ok (utf8 "<div>\n    <p>\n    </p>\n    a\n</div>\n") ∧ ∀ c, Writes page c → ¬ IsVacant c := by
  have h : render 0 (.tagged (utf8 "div") [] [.missing, .tagged (utf8 "p") [] [.missing, .missing], .text (utf8 "a")]) =
      .ok (utf8 "<div>\n    <p>\n    </p>\n    a\n</div>\n") := by rfl
  exact ⟨h, ((render_missing_iff 0).2 _).mp ⟨_, h⟩⟩

/-- One missing child is too many where two are not. -/
theorem render_sole_missing :
    render 0 (.tagged (utf8 "div") [] [.missing]) = .error .missingChild ∧
      render 0 (.tagged (utf8 "div") [] [.missing, .missing]) = .ok (utf8 "<div>\n</div>\n") :=
  ⟨rfl, rfl⟩

end MarkdownTidy.Html.Element
