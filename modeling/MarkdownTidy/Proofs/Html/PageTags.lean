import MarkdownTidy.Html.Element
import MarkdownTidy.Proofs.Bytes.Cutting
import MarkdownTidy.Proofs.Html.MissingElements
import MarkdownTidy.Proofs.Html.Tokens

/-! The tags of a written page. The tokenizer finds the tags of the tree in the page, in the order of the tree and
with their attributes sorted by name, and no other markup: whatever texts and values hold, they stay texts and
values. An attribute with the empty value is written as its name alone, and is read like the others: behind the name
the tag ends, or another name follows. -/

namespace MarkdownTidy

namespace Bytes

lemma le_iff (s t : Bytes) : le s t = true ↔ s ≤ t := by
  induction s generalizing t with
  | nil => simp [le]
  | cons a s ih =>
    cases t with
    | nil => simp [le]
    | cons b t =>
      rw [le, List.cons_le_cons_iff]
      by_cases hlt : a < b
      · simp [hlt]
      · by_cases hgt : b < a
        · have hne : a ≠ b := by
            rintro rfl
            exact hlt hgt
          simp [hlt, hgt, hne]
        · have heq : a = b := UInt8.le_antisymm (UInt8.not_lt.mp hgt) (UInt8.not_lt.mp hlt)
          simp [heq, ih]

end Bytes

namespace Html

/-! ### Reading what is not quoted -/

def EndsBare (t : Bytes) : Prop := (∃ u, t = 62 :: u) ∨ ∃ c u, t = 32 :: c :: u ∧ endsKey c = false

lemma tagAttributesUpTo_bare (fuel : Nat) {name t : Bytes} (hk : IsKey name) (ht : EndsBare t) :
    tagAttributesUpTo (fuel + 1) (name ++ t) = (tagAttributesUpTo fuel t).map fun r => (tagAttribute name [] :: r.1, r.2) := by
  obtain ⟨c, u, rfl, hends⟩ : ∃ c u, t = c :: u ∧ endsKey c = true := by
    obtain ⟨u, rfl⟩ | ⟨c, u, rfl, -⟩ := ht
    · exact ⟨62, u, rfl, rfl⟩
    · exact ⟨32, c :: u, rfl, rfl⟩
  -- no equals sign is found, and what was skipped on the way to it would have been skipped later
  obtain ⟨v, hvalue, hrest⟩ : ∃ v, takeValue? (c :: u) = some ([], v) ∧
      tagAttributesUpTo fuel v = tagAttributesUpTo fuel (c :: u) := by
    obtain ⟨u', heq⟩ | ⟨d, u', heq, hd⟩ := ht
    · rw [heq]
      exact ⟨62 :: u', rfl, rfl⟩
    · rw [heq]
      simp only [endsKey_eq, Bool.or_eq_false_iff] at hd
      have hspace : isTagSpace d = false := hd.1.1.1
      have hequals : (d != byte '=') = true := by simpa [byte] using hd.2
      refine ⟨d :: u', ?_, (tagAttributesUpTo_space fuel _).symm⟩
      simp [takeValue?, afterKey, hspace, hequals, show isTagSpace 32 = true from rfl]
  have hkey := takeKey_stop hk hends u
  obtain ⟨b, rest, rfl, hs, -, hgt, -⟩ := hk
  have hgt' : (b == byte '>') = false := by simpa [byte] using hgt
  rw [tagAttributesUpTo, List.cons_append, List.dropWhile_cons, hs]
  simp only [Bool.false_eq_true, if_false, hgt']
  rw [← List.cons_append, hkey]
  simp only [hvalue, hrest]
  cases tagAttributesUpTo fuel (c :: u) <;> rfl

/-! ### Names -/

structure IsAttributeName (name : Bytes) : Prop where
  ne_nil : name ≠ []
  plain : ∀ b ∈ name, Bytes.isLower b = true ∨ b = byte '-'

variable {name tag t : Bytes} {l : List (Bytes × Bytes)}

lemma IsAttributeName.not_endsKey (h : IsAttributeName name) {b : UInt8} (hb : b ∈ name) : endsKey b = false := by
  rw [Bool.eq_false_iff]
  intro hends
  simp only [endsKey, isTagSpace, byte, Bool.or_eq_true, beq_iff_eq] at hends
  rcases hends with (((((((rfl | rfl) | rfl) | rfl) | rfl) | rfl) | rfl) | rfl) <;>
    exact absurd (h.plain _ hb) (by decide)

lemma IsAttributeName.isWrittenKey (h : IsAttributeName name) : IsWrittenKey name := by
  constructor
  · obtain ⟨b, rest, rfl⟩ := List.exists_cons_of_ne_nil h.ne_nil
    have hb := h.not_endsKey List.mem_cons_self
    simp only [endsKey_eq, Bool.or_eq_false_iff, beq_eq_false_iff_ne] at hb
    exact ⟨b, rest, rfl, hb.1.1.1, hb.1.1.2, hb.1.2, fun c hc => h.not_endsKey (List.mem_cons_of_mem _ hc)⟩
  · intro b hb
    rcases h.plain b hb with hlow | rfl
    · simp only [Bytes.isLower, Bytes.isUpper, Bool.and_eq_true, decide_eq_true_eq, Bool.and_eq_false_iff,
        decide_eq_false_iff_not, UInt8.le_iff_toNat_le, UInt8.reduceToNat] at hlow ⊢
      omega
    · rfl

/-! ### Start tags -/

def pageAttributes (l : List (Bytes × Bytes)) : Bytes :=
  l.flatMap fun p => 32 :: if p.2 = [] then p.1 else quotedPair p.1 (escape p.2)

lemma openingTag_eq (tag : Bytes) (l : List (Bytes × Bytes)) :
    Element.openingTag tag l = 60 :: (tag ++ (pageAttributes l ++ [62])) := by
  have hattribute : ∀ p : Bytes × Bytes,
      utf8 " " ++ p.1 ++ (if p.2.isEmpty then [] else utf8 "=\"" ++ escape p.2 ++ utf8 "\"") =
        32 :: if p.2 = [] then p.1 else quotedPair p.1 (escape p.2) := by
    intro p
    by_cases hp : p.2 = []
    · simp [hp, show utf8 " " = [32] from rfl]
    · simp [hp, quotedPair, show utf8 " " = [32] from rfl, show utf8 "=\"" = [61, 34] from rfl,
        show utf8 "\"" = [34] from rfl]
  have hattributes := List.flatMap_congr fun p (_ : p ∈ l) => hattribute p
  calc Element.openingTag tag l
    _ = utf8 "<" ++ tag ++ pageAttributes l ++ utf8 ">" := congrArg (fun s => utf8 "<" ++ tag ++ s ++ utf8 ">") hattributes
    _ = 60 :: (tag ++ (pageAttributes l ++ [62])) := by simp [show utf8 "<" = [60] from rfl, show utf8 ">" = [62] from rfl]

lemma endsBare_pageAttributes (hl : ∀ p ∈ l, IsAttributeName p.1) (t : Bytes) : EndsBare (pageAttributes l ++ 62 :: t) := by
  cases l with
  | nil => exact .inl ⟨t, rfl⟩
  | cons p l =>
    rw [List.forall_mem_cons] at hl
    obtain ⟨b, rest, hname⟩ := List.exists_cons_of_ne_nil hl.1.ne_nil
    have hb : endsKey b = false := hl.1.not_endsKey (hname ▸ List.mem_cons_self)
    by_cases hp : p.2 = []
    · exact .inr ⟨b, rest ++ (pageAttributes l ++ 62 :: t), by simp [pageAttributes, hp, hname], hb⟩
    · exact .inr ⟨b, rest ++ ([61, 34] ++ (escape p.2 ++ (34 :: (pageAttributes l ++ 62 :: t)))),
        by simp [pageAttributes, hp, hname, quotedPair], hb⟩

lemma tagAttributesUpTo_page (hl : ∀ p ∈ l, IsAttributeName p.1) (t : Bytes) {fuel : Nat} (hf : l.length < fuel) :
    tagAttributesUpTo fuel (pageAttributes l ++ 62 :: t) = some (l, t) := by
  induction l generalizing fuel with
  | nil =>
    obtain ⟨k, rfl⟩ : ∃ k, fuel = k + 1 := ⟨fuel - 1, by simp at hf; omega⟩
    exact tagAttributesUpTo_angle k t
  | cons p l ih =>
    rw [List.forall_mem_cons] at hl
    obtain ⟨k, rfl⟩ : ∃ k, fuel = k + 1 := ⟨fuel - 1, by omega⟩
    have hnext := @ih hl.2 k (by simpa using hf)
    have hwritten := hl.1.isWrittenKey
    by_cases hp : p.2 = []
    · have hform : pageAttributes (p :: l) ++ 62 :: t = 32 :: (p.1 ++ (pageAttributes l ++ 62 :: t)) := by
        simp [pageAttributes, hp]
      have hempty : tagAttribute p.1 [] = p := (tagAttribute_escape hwritten []).trans (Prod.ext rfl hp.symm)
      rw [hform, tagAttributesUpTo_space, tagAttributesUpTo_bare k hwritten.key (endsBare_pageAttributes hl.2 t), hnext,
        Option.map_some, hempty]
    · have hform : pageAttributes (p :: l) ++ 62 :: t =
          32 :: (quotedPair p.1 (escape p.2) ++ (pageAttributes l ++ 62 :: t)) := by
        simp [pageAttributes, hp]
      rw [hform, tagAttributesUpTo_space, tagAttributesUpTo_pair k hwritten.key (quote_notMem_escape p.2), hnext,
        Option.map_some, tagAttribute_escape hwritten]

section

variable (htag : IsTagName tag) (hl : ∀ p ∈ l, IsAttributeName p.1)
include htag hl

lemma getLast?_page : (tag ++ pageAttributes l).getLast? ≠ some (byte '/') := by
  rcases List.eq_nil_or_concat' l with rfl | ⟨l, p, rfl⟩
  · rw [pageAttributes, List.flatMap_nil, List.append_nil]
    intro h
    cases htag.lower _ (List.mem_of_getLast? h)
  · have hname := hl p (by simp)
    have hform : tag ++ pageAttributes (l ++ [p]) =
        tag ++ pageAttributes l ++ [32] ++ if p.2 = [] then p.1 else quotedPair p.1 (escape p.2) := by
      simp [pageAttributes]
    rw [hform]
    split
    · rw [List.getLast?_append_of_ne_nil _ hname.ne_nil]
      intro h
      cases hname.not_endsKey (List.mem_of_getLast? h)
    · simp [quotedPair, List.getLast?_append, List.getLast?_cons]
      decide

lemma takeTag?_page (t : Bytes) : takeTag? (tag ++ (pageAttributes l ++ 62 :: t)) = some (⟨tag, l, false⟩, t) := by
  refine takeTag?_read htag ?_ (getLast?_page htag hl) fun fuel hfuel => tagAttributesUpTo_page hl t ?_
  · obtain ⟨u, hu⟩ | ⟨c, u, hu, -⟩ := endsBare_pageAttributes hl t
    · exact ⟨62, u, hu, rfl⟩
    · exact ⟨32, c :: u, hu, rfl⟩
  · refine Nat.lt_of_le_of_lt ?_ hfuel
    clear hfuel
    induction l with
    | nil => exact Nat.zero_le _
    | cons p l ih =>
      have := ih fun q hq => hl q (List.mem_cons_of_mem _ hq)
      simp only [pageAttributes, List.flatMap_cons, List.length_append, List.length_cons] at this ⊢
      omega

lemma tokensUpTo_openingTag (hraw : rawTextElements.contains tag = false) (fuel : Nat) (t : Bytes) :
    tokensUpTo (fuel + 1) (Element.openingTag tag l ++ t) = (tokensUpTo fuel t).map (.startTag tag l :: ·) := by
  have hform : Element.openingTag tag l ++ t = 60 :: (tag ++ (pageAttributes l ++ 62 :: t)) := by
    simp [openingTag_eq]
  rw [hform, tokensUpTo_read htag hraw (takeTag?_page htag hl t)]

end

/-! ### Texts and tags one after the other -/

def Token.isText : Token → Bool
  | .text _ => true
  | _ => false

def Yields (s : Bytes) (ts : List Token) : Prop :=
  ∀ fuel, s.length < fuel → ∃ all, tokensUpTo fuel s = some all ∧ all.filter (!·.isText) = ts

variable {rest : Bytes} {ts : List Token}

lemma yields_nil : Yields [] [] := by
  intro fuel hfuel
  obtain ⟨k, rfl⟩ : ∃ k, fuel = k + 1 := ⟨fuel - 1, by simp at hfuel; omega⟩
  exact ⟨[], rfl, rfl⟩

lemma Yields.text {s : Bytes} (hs : 60 ∉ s) (h : Yields rest ts) : Yields (s ++ rest) ts := by
  cases s with
  | nil => exact h
  | cons b s =>
    intro fuel hfuel
    obtain ⟨k, rfl⟩ : ∃ k, fuel = k + 1 := ⟨fuel - 1, by omega⟩
    have hb : (b == byte '<') = false := beq_false_of_ne fun heq => hs (heq ▸ List.mem_cons_self)
    have htake := takeText_append hs rest
    rw [List.cons_append] at htake hfuel ⊢
    -- the rest is read from where its own text ends
    obtain ⟨all, hall, hfilter⟩ : ∃ all, tokensUpTo k (takeText rest).2 = some all ∧ all.filter (!·.isText) = ts := by
      simp only [List.length_cons, List.length_append] at hfuel
      cases rest with
      | nil => exact h k (by simp; omega)
      | cons c rest =>
        by_cases hopens : (c == byte '<' && opensMarkup rest) = true
        · have hnone : takeText (c :: rest) = ([], c :: rest) := by rw [takeText, if_pos hopens]
          rw [hnone]
          exact h k (by omega)
        · obtain ⟨all, hall, hfilter⟩ := h (k + 1) (by omega)
          rw [tokensUpTo, if_neg hopens] at hall
          obtain ⟨more, hmore, rfl⟩ := Option.map_eq_some_iff.mp hall
          exact ⟨more, hmore, by simpa [Token.isText] using hfilter⟩
    refine ⟨.text (unescape false (convertNewlines (takeText (b :: (s ++ rest))).1)) :: all, ?_, by simpa [Token.isText] using hfilter⟩
    simp only [tokensUpTo, hb, Bool.false_and, Bool.false_eq_true, if_false, htake, hall]
    rfl

lemma Yields.openingTag (htag : IsTagName tag) (hraw : rawTextElements.contains tag = false)
    (hl : ∀ p ∈ l, IsAttributeName p.1) (h : Yields rest ts) :
    Yields (Element.openingTag tag l ++ rest) (.startTag tag l :: ts) := by
  intro fuel hfuel
  obtain ⟨k, rfl⟩ : ∃ k, fuel = k + 1 := ⟨fuel - 1, by omega⟩
  obtain ⟨all, hall, hfilter⟩ := h k (by simp [openingTag_eq] at hfuel; omega)
  exact ⟨.startTag tag l :: all, by rw [tokensUpTo_openingTag htag hl hraw, hall]; rfl,
    by rw [List.filter_cons_of_pos rfl, hfilter]⟩

lemma Yields.closingTag (htag : IsTagName tag) (h : Yields rest ts) :
    Yields (utf8 "</" ++ tag ++ utf8 ">" ++ rest) (.endTag tag :: ts) := by
  have hform : utf8 "</" ++ tag ++ utf8 ">" ++ rest = 60 :: 47 :: (tag ++ 62 :: rest) := by
    simp [show utf8 "</" = [60, 47] from rfl, show utf8 ">" = [62] from rfl]
  intro fuel hfuel
  rw [hform] at hfuel ⊢
  obtain ⟨k, rfl⟩ : ∃ k, fuel = k + 1 := ⟨fuel - 1, by omega⟩
  obtain ⟨all, hall, hfilter⟩ := h k (by simp at hfuel; omega)
  exact ⟨.endTag tag :: all, by rw [tokensUpTo_endTag htag, hall]; rfl, by rw [List.filter_cons_of_pos rfl, hfilter]⟩

lemma Yields.newline (h : Yields rest ts) : Yields (utf8 "\n" ++ rest) ts := h.text (by decide)

/-! ### Pages -/

namespace Element

mutual

/-- The tags of an element in the order they are written. An element without a tag is text. -/
def tags : Element → List Token
  | .missing | .text _ | .raw _ => []
  | .tagged tag attributes children =>
    if tag.isEmpty then []
    else if voidTags.contains tag then [.startTag tag attributes]
    else .startTag tag attributes :: (tagsAmong children ++ [.endTag tag])

def tagsAmong : List Element → List Token
  | [] => []
  | e :: es => e.tags ++ tagsAmong es

end

def Tells (e : Element) : Prop :=
  ∀ depth, ∃ out, render depth e = .ok out ∧ ∀ rest ts, Yields rest ts → Yields (out ++ rest) (e.tags ++ ts)

lemma angle_notMem_indentation (depth : Int) : 60 ∉ indentation depth := by
  intro h
  cases Bytes.eq_of_mem_spaces h

lemma angle_notMem_textLines (depth : Int) (content : Bytes) : 60 ∉ textLines depth content := by
  rw [textLines, List.mem_flatMap]
  rintro ⟨line, -, h⟩
  rcases List.mem_append.mp h with h | h
  · rcases List.mem_append.mp h with h | h
    · exact angle_notMem_indentation depth h
    · exact angle_notMem_escape _ h
  · cases List.mem_singleton.mp h

lemma tells_text (content : Bytes) : Tells (.text content) := fun depth =>
  ⟨_, rfl, fun _ _ h => h.text (angle_notMem_textLines depth content)⟩

lemma tagsAmong_eq_nil {es : List Element} (h : ∀ e ∈ es, IsText e) : tagsAmong es = [] := by
  induction es with
  | nil => rfl
  | cons e es ih =>
    rw [List.forall_mem_cons] at h
    obtain ⟨content, rfl⟩ | ⟨attributes, children, rfl⟩ := h.1 <;> exact ih h.2

lemma tells_among {es : List Element} (h : ∀ e ∈ es, Tells e) (depth : Int) :
    ∃ out, renderAll depth es = .ok out ∧ ∀ rest ts, Yields rest ts → Yields (out ++ rest) (tagsAmong es ++ ts) := by
  induction es with
  | nil => exact ⟨[], rfl, fun _ _ h => h⟩
  | cons e es ih =>
    rw [List.forall_mem_cons] at h
    obtain ⟨out, hout, htells⟩ := h.1 depth
    obtain ⟨more, hmore, hamong⟩ := ih h.2
    refine ⟨out ++ more, by rw [renderAll, hout, hmore], fun rest ts hrest => ?_⟩
    rw [List.append_assoc, tagsAmong, List.append_assoc]
    exact htells _ _ (hamong _ _ hrest)

lemma tells_tagged {tag : Bytes} {attributes : List (Bytes × Bytes)} {children : List Element} (htag : IsTagName tag)
    (hraw : rawTextElements.contains tag = false) (hl : ∀ p ∈ attributes, IsAttributeName p.1)
    (hpresent : children ≠ [.missing]) (hchildren : ∀ c ∈ children, Tells c) : Tells (.tagged tag attributes children) := by
  intro depth
  have hne : tag.isEmpty = false := by simpa using htag.ne_nil
  have hopening : ∀ {rest ts}, Yields rest ts →
      Yields (indentation depth ++ (openingTag tag attributes ++ rest)) (.startTag tag attributes :: ts) := fun h =>
    (h.openingTag htag hraw hl).text (angle_notMem_indentation depth)
  have hclosing : ∀ {rest ts}, Yields rest ts → Yields (utf8 "</" ++ tag ++ utf8 ">\n" ++ rest) (.endTag tag :: ts) := by
    intro rest ts h
    have hform : utf8 "</" ++ tag ++ utf8 ">\n" ++ rest = utf8 "</" ++ tag ++ utf8 ">" ++ (utf8 "\n" ++ rest) := by
      simp [show utf8 ">\n" = utf8 ">" ++ utf8 "\n" from rfl]
    rw [hform]
    exact h.newline.closingTag htag
  cases hvoid : voidTags.contains tag with
  | true =>
    refine ⟨_, by simp only [render, hne, hvoid, Bool.false_eq_true, if_false, if_true]; rfl, fun rest ts h => ?_⟩
    simp only [tags, hne, hvoid, Bool.false_eq_true, if_false, if_true, List.append_assoc]
    exact hopening h.newline
  | false =>
    have htags : ∀ ts, tags (.tagged tag attributes children) ++ ts =
        .startTag tag attributes :: (tagsAmong children ++ .endTag tag :: ts) := by
      intro ts
      simp only [tags, hne, hvoid, Bool.false_eq_true, if_false, List.cons_append, List.append_assoc, List.nil_append]
    rw [render_tagged ⟨htag.ne_nil, hvoid⟩]
    rcases shortContent_cases children with ⟨hmissing, -⟩ | hshort | ⟨t, hshort, htext⟩
    · exact absurd hmissing hpresent
    · obtain ⟨inner, hinner, hamong⟩ := tells_among hchildren (depth + 1)
      refine ⟨_, by rw [hshort]; simp only [Except.bind, hinner, Except.map]; rfl, fun rest ts h => ?_⟩
      rw [htags]
      simp only [List.append_assoc]
      refine hopening (Yields.newline (hamong _ _ (Yields.text (angle_notMem_indentation depth) ?_)))
      simpa using hclosing h
    · refine ⟨_, by rw [hshort]; rfl, fun rest ts h => ?_⟩
      rw [htags, tagsAmong_eq_nil htext, List.nil_append]
      simp only [List.append_assoc]
      refine hopening (Yields.text (angle_notMem_escape t) ?_)
      simpa using hclosing h

/-! ### Attributes in order -/

def InOrder (l : List (Bytes × Bytes)) : Prop := l.Pairwise fun a b => a.1 < b.1

lemma mem_addAttribute {name value : Bytes} {l : List (Bytes × Bytes)} {a : Bytes × Bytes}
    (h : a ∈ addAttribute name value l) : a.1 = name ∨ ∃ b ∈ l, a.1 = b.1 := by
  induction l with
  | nil => exact .inl (congrArg Prod.fst (List.mem_singleton.mp h))
  | cons p l ih =>
    rw [addAttribute] at h
    split at h
    · rename_i heq
      rcases List.mem_cons.mp h with rfl | h
      · exact .inl (beq_iff_eq.mp heq).symm
      · exact .inr ⟨a, List.mem_cons_of_mem _ h, rfl⟩
    · split at h
      · rcases List.mem_cons.mp h with rfl | h
        · exact .inl rfl
        · exact .inr ⟨a, h, rfl⟩
      · rcases List.mem_cons.mp h with rfl | h
        · exact .inr ⟨p, List.mem_cons_self, rfl⟩
        · refine (ih h).imp_right fun hin => ?_
          obtain ⟨b, hb, hab⟩ := hin
          exact ⟨b, List.mem_cons_of_mem _ hb, hab⟩

lemma InOrder.addAttribute {l : List (Bytes × Bytes)} (h : InOrder l) (name value : Bytes) :
    InOrder (addAttribute name value l) := by
  induction l with
  | nil => exact List.pairwise_singleton _ _
  | cons p l ih =>
    obtain ⟨hp, hl⟩ := List.pairwise_cons.mp h
    rw [Element.addAttribute]
    split
    · exact List.pairwise_cons.mpr ⟨hp, hl⟩
    · rename_i hne
      have hne : name ≠ p.1 := by simpa using hne
      split
      · rename_i hle
        have hlt : name < p.1 := Std.lt_of_le_of_ne ((Bytes.le_iff _ _).mp hle) hne
        refine List.pairwise_cons.mpr ⟨fun b hb => ?_, h⟩
        rcases List.mem_cons.mp hb with rfl | hb
        · exact hlt
        · exact List.lt_trans hlt (hp b hb)
      · rename_i hle
        have hlt : p.1 < name := List.not_le.mp fun h => hle ((Bytes.le_iff _ _).mpr h)
        refine List.pairwise_cons.mpr ⟨fun b hb => ?_, ih hl⟩
        rcases mem_addAttribute hb with hb | ⟨c, hc, hb⟩
        · exact hb ▸ hlt
        · exact hb ▸ hp c hc

lemma perm_addAttribute {name value : Bytes} {l : List (Bytes × Bytes)} (h : name ∉ l.map Prod.fst) :
    (addAttribute name value l).Perm ((name, value) :: l) := by
  induction l with
  | nil => exact .refl _
  | cons p l ih =>
    rw [List.map_cons, List.mem_cons, not_or] at h
    rw [addAttribute, if_neg (by simpa using h.1)]
    split
    · exact .refl _
    · exact ((ih h.2).cons p).trans (.swap ..)

section

variable {given : List (Bytes × Bytes)} {a : Bytes × Bytes}

lemma perm_new {l : List (Bytes × Bytes)} (h : ((given ++ l).map Prod.fst).Nodup) :
    (given.foldl (fun acc a => addAttribute a.1 a.2 acc) l).Perm (given ++ l) := by
  induction given generalizing l with
  | nil => exact .refl _
  | cons a given ih =>
    have ha : a.1 ∉ l.map Prod.fst := by
      rw [List.cons_append, List.map_cons, List.nodup_cons, List.map_append, List.mem_append, not_or] at h
      exact h.1.2
    have hmiddle : (given ++ addAttribute a.1 a.2 l).Perm (a :: (given ++ l)) :=
      ((perm_addAttribute ha).append_left given).trans List.perm_middle
    exact (ih ((hmiddle.map Prod.fst).nodup_iff.mpr h)).trans hmiddle

lemma inOrder_new (l : List (Bytes × Bytes)) (hl : InOrder l) :
    InOrder (given.foldl (fun acc a => addAttribute a.1 a.2 acc) l) := by
  induction given generalizing l with
  | nil => exact hl
  | cons a given ih => exact ih _ (hl.addAttribute a.1 a.2)

lemma mem_new {l : List (Bytes × Bytes)} (h : a ∈ given.foldl (fun acc a => addAttribute a.1 a.2 acc) l) :
    ∃ b ∈ given ++ l, a.1 = b.1 := by
  induction given generalizing l with
  | nil => exact ⟨a, h, rfl⟩
  | cons p given ih =>
    obtain ⟨b, hb, hab⟩ := ih h
    rcases List.mem_append.mp hb with hb | hb
    · exact ⟨b, by simp [hb], hab⟩
    · rcases mem_addAttribute hb with hb | ⟨c, hc, hb⟩
      · exact ⟨p, by simp, hab.trans hb⟩
      · exact ⟨c, by simp [hc], hab.trans hb⟩

end

/-! ### Plain pages -/

/-- Trees of texts and of elements whose content is markup, with names that are read as they are written. The
attributes are given in any order. -/
inductive Plain : Element → Prop
  | text (content : Bytes) : Plain (.text content)
  | new {tag : Bytes} {given : List (Bytes × Bytes)} {children : List Element} (htag : IsTagName tag)
    (hraw : tag ∉ rawTextElements) (hnames : ∀ a ∈ given, IsAttributeName a.1) (hchildren : ∀ c ∈ children, Plain c) :
    Plain (.new tag given children)

variable {e : Element}

lemma Plain.ne_missing (h : Plain e) : e ≠ .missing := by
  cases h <;> exact Element.noConfusion

lemma Plain.tells (h : Plain e) : Tells e := by
  induction h with
  | text content => exact tells_text content
  | @new tag given children htag hraw hnames hchildren ih =>
    refine tells_tagged htag (by simpa using hraw) (fun a ha => ?_) ?_ ih
    · obtain ⟨b, hb, hab⟩ := mem_new ha
      rw [List.append_nil] at hb
      exact hab ▸ hnames b hb
    · rintro rfl
      exact (hchildren _ List.mem_cons_self).ne_missing rfl

lemma mem_tagsAmong {es : List Element} {t : Token} (h : t ∈ tagsAmong es) : ∃ e ∈ es, t ∈ e.tags := by
  induction es with
  | nil => cases h
  | cons e es ih =>
    rcases List.mem_append.mp h with h | h
    · exact ⟨e, List.mem_cons_self, h⟩
    · obtain ⟨d, hd, h⟩ := ih h
      exact ⟨d, List.mem_cons_of_mem _ hd, h⟩

lemma Plain.inOrder (h : Plain e) {name : Bytes} {attributes : List (Bytes × Bytes)}
    (ht : Token.startTag name attributes ∈ e.tags) : InOrder attributes := by
  induction h with
  | text content => cases ht
  | @new tag given children htag hraw hnames hchildren ih =>
    have hnew : InOrder (given.foldl (fun acc a => Element.addAttribute a.1 a.2 acc) []) := inOrder_new [] List.Pairwise.nil
    have hne : tag.isEmpty = false := by simpa using htag.ne_nil
    rw [Element.new, tags, hne, if_neg Bool.false_ne_true] at ht
    split at ht
    · obtain ⟨rfl, rfl⟩ := Token.startTag.inj (List.mem_singleton.mp ht)
      exact hnew
    · rcases List.mem_cons.mp ht with ht | ht
      · obtain ⟨rfl, rfl⟩ := Token.startTag.inj ht
        exact hnew
      · rcases List.mem_append.mp ht with ht | ht
        · obtain ⟨c, hc, ht⟩ := mem_tagsAmong ht
          exact ih c hc ht
        · cases List.mem_singleton.mp ht

/-- An element has the attributes it is given. A plain page is written, and the markup that the tokenizer finds in it is
the tags of the tree, with the attributes of each start tag in the order of their names. -/
theorem tokens?_render :
    (∀ tag given children, (given.map Prod.fst).Nodup →
      ∃ l : List (Bytes × Bytes), l.Perm given ∧ InOrder l ∧ new tag given children = .tagged tag l children) ∧
    ∀ e, Plain e → ∀ depth, ∃ out ts, render depth e = .ok out ∧ tokens? out = some ts ∧
      ts.filter (!·.isText) = e.tags ∧ ∀ name attributes, .startTag name attributes ∈ ts → InOrder attributes := by
  refine ⟨fun tag given children hgiven => ⟨_, ?_, inOrder_new [] .nil, rfl⟩, fun e h depth => ?_⟩
  · have hperm := @perm_new given [] (by rwa [List.append_nil])
    rwa [List.append_nil] at hperm
  obtain ⟨out, hout, htells⟩ := h.tells depth
  have hyields := htells [] [] yields_nil
  rw [List.append_nil, List.append_nil] at hyields
  obtain ⟨ts, hts, hfilter⟩ := hyields (out.length + 1) (Nat.lt_succ_self _)
  refine ⟨out, ts, hout, hts, hfilter, fun name attributes hmem => ?_⟩
  have hin : .startTag name attributes ∈ e.tags := hfilter ▸ List.mem_filter.mpr ⟨hmem, rfl⟩
  exact h.inOrder hin

/-- Tags in texts and quotes in values are none. -/
theorem tokens?_render_hostile :
    let given := [(utf8 "id", utf8 "\"><b>\r"), (utf8 "class", []), (utf8 "aria-label", utf8 "a&lt;")]
    let page : Element := .new (utf8 "nav") given
      [.text (utf8 "</nav>\n<script>"), .new (utf8 "br") [] [], .new (utf8 "p") [] [.text (utf8 "<!-- ")]]
    (∃ l : List (Bytes × Bytes), l.Perm given ∧ InOrder l ∧ new (utf8 "nav") given [] = .tagged (utf8 "nav") l []) ∧
      Plain page ∧ ∃ out ts, page.render 1 = .ok out ∧ tokens? out = some ts ∧ ts.filter (!·.isText) =
        [.startTag (utf8 "nav") [(utf8 "aria-label", utf8 "a&lt;"), (utf8 "class", []), (utf8 "id", utf8 "\"><b>\r")],
          .startTag (utf8 "br") [], .startTag (utf8 "p") [], .endTag (utf8 "p"), .endTag (utf8 "nav")] := by
  intro given page
  have hname : ∀ name ∈ given.map Prod.fst, name ≠ [] ∧ ∀ b ∈ name, Bytes.isLower b = true ∨ b = byte '-' := by
    decide +kernel
  have hplain : Plain page := by
    refine .new ⟨by decide, by decide +kernel⟩ (by decide) (fun a ha => ?_) ?_
    · obtain ⟨hne, hbytes⟩ := hname _ (List.mem_map_of_mem ha)
      exact ⟨hne, hbytes⟩
    · simp only [List.forall_mem_cons]
      exact ⟨.text _, .new ⟨by decide, by decide +kernel⟩ (by decide) (by simp) (by simp),
        .new ⟨by decide, by decide +kernel⟩ (by decide) (by simp) (by simpa using .text _), by simp⟩
  obtain ⟨out, ts, hout, hts, htags, -⟩ := tokens?_render.2 page hplain 1
  exact ⟨tokens?_render.1 (utf8 "nav") given [] (by decide), hplain, out, ts, hout, hts, htags.trans (by decide +kernel)⟩

end Element

end Html

end MarkdownTidy
