import MarkdownTidy.Html.Render
import MarkdownTidy.Proofs.Html.Tokens
import MarkdownTidy.Proofs.Shortcode.RoundTrip
import MarkdownTidy.Proofs.Text.LetterCase

/-! Placeholders for shortcodes. In HTML a shortcode is one element, which holds the printed shortcode as
text and carries its attributes. An attribute name that begins with an equals sign breaks the tag: behind
`data-` the sign ends the name. -/

namespace MarkdownTidy.Shortcode

open Html

def dataName (name : Bytes) : Bytes := utf8 "data-" ++ escape (Text.lower name)

def placeholderAttributes (sc : Shortcode) : List (Bytes × Bytes) :=
  (utf8 "class", utf8 "shortcode") :: (utf8 "data-shortcode", sc.identifier) ::
    sc.attributes.map fun a => (dataName a.name, a.value)

def placeholder (tag : Bytes) (sc : Shortcode) : List Html.Token :=
  [.startTag tag sc.placeholderAttributes, .text sc.print, .endTag tag]

variable {sc : Shortcode}

lemma shortcode_eq (tag : String) (sc : Shortcode) : Html.shortcode tag sc =
    60 :: (utf8 tag ++ (writtenAttributes sc.placeholderAttributes ++ 62 :: (escape sc.print ++
      60 :: 47 :: (utf8 tag ++ [62])))) := by
  have hclass : escape (utf8 "shortcode") = utf8 "shortcode" := by decide
  have h : ∀ attrs : Attributes, (attrs.flatMap fun a =>
      utf8 " data-" ++ escape (Text.lower a.name) ++ utf8 "=\"" ++ escape a.value ++ utf8 "\"") =
      writtenAttributes (attrs.map fun a => (dataName a.name, a.value)) := by
    intro attrs
    rw [writtenAttributes, List.flatMap_map]
    refine List.flatMap_congr fun a _ => ?_
    simp [quotedPair, dataName, show utf8 " data-" = 32 :: utf8 "data-" from rfl, show utf8 "=\"" = [61, 34] from rfl,
      show utf8 "\"" = [34] from rfl]
  rw [Html.shortcode, h, placeholderAttributes, writtenAttributes_cons, writtenAttributes_cons]
  simp [quotedPair, hclass, closeTag, show utf8 "<" = [60] from rfl, show utf8 "</" = [60, 47] from rfl,
    show utf8 ">" = [62] from rfl, show utf8 "\"" = [34] from rfl,
    show utf8 " class=\"shortcode\" data-shortcode=\"" = 32 :: (utf8 "class" ++ ([61, 34] ++ (utf8 "shortcode" ++ (34 ::
      32 :: (utf8 "data-shortcode" ++ [61, 34]))))) from rfl]

/-! ### Names -/

lemma lt_of_endsKey {b : UInt8} (h : endsKey b = true) : b < 0x80 := by
  simp only [endsKey, isTagSpace, byte, Bool.or_eq_true, beq_iff_eq] at h
  rcases h with (((((((rfl | rfl) | rfl) | rfl) | rfl) | rfl) | rfl) | rfl) <;> decide

lemma not_endsKey_of_isKey {name : Bytes} (hk : IsKey name) (hn : name.head? ≠ some 61) {b : UInt8} (hb : b ∈ name) :
    endsKey b = false := by
  obtain ⟨c, rest, rfl, hs, hslash, hgt, hrest⟩ := hk
  rcases List.mem_cons.mp hb with rfl | hb
  · have heq : b ≠ 61 := fun h => hn (by rw [h]; rfl)
    simp [endsKey_eq, hs, hslash, hgt, heq]
  · exact hrest b hb

lemma mem_dataName {name : Bytes} {b : UInt8} (h : b ∈ dataName name) :
    b ∈ utf8 "data-" ∨ b ∈ referenceText ∨ b ∈ Text.lower name := by
  rcases List.mem_append.mp h with h | h
  · exact .inl h
  · exact .inr ((mem_escape h).symm.imp_right And.left)

lemma isWrittenKey_dataName {name : Bytes} (hk : IsKey name) (hn : name.head? ≠ some 61) : IsWrittenKey (dataName name) := by
  have hfixed : ∀ b ∈ utf8 "data-" ++ referenceText, endsKey b = false ∧ Bytes.isUpper b = false := by decide +kernel
  have hends : ∀ b ∈ dataName name, endsKey b = false := by
    intro b hb
    rcases mem_dataName hb with hb | hb | hb
    · exact (hfixed b (List.mem_append_left _ hb)).1
    · exact (hfixed b (List.mem_append_right _ hb)).1
    · rw [Bool.eq_false_iff]
      intro he
      rcases Text.mem_lower hb (lt_of_endsKey he) with rfl | rfl | ⟨c, hc, rfl⟩
      · cases he
      · cases he
      · rw [endsKey_lowerByte, not_endsKey_of_isKey hk hn hc] at he
        cases he
  have hcons : dataName name = 100 :: (utf8 "ata-" ++ escape (Text.lower name)) := rfl
  refine ⟨⟨100, _, hcons, by decide, by decide, by decide, fun b hb => hends b (hcons ▸ List.mem_cons_of_mem _ hb)⟩, ?_⟩
  intro b hb
  rcases mem_dataName hb with hb | hb | hb
  · exact (hfixed b (List.mem_append_left _ hb)).2
  · exact (hfixed b (List.mem_append_right _ hb)).2
  · exact Text.not_isUpper_of_mem_lower hb

lemma exists_dataName {name : Bytes} (hn : name.head? = some 61) : ∃ u, dataName name = utf8 "data-" ++ 61 :: u := by
  obtain ⟨u, hu⟩ := List.head?_eq_some_iff.mp ((Text.head?_lower (by decide) (by decide) name).mpr hn)
  exact ⟨escape u, by rw [dataName, hu]; rfl⟩

lemma isWrittenKey_placeholderAttributes {attrs : Attributes} (hk : ∀ a ∈ attrs, IsKey a.name)
    (hn : ∀ a ∈ attrs, a.name.head? ≠ some 61) (id : Bytes) :
    ∀ p ∈ placeholderAttributes ⟨id, attrs⟩, IsWrittenKey p.1 := by
  have hfixed : ∀ name : Bytes, IsKey name → name.all (!Bytes.isUpper ·) = true → IsWrittenKey name := fun name hk hl =>
    ⟨hk, fun b hb => by simpa using List.all_eq_true.mp hl b hb⟩
  intro p hp
  rcases List.mem_cons.mp hp with rfl | hp
  · exact hfixed _ ⟨99, utf8 "lass", rfl, by decide, by decide, by decide, by decide +kernel⟩ rfl
  rcases List.mem_cons.mp hp with rfl | hp
  · exact hfixed _ ⟨100, utf8 "ata-shortcode", rfl, by decide, by decide, by decide, by decide +kernel⟩ rfl
  · obtain ⟨a, ha, rfl⟩ := List.mem_map.mp hp
    exact isWrittenKey_dataName (hk a ha) (hn a ha)

/-! ### Elements -/

lemma print_ne_nil_of_parse? {r : Reader} {m : MarkdownAttributes} {inner : Bytes}
    (h : (r.parse? m inner).1 = some sc) : sc.print ≠ [] := by
  obtain ⟨hid, hsp, -, -⟩ := parse?_spec h
  rw [print_eq hid hsp]
  exact List.append_ne_nil_of_left_ne_nil (by decide) _

section Element

variable {tag : String} {rest : Bytes} {ts : List Html.Token} (htag : IsTagName (utf8 tag))
  (hraw : rawTextElements.contains (utf8 tag) = false) (hk : ∀ a ∈ sc.attributes, IsKey a.name)
include htag hraw hk

lemma tokens?_shortcode (hprint : sc.print ≠ []) (hrest : ∀ fuel, rest.length < fuel → tokensUpTo fuel rest = some ts)
    (hn : ∀ a ∈ sc.attributes, a.name.head? ≠ some 61) :
    tokens? (Html.shortcode tag sc ++ rest) = some (sc.placeholder (utf8 tag) ++ ts) := by
  have hform : Html.shortcode tag sc ++ rest =
      60 :: (utf8 tag ++ (writtenAttributes sc.placeholderAttributes ++ 62 :: (escape sc.print ++
        60 :: 47 :: (utf8 tag ++ 62 :: rest)))) := by
    rw [shortcode_eq]
    simp
  obtain ⟨fuel, hfuel, hlen⟩ : ∃ fuel, rest.length < fuel ∧ (Html.shortcode tag sc ++ rest).length + 1 = fuel + 1 + 1 + 1 := by
    refine ⟨(Html.shortcode tag sc ++ rest).length - 2, ?_, ?_⟩ <;>
      · rw [hform]
        simp only [List.length_append, List.length_cons]
        omega
  have hend : takeText (60 :: 47 :: (utf8 tag ++ 62 :: rest)) = ([], 60 :: 47 :: (utf8 tag ++ 62 :: rest)) := rfl
  rw [tokens?, hlen, hform, tokensUpTo_startTag htag hraw (isWrittenKey_placeholderAttributes hk hn _),
    tokensUpTo_text hprint hend, tokensUpTo_endTag htag, hrest fuel hfuel]
  rfl

lemma tokens?_shortcode_ne {a : Attribute} (ha : a ∈ sc.attributes) (hn : a.name.head? = some 61) :
    tokens? (Html.shortcode tag sc ++ rest) ≠ some (sc.placeholder (utf8 tag) ++ ts) := by
  -- the first such name, and the attributes in front of it
  have hfound : (sc.attributes.find? (·.name.head? == some 61)).isSome := List.find?_isSome.mpr ⟨a, ha, by simp [hn]⟩
  obtain ⟨bad, hbad⟩ := Option.isSome_iff_exists.mp hfound
  obtain ⟨hbad, before, after, hattrs, hbefore⟩ := List.find?_eq_some_iff_append.mp hbad
  obtain ⟨u, hu⟩ := exists_dataName (beq_iff_eq.mp hbad)
  have hkey : IsKey (utf8 "data-") := ⟨100, utf8 "ata-", rfl, by decide, by decide, by decide, by decide +kernel⟩
  have hkeep := @isWrittenKey_placeholderAttributes before
    (fun b hb => hk b (hattrs ▸ List.mem_append_left _ hb))
    (fun b hb => by simpa using hbefore b hb) sc.identifier
  have hall : sc.placeholderAttributes = placeholderAttributes ⟨sc.identifier, before⟩ ++
      (dataName bad.name, bad.value) :: after.map fun a => (dataName a.name, a.value) := by
    simp [placeholderAttributes, hattrs]
  obtain ⟨t, ht⟩ : ∃ t, Html.shortcode tag sc ++ rest =
      60 :: (utf8 tag ++ (writtenAttributes (placeholderAttributes ⟨sc.identifier, before⟩) ++
        32 :: (utf8 "data-" ++ 61 :: t))) := by
    refine ⟨u ++ ([61, 34] ++ (escape bad.value ++ 34 :: (writtenAttributes (after.map fun a => (dataName a.name, a.value)) ++
      62 :: (escape sc.print ++ 60 :: 47 :: (utf8 tag ++ 62 :: rest))))), ?_⟩
    rw [shortcode_eq, hall, writtenAttributes_append, writtenAttributes_cons, quotedPair, hu]
    simp
  rw [tokens?, ht, tokensUpTo_name htag]
  rcases takeTag?_key htag hkeep hkey t with hread | ⟨v, more, closed, after', hread⟩
  · rw [hread]
    exact fun h => by cases h
  intro h
  rw [hread] at h
  simp only [Option.elim_some, hraw, Bool.false_eq_true, if_false, Option.map_eq_some_iff] at h
  obtain ⟨tokens, -, h⟩ := h
  have htoken := (List.cons.inj h).1
  rw [WrittenTag.startToken] at htoken
  split at htoken
  · cases htoken
  · have hattributes := (Html.Token.startTag.inj htoken).2
    rw [hall, List.append_right_inj, List.cons.injEq, tagAttribute, Prod.mk.injEq, hu] at hattributes
    have hlength := congrArg List.length hattributes.1.1
    simp only [List.length_append, List.length_cons] at hlength
    have : (Bytes.lowerAscii (utf8 "data-")).length = (utf8 "data-").length := rfl
    omega

end Element

lemma tokensUpTo_newline (fuel : Nat) (h : Html.newline.length < fuel) :
    tokensUpTo fuel Html.newline = some [.text Html.newline] := by
  obtain ⟨fuel, rfl⟩ : ∃ k, fuel = k + 1 + 1 := ⟨fuel - 2, by have h1 : 1 < fuel := h; omega⟩
  rfl

/-- In running text as on a line of its own, a shortcode that was read is rendered as exactly one element with
the attributes it should carry, unless one of its attribute names begins with an equals sign. -/
theorem tokens?_renderNode {r : Reader} {m : MarkdownAttributes} {inner : Bytes} (h : (r.parse? m inner).1 = some sc)
    (o : RenderOptions) (source : Bytes) (at_ : Html.Place) (info : Info) (children : List Node) :
    (tokens? (renderNode o source at_ (.mk { info with kind := .shortcode sc } children)) =
        some (sc.placeholder (utf8 "span")) ↔ ∀ a ∈ sc.attributes, a.name.head? ≠ some (byte '=')) ∧
      (tokens? (renderNode o source at_ (.mk { info with kind := .blockShortcode sc } children)) =
        some (sc.placeholder (utf8 "div") ++ [.text Html.newline]) ↔
          ∀ a ∈ sc.attributes, a.name.head? ≠ some (byte '=')) := by
  have hk := (attributes_of_parse? h).1
  have hprint := print_ne_nil_of_parse? h
  have hspan : IsTagName (utf8 "span") := ⟨by decide, by decide +kernel⟩
  have hdiv : IsTagName (utf8 "div") := ⟨by decide, by decide +kernel⟩
  constructor
  · have hform : renderNode o source at_ (.mk { info with kind := .shortcode sc } children) =
        Html.shortcode "span" sc ++ [] := by
      rw [renderNode, List.append_nil]
      rfl
    have hend : ∀ fuel, ([] : Bytes).length < fuel → tokensUpTo fuel [] = some [] := by
      intro fuel hfuel
      cases fuel with
      | zero => exact absurd hfuel (Nat.lt_irrefl 0)
      | succ fuel => rfl
    rw [hform, ← List.append_nil (sc.placeholder _)]
    refine ⟨fun htokens a ha hn => ?_, tokens?_shortcode hspan rfl hk hprint hend⟩
    exact tokens?_shortcode_ne hspan rfl hk ha hn htokens
  · have hform : renderNode o source at_ (.mk { info with kind := .blockShortcode sc } children) =
        Html.shortcode "div" sc ++ Html.newline := by
      rw [renderNode]
      rfl
    rw [hform]
    refine ⟨fun htokens a ha hn => ?_, tokens?_shortcode hdiv rfl hk hprint tokensUpTo_newline⟩
    exact tokens?_shortcode_ne hdiv rfl hk ha hn htokens

/-- Quotes and angle brackets in a name are as harmless as in a value. -/
theorem tokens?_renderNode_quoted :
    let sc : Shortcode := ⟨utf8 "X", [⟨utf8 "K\"", utf8 "<b a=\"1\">"⟩]⟩
    ((Reader.new [] [] id).parse? ⟨false, []⟩ (utf8 "X K\"='<b a=\"1\">'")).1 = some sc ∧
      tokens? (renderNode {} [] ⟨.paragraph, false⟩ (.mk { kind := .shortcode sc } [])) =
        some (sc.placeholder (utf8 "span")) := by
  have h : ((Reader.new [] [] id).parse? ⟨false, []⟩ (utf8 "X K\"='<b a=\"1\">'")).1 =
      some ⟨utf8 "X", [⟨utf8 "K\"", utf8 "<b a=\"1\">"⟩]⟩ := by decide
  exact ⟨h, (tokens?_renderNode h {} [] ⟨.paragraph, false⟩ { kind := .paragraph } []).1.mpr (by decide)⟩

/-- The attribute `=a` of a shortcode comes out as an attribute `data-`, with a value it never had. -/
theorem tokens?_renderNode_equals :
    let sc : Shortcode := ⟨utf8 "x", [⟨utf8 "=a", utf8 "v"⟩]⟩
    ((Reader.new [] [] id).parse? ⟨false, []⟩ (utf8 "x =a=\"v\"")).1 = some sc ∧
      tokens? (renderNode {} [] ⟨.paragraph, false⟩ (.mk { kind := .shortcode sc } [])) =
        some [.startTag (utf8 "span") [(utf8 "class", utf8 "shortcode"), (utf8 "data-shortcode", utf8 "x"),
          (utf8 "data-", utf8 "a=\"v\"")], .text sc.print, .endTag (utf8 "span")] ∧
      (utf8 "data-", utf8 "a=\"v\"") ∉ sc.placeholderAttributes := by
  decide +kernel

end MarkdownTidy.Shortcode
