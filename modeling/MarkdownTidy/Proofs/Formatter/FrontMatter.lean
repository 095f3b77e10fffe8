import MarkdownTidy.Formatter
import MarkdownTidy.Proofs.Document.BlockNames
import MarkdownTidy.Proofs.Document.TopLevel
import MarkdownTidy.Proofs.FrontMatter.Fences
import MarkdownTidy.Proofs.Pipeline.Registration
import MarkdownTidy.Proofs.Writer.FirstBlock
import MarkdownTidy.Proofs.Yaml.WhiteSpace

/-! The front matter of formatted documents. What was written as front matter is found again, and where
none was written the body can pass for some only through its first block. -/

namespace MarkdownTidy

open Bytes

lemma eq_ok_of_toOption {ε α : Type} {x : Except ε α} {a : α} (h : x.toOption = some a) :
    x = .ok a := by
  cases x with
  | error e => cases h
  | ok b => exact congrArg _ (Option.some.inj h)

def Yaml.Node.hasEntries : Yaml.Node → Bool
  | .mapping _ _ (_ :: _) => true
  | _ => false

namespace FrontMatter

/-- A text that can stand between fences: it ends in a line end and has no fence of its own, and what
is handed over of it, which is all but its last line end, reads as a mapping with entries. -/
structure Restorable (yml : Bytes) (root : Yaml.Node) : Prop where
  ends : yml.getLast? = some newline
  unfenced : ∀ l ∈ Bytes.split newline yml, ¬ IsFence l
  reads : ∃ doc, Yaml.read .commented (withoutLineEnd yml) = .ok (some doc) ∧ doc.root = root
  entries : root.hasEntries = true

variable {content rest yml : Bytes} {root : Yaml.Node} {doc : Yaml.Document}

lemma trimSpace_ne_nil (hr : Yaml.read .commented content = .ok (some doc))
    (hroot : doc.root.hasEntries = true) : Text.trimSpace content ≠ [] := by
  intro h
  have hs := Yaml.isScalar_of_trimSpace h hr
  cases hd : doc.root <;> simp_all [Yaml.Read.IsScalar, Yaml.Node.hasEntries]

lemma Restorable.split_fenced (h : Restorable yml root) (rest : Bytes) :
    split (utf8 "---\n" ++ yml ++ utf8 "---\n" ++ rest) = .present root rest := by
  obtain ⟨doc, hr, rfl⟩ := h.reads
  have hne : (Text.trimSpace (withoutLineEnd yml)).isEmpty = false := by
    simpa using trimSpace_ne_nil hr h.entries
  simp only [split, block?_fenced h.ends h.unfenced, hne, hr, Bool.false_eq_true, if_false]
  have he := h.entries
  unfold Yaml.Node.hasEntries at he
  split at he
  · rename_i hd
    simp only [hd]
  · cases he

end FrontMatter

namespace Formatter

lemma format_eq_ok {f : Formatter} {names : MarkdownAttributes} {patience : Patience}
    {src out : Bytes} (enabled : f.config.disableFormatter = false)
    (ok : (f.format names patience src).result = .ok out) :
    ∃ formatted, (f.formatBody names (formatFrontMatter src).2.1).1 = .ok formatted ∧
      out = if (formatFrontMatter src).1.isEmpty || formatted.isEmpty then
          (formatFrontMatter src).1 ++ formatted
        else (formatFrontMatter src).1 ++ [newline] ++ formatted := by
  simp only [format, enabled, Bool.false_eq_true, if_false] at ok
  cases hfirst : patience.spend with
  | none => simp [hfirst] at ok
  | some patience =>
    cases hsecond : patience.spend with
    | none => simp [hfirst, hsecond] at ok
    | some _ =>
      simp only [hfirst, hsecond] at ok
      cases hbody : (f.formatBody names (formatFrontMatter src).2.1).1 with
      | error e => simp [hbody, Except.map] at ok
      | ok formatted =>
        rw [hbody] at ok
        exact ⟨formatted, rfl, (Except.ok.inj ok).symm⟩

lemma format_present {f : Formatter} {names : MarkdownAttributes} {patience : Patience}
    {src body out : Bytes} {root : Yaml.Node} (enabled : f.config.disableFormatter = false)
    (present : FrontMatter.split src = .present root body)
    (ok : (f.format names patience src).result = .ok out) :
    ∃ formatted, (f.formatBody names body).1 = .ok formatted ∧
      out = utf8 "---\n" ++ FrontMatter.render root ++ utf8 "---\n" ++
        if formatted = [] then [] else newline :: formatted := by
  have hhead : (utf8 "---\n" ++ FrontMatter.render root ++ utf8 "---\n").isEmpty = false := rfl
  obtain ⟨formatted, hbody, rfl⟩ := format_eq_ok enabled ok
  simp only [formatFrontMatter, present, hhead, Bool.false_or] at hbody ⊢
  refine ⟨formatted, hbody, ?_⟩
  cases formatted <;> simp

lemma formatFrontMatter_fst_eq_nil {src : Bytes}
    (unwritten : ∀ root body, FrontMatter.split src ≠ .present root body) :
    (formatFrontMatter src).1 = [] := by
  cases h : FrontMatter.split src with
  | present root body => exact absurd h (unwritten root body)
  | _ => simp [formatFrontMatter, h]

lemma exists_present {src : Bytes} (h : (formatFrontMatter src).1 ≠ []) :
    ∃ root body, FrontMatter.split src = .present root body := by
  by_contra! unwritten
  exact h (formatFrontMatter_fst_eq_nil unwritten)

lemma format_unwritten {f : Formatter} {names : MarkdownAttributes} {patience : Patience}
    {src out : Bytes} (enabled : f.config.disableFormatter = false)
    (unwritten : ∀ root body, FrontMatter.split src ≠ .present root body)
    (ok : (f.format names patience src).result = .ok out) :
    (f.formatBody names (formatFrontMatter src).2.1).1 = .ok out := by
  obtain ⟨formatted, hbody, rfl⟩ := format_eq_ok enabled ok
  rw [hbody, formatFrontMatter_fst_eq_nil unwritten]
  rfl

/-! ### Front matter that was written -/

/-- Written front matter is found again as it was written, whatever stands in the body, and the body
behind it is what was formatted, after an empty line if there is any of it. -/
theorem split_format_eq_present {f : Formatter} {names : MarkdownAttributes} {patience : Patience}
    {src body out : Bytes} {root again : Yaml.Node} (enabled : f.config.disableFormatter = false)
    (present : FrontMatter.split src = .present root body)
    (ok : (f.format names patience src).result = .ok out)
    (restorable : FrontMatter.Restorable (FrontMatter.render root) again) :
    ∃ formatted rest, (f.formatBody names body).1 = .ok formatted ∧
      rest = (if formatted = [] then [] else newline :: formatted) ∧
      FrontMatter.block? out =
        some ⟨some (FrontMatter.withoutLineEnd (FrontMatter.render root)), rest⟩ ∧
      FrontMatter.split out = .present again rest := by
  obtain ⟨formatted, hbody, rfl⟩ := format_present enabled present ok
  exact ⟨formatted, _, hbody, rfl, FrontMatter.block?_fenced restorable.ends restorable.unfenced _,
    restorable.split_fenced _⟩

theorem split_format_eq_present_thematic :
    ∃ f out, (Formatter.new {} .initial).1 = .ok f ∧
      (f.format .initial none (utf8 "---\ntitle: A\n---\nText\n\n---\n\n...\n")).result = .ok out ∧
      FrontMatter.block? out = some ⟨some (utf8 "title: A"), utf8 "\nText\n\n---\n\n...\n"⟩ ∧
      ∃ again, FrontMatter.split out = .present again (utf8 "\nText\n\n---\n\n...\n") := by
  let src := utf8 "---\ntitle: A\n---\nText\n\n---\n\n...\n"
  let text := utf8 "Text\n\n---\n\n...\n"
  let out := utf8 "---\ntitle: A\n---\n\nText\n\n---\n\n...\n"
  have hnew : ((Formatter.new {} .initial).1.toOption.map fun f => (f.config.disableFormatter,
      (f.format .initial none src).result.toOption, (f.formatBody .initial text).1.toOption)) =
      some (false, some out, some text) := by decide +kernel
  have hhead : formatFrontMatter src = (utf8 "---\n" ++ utf8 "title: A\n" ++ utf8 "---\n", text, []) := by
    decide +kernel
  have hread : (Yaml.read .commented (utf8 "title: A")).toOption.join.map (·.root.hasEntries) =
      some true := by decide +kernel
  obtain ⟨f, hf, hf'⟩ := Option.map_eq_some_iff.mp hnew
  obtain ⟨enabled, hout, hbody⟩ : f.config.disableFormatter = false ∧
      (f.format .initial none src).result.toOption = some out ∧
      (f.formatBody .initial text).1.toOption = some text := by simpa using hf'
  have ok := eq_ok_of_toOption hout
  obtain ⟨doc, hdoc, entries⟩ := Option.map_eq_some_iff.mp hread
  obtain ⟨root, body, present⟩ := exists_present (ne_of_eq_of_ne (congrArg Prod.fst hhead) (by decide))
  rw [formatFrontMatter, present] at hhead
  obtain ⟨hrender, rfl⟩ : FrontMatter.render root = utf8 "title: A\n" ∧ body = text := by
    simpa using hhead
  have restorable : FrontMatter.Restorable (FrontMatter.render root) doc.root := by
    rw [hrender]
    exact ⟨by decide, by decide,
      ⟨doc, eq_ok_of_toOption (Option.join_eq_some_iff.mp hdoc), rfl⟩, entries⟩
  obtain ⟨formatted, rest, hformatted, rfl, hblock, hagain⟩ :=
    split_format_eq_present enabled present ok restorable
  obtain rfl : text = formatted :=
    Except.ok.inj ((eq_ok_of_toOption hbody).symm.trans hformatted)
  rw [hrender] at hblock
  exact ⟨f, out, eq_ok_of_toOption hf, ok, hblock, doc.root, hagain⟩

/-! ### Front matter that was not written -/

lemma new_document {config : Config} {names : MarkdownAttributes} {f : Formatter}
    (h : (new config names).1 = .ok f) :
    f.config = config ∧ config.style.problem? = none ∧ f.document.style = config.style ∧
      Writer.Unvisited f.document.visitors := by
  rw [new] at h
  split at h
  · cases h
  · simp only at h
    split at h
    · cases h
    · rename_i document hd
      cases h
      obtain ⟨hs, hstyle, hv⟩ := Pipeline.visitors_new hd
      refine ⟨rfl, hs, hstyle, Writer.unvisited_of_names fun v hm => ?_⟩
      obtain ⟨x, hx, hv⟩ := hv v hm
      simp only [List.mem_cons, List.not_mem_nil, or_false] at hx
      rcases hx with rfl | rfl | rfl <;> obtain rfl := Option.some.inj hv <;> simp

/-- Where no front matter is written, the result reads as having some exactly when a fence stands on a
line after the first and the first block that is written as anything is exposed: a break behind blocks
that are written as nothing, or text whose first line is a fence. -/
theorem split_format_eq_absent_iff {config : Config} {f : Formatter} {earlier names : MarkdownAttributes}
    {patience : Patience} {src out : Bytes} (built : (new config earlier).1 = .ok f)
    (enabled : config.disableFormatter = false)
    (unwritten : ∀ root body, FrontMatter.split src ≠ .present root body)
    (ok : (f.format names patience src).result = .ok out) :
    let source := Punctuation.escape (formatFrontMatter src).2.1
    let doc := (f.document.parse names source).1
    FrontMatter.split out = .absent ↔
      ¬ ∃ before n s,
        Writer.firstWritten? ⟨config.style, f.document.visitors, source, Writer.labelsIn doc⟩ []
          doc.children = some (before, n, s) ∧
        Writer.Exposed config.style before n s ∧
        ∃ l ∈ (Bytes.split newline out).tail, FrontMatter.IsFence l := by
  intro source doc
  obtain ⟨hconfig, hstyle, hs, hr⟩ := new_document built
  have hbody := format_unwritten (hconfig ▸ enabled) unwritten ok
  have hdoc : doc.kind = .document := kind_parseDocument f.document.grammar names source
  have hwrite : Writer.write config.style f.document.visitors source doc = .ok out := by
    rw [formatBody_fst] at hbody
    rw [← hs]
    exact Pipeline.write_of_format (eq_ok_of_mapError hbody)
  rw [FrontMatter.split_eq_absent_iff, ← Writer.block?_write_isSome_iff hstyle hdoc hr hwrite]
  simp

theorem split_format_eq_absent_iff_leading :
    ∃ f, (new {} .initial).1 = .ok f ∧
      FrontMatter.split (utf8 "\n---\n\nkey: value\n\n---\n") = .absent ∧
      (f.format .initial none (utf8 "\n---\n\nkey: value\n\n---\n")).result =
        .ok (utf8 "***\n\nkey: value\n\n---\n") ∧
      FrontMatter.split (utf8 "***\n\nkey: value\n\n---\n") = .absent := by
  let src := utf8 "\n---\n\nkey: value\n\n---\n"
  let out := utf8 "***\n\nkey: value\n\n---\n"
  have hsrc : FrontMatter.split src = .absent := FrontMatter.split_eq_absent_iff.mpr (by decide +kernel)
  have hnew : ((new {} .initial).1.toOption.map fun f =>
      let source := Punctuation.escape (formatFrontMatter src).2.1
      let doc := (f.document.parse .initial source).1
      ((f.format .initial none src).result.toOption,
        (Writer.firstWritten? ⟨{}, f.document.visitors, source, Writer.labelsIn doc⟩ []
          doc.children).map fun x => (x.1.isEmpty, x.2.1.kind))) =
      some (some out, some (true, .thematicBreak)) := by decide +kernel
  obtain ⟨f, hf, hf'⟩ := Option.map_eq_some_iff.mp hnew
  obtain ⟨hout, hfirst⟩ := Prod.mk.inj hf'
  have built := eq_ok_of_toOption hf
  have ok := eq_ok_of_toOption hout
  refine ⟨f, built, hsrc, ok, (split_format_eq_absent_iff built rfl (by simp [hsrc]) ok).mpr ?_⟩
  rintro ⟨before, n, s, h, he, -⟩
  rw [h] at hfirst
  obtain ⟨hb, hk⟩ := Prod.mk.inj (Option.some.inj hfirst)
  rcases he with ⟨-, hne, -⟩ | ⟨hm, -⟩
  · exact hne (List.isEmpty_iff.mp hb)
  · rw [show n.kind = .thematicBreak from hk] at hm
    cases hm

/-- A definition of a link in front of the first break leaves a block that is written as nothing, so the
break is written as a fence, and the text behind it reads as front matter. -/
theorem split_format_hidden_definition :
    ∃ f, (new {} .initial).1 = .ok f ∧
      FrontMatter.split (utf8 "[a]: /x\n\n---\n\nkey: value\n\n---\n") = .absent ∧
      (f.format .initial none (utf8 "[a]: /x\n\n---\n\nkey: value\n\n---\n")).result =
        .ok (utf8 "---\n\nkey: value\n\n---\n") ∧
      ∃ root body, FrontMatter.split (utf8 "---\n\nkey: value\n\n---\n") = .present root body := by
  have hnew : ((new {} .initial).1.toOption.map fun f =>
      (f.format .initial none (utf8 "[a]: /x\n\n---\n\nkey: value\n\n---\n")).result.toOption) =
      some (some (utf8 "---\n\nkey: value\n\n---\n")) := by decide +kernel
  obtain ⟨f, hf, hout⟩ := Option.map_eq_some_iff.mp hnew
  refine ⟨f, eq_ok_of_toOption hf, FrontMatter.split_eq_absent_iff.mpr (by decide +kernel),
    eq_ok_of_toOption hout, exists_present (by decide +kernel)⟩

end Formatter

end MarkdownTidy
