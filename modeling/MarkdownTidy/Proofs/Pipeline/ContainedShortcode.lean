import MarkdownTidy.Proofs.Document.SoleShortcode
import MarkdownTidy.Proofs.Document.TreeKinds
import MarkdownTidy.Proofs.Pipeline.Idempotence
import MarkdownTidy.Proofs.Pipeline.Registration
import MarkdownTidy.Proofs.Writer.Containers

/-! Formatting a document that is one list item or one block quote with a single shortcode in it. -/

namespace MarkdownTidy

/-! ### Containers -/

/-- A list of one item, or a block quote. -/
inductive Container where
  | item
  | quote

def Node.chain : Node → List Kind
  | .mk info [] => [info.kind]
  | .mk info [n] => info.kind :: n.chain
  | .mk info (_ :: _ :: _) => [info.kind]

namespace Node

lemma exists_chain (n : Node) : ∃ ks, n.chain = n.kind :: ks := by
  fun_cases Node.chain n <;> exact ⟨_, rfl⟩

lemma chain_nest (outer : List Info) (n : Node) : (nest outer n).chain = outer.map Info.kind ++ n.chain := by
  induction outer with
  | nil => rfl
  | cons i outer ih => rw [nest, chain, ih, List.map_cons, List.cons_append]

lemma exists_of_chain {k l : Kind} {ks : List Kind} {n : Node} (h : n.chain = k :: l :: ks) :
    ∃ info m, n = .mk info [m] ∧ info.kind = k ∧ m.chain = l :: ks := by
  revert h
  fun_cases Node.chain n with
  | case2 info m =>
    intro h
    exact ⟨info, m, rfl, List.cons.inj h⟩
  | case1 | case3 => rintro ⟨⟩

end Node

namespace Container

def Kinds : Container → List Kind → Prop
  | .item, ks => ∃ mark start tight offset, ks = [.list mark start tight, .listItem offset]
  | .quote, ks => ks = [.blockquote]

/-- Blocks that are one container, whose only content is a paragraph made of a single shortcode. -/
def Holds (c : Container) (sc : Shortcode) (blocks : List Node) : Prop :=
  ∃ outer text n, c.Kinds (outer.map Info.kind) ∧ (text.kind = .paragraph ∨ text.kind = .textBlock) ∧
    n.kind = .shortcode sc ∧ blocks = [.nest outer (.mk text [n])]

lemma Holds.exists_chain {c : Container} {sc : Shortcode} {blocks : List Node} (h : c.Holds sc blocks) :
    ∃ outer text rest, c.Kinds outer ∧ blocks.map Node.chain = [outer ++ text :: .shortcode sc :: rest] := by
  obtain ⟨outer, text, n, hkinds, -, hn, rfl⟩ := h
  obtain ⟨rest, hrest⟩ := n.exists_chain
  refine ⟨_, text.kind, rest, hkinds, ?_⟩
  rw [List.map_singleton, Node.chain_nest, Node.chain, hrest, hn]

lemma holds_quote_of_chain {sc : Shortcode} {blocks : List Node}
    (h : blocks.map Node.chain = [[.blockquote, .paragraph, .shortcode sc]]) : quote.Holds sc blocks := by
  obtain ⟨n, rfl, hn⟩ := List.map_eq_singleton_iff.mp h
  obtain ⟨i, m, rfl, hi, hm⟩ := Node.exists_of_chain hn
  obtain ⟨text, s, rfl, htext, hs⟩ := Node.exists_of_chain hm
  obtain ⟨rest, hrest⟩ := s.exists_chain
  rw [hrest] at hs
  exact ⟨[i], text, s, congrArg (fun k => [k]) hi, .inl htext, (List.cons.inj hs).1, rfl⟩

lemma holds_item_of_chain {sc : Shortcode} {blocks : List Node} {mark : UInt8} {start offset : Nat} {tight : Bool}
    (h : blocks.map Node.chain = [[.list mark start tight, .listItem offset, .textBlock, .shortcode sc]]) :
    item.Holds sc blocks := by
  obtain ⟨n, rfl, hn⟩ := List.map_eq_singleton_iff.mp h
  obtain ⟨i, m, rfl, hi, hm⟩ := Node.exists_of_chain hn
  obtain ⟨j, n, rfl, hj, hn⟩ := Node.exists_of_chain hm
  obtain ⟨text, s, rfl, htext, hs⟩ := Node.exists_of_chain hn
  obtain ⟨rest, hrest⟩ := s.exists_chain
  rw [hrest] at hs
  refine ⟨[i, j], text, s, ⟨mark, start, tight, offset, ?_⟩, .inr htext, (List.cons.inj hs).1, rfl⟩
  rw [List.map_cons, List.map_singleton, hi, hj]

/-- What the container asks of the lines that a shortcode is written on. In an item there is one line only. In a quote
no later line begins with white space or a block, and none makes a table. -/
def Keeps : Container → Shortcode → Prop
  | .item, sc => ∀ a ∈ sc.attributes, Bytes.newline ∉ a.value
  | .quote, sc =>
    let ls := Bytes.split Bytes.newline sc.print
    (∀ l ∈ ls.tail, Flush l ∧ Writer.isBlankText l = false ∧ beginsBlock true l = false) ∧
      Table.find? (Bytes.unlines ls) (lineSpans 0 ls) = none

end Container

lemma Node.Read.nest {g : Grammar} {src : Bytes} {outer : List Info} {n : Node} (h : (Node.nest outer n).Read g src) :
    (∀ i ∈ outer, i.kind.Read g src) ∧ n.Read g src := by
  induction outer with
  | nil => exact ⟨by simp, h⟩
  | cons i outer ih =>
    obtain ⟨hinner, hn⟩ := ih (h.inner _ (List.mem_singleton_self _))
    exact ⟨List.forall_mem_cons.mpr ⟨h.own, hinner⟩, hn⟩

namespace Pipeline

variable {style : Style} {p : Pipeline} {s : ShortcodeSource}

/-! ### A pipeline with shortcodes -/

lemma insert_shortcode : let l : RuleList := defaultInline.map (·.1)
    RuleList.insert l (utf8 "shortcode") (l.earliest [123] (utf8 "html")) [123] =
      .ok (l.take 5 ++ ⟨utf8 "shortcode", 350, [123]⟩ :: l.drop 5, 350) := by
  decide +kernel

def shortcodeGrammar (s : ShortcodeSource) : Grammar :=
  { Plain.grammar with
    inline := [.taskCheckBox, .codeSpan, .footnote, .link, .autoLink, .shortcode s, .rawHtml, .emphasis, .strikethrough] }

lemma new_shortcodes (hs : s.reader.trigger = 123) (h : new style [.shortcodes s true] = .ok p) :
    p.visitors = [("Shortcode", .shortcode)] ∧ p.grammar = shortcodeGrammar s := by
  obtain ⟨hstyle, -⟩ := visitors_new h
  have hrule : (bare style).addShortcodes s true = .ok p := by
    rw [new, hstyle] at h
    simp only [registerAll, register] at h
    cases hadd : (bare style).addShortcodes s true with
    | error e => rw [hadd] at h; cases h
    | ok q => rw [hadd] at h; exact h
  have hinsert : (bare style).inline.insert _ ((bare style).inline.earliest _ _) _ = _ := insert_shortcode
  have hopen : (bare style).isSealed = false := rfl
  simp only [addShortcodes, if_true, addInlineRule, hs, InlineRule.triggers, hopen, hinsert] at hrule
  obtain rfl := Except.ok.inj hrule
  exact ⟨rfl, rfl⟩

lemma inlineRulesFor_shortcode (hs : s.reader.trigger = 123) :
    (shortcodeGrammar s).inlineRulesFor 123 = [.shortcode s] := by
  have hs' : (InlineRule.shortcode s).triggers.contains 123 = true := by simp [InlineRule.triggers, hs]
  simp only [shortcodeGrammar, Grammar.inlineRulesFor, List.filter_cons, hs', if_true]
  rfl

/-! ### Reading the container again -/

variable {tidy : Bytes → Bytes} {sc : Shortcode} {l : Bytes} {ls : List Bytes}

def plainShortcodes (tidy : Bytes → Bytes) : ShortcodeSource := ⟨.ofWritten tidy, some ⟨false, []⟩⟩

lemma triggered_firstLine (h : sc.Lines l ls) (t : Bytes) : Plain.triggered (l ++ t) = [] := by
  obtain ⟨x, -, rfl⟩ := h.opening
  rfl

lemma flush_firstLine (h : sc.Lines l ls) : Flush l := by
  obtain ⟨x, -, rfl⟩ := h.opening
  exact ⟨123, rfl, rfl⟩

lemma last_lines (h : sc.Lines l ls) : ∀ m ∈ (l :: ls).getLast?, ∀ b ∈ m.getLast?, Bytes.isSpace b = false := by
  intro m hm b hb
  rw [h.closing m hm b hb]
  rfl

lemma parse_lines (hsc : sc.Recognized) (hr : sc.Rereadable) (h : sc.Lines l ls) (hne : ∀ m ∈ ls, m ≠ []) {source : Bytes}
    {outer : List Info} {info : Info} {ctx : BlockContext} (houter : ∀ i ∈ outer, i.IsContainer)
    (hk : info.kind = .paragraph ∨ info.kind = .textBlock) (hlines : MarkedText source info.lines (l :: ls))
    (hctx : ctx.footnotes = []) {names : MarkdownAttributes}
    (hblocks : readBlocks Plain.grammar names source = ([.nest outer (.mk info [])], ctx)) :
    (parseDocument (shortcodeGrammar (plainShortcodes tidy)) names source).1.children =
      [.nest outer (.mk info [.leaf (.shortcode sc) []])] := by
  obtain ⟨x, hx, hopening⟩ := h.opening
  have hread : readBlocks (shortcodeGrammar (plainShortcodes tidy)) names source = ([.nest outer (.mk info [])], ctx) := by
    rw [shortcodeGrammar, readBlocks_withInline, hblocks]
  refine parseDocument_shortcode (b := 123) (s := plainShortcodes tidy) houter hk (by rw [hread]) (by rw [hread]; exact hctx)
    hlines ?_ (by decide) (inlineRulesFor_shortcode rfl) ?_ ?_
  · rw [List.forall_mem_cons]
    exact ⟨(flush_firstLine h).ne_nil, hne⟩
  · rintro _ ⟨⟩
    have hpos := List.length_pos_iff.mpr hx
    refine ⟨?_, by rw [hopening]; rfl, by rw [hopening]; exact List.prefix_append _ _⟩
    rw [hopening, List.length_append, List.length_cons, show Shortcode.writtenOpening.length = 3 from rfl]
    omega
  · intro names'
    rw [h.join_eq]
    exact hsc.tokenize?_print hr tidy

lemma staysParagraph_lines (h : sc.Lines l ls)
    (hls : ∀ m ∈ ls, Flush m ∧ Writer.isBlankText m = false ∧ beginsBlock true m = false)
    (htable : Table.find? (Bytes.unlines (l :: ls)) (lineSpans 0 (l :: ls)) = none) : StaysParagraph (l :: ls) := by
  refine ⟨?_, fun m hm => ⟨(hls m hm).1.isBlank, (hls m hm).2.2⟩, ?_⟩
  · rintro _ ⟨⟩
    have hrules : lineRules l = [] := by
      rw [lineRules, (flush_firstLine h).measure, if_pos (by omega), List.drop_zero]
      exact triggered_firstLine h [Bytes.newline]
    rw [beginsBlock, hrules]
    rfl
  · obtain ⟨x, -, rfl⟩ := h.opening
    exact (keepsText_eq (b := 123) rfl (by decide)).trans (Option.isNone_iff_eq_none.mpr htable)

lemma parse_quoted (hsc : sc.Recognized) (hr : sc.Rereadable) (h : sc.Lines l ls) (hk : Container.quote.Keeps sc)
    (names : MarkdownAttributes) :
    Container.quote.Holds sc (parseDocument (shortcodeGrammar (plainShortcodes tidy)) names
      (Bytes.unlines ((l :: ls).map quotedLine))).1.children := by
  obtain ⟨hls, htable⟩ := hk
  rw [h.split_eq] at hls htable
  have hflush : ∀ m ∈ l :: ls, Flush m :=
    List.forall_mem_cons.mpr ⟨flush_firstLine h, fun m hm => (hls m hm).1⟩
  obtain ⟨blank, spans, ctx, hmarked, hctx, hblocks⟩ := readBlocks_quoted h.unbroken hflush
    (triggered_firstLine h [Bytes.newline]) (staysParagraph_lines h hls htable) (last_lines h) names
  have hread := @parse_lines tidy sc l ls hsc hr h (fun m hm => (hls m hm).1.ne_nil) _ _ _ _
    (List.forall_mem_singleton.mpr ⟨rfl, .inl rfl⟩) (.inl rfl) hmarked hctx _ hblocks
  refine ⟨_, _, _, ?_, .inl rfl, rfl, hread⟩
  rfl

lemma parse_itemLine (hsc : sc.Recognized) (hr : sc.Rereadable) (h : sc.Lines l []) {m : Bytes} (hm : IsMarker m)
    (names : MarkdownAttributes) :
    Container.item.Holds sc (parseDocument (shortcodeGrammar (plainShortcodes tidy)) names
      (Bytes.unlines [itemLine m l])).1.children := by
  have hunbroken : Bytes.newline ∉ m ++ l := by
    rw [List.mem_append, not_or]
    exact ⟨hm.newline_notMem, h.unbroken l List.mem_cons_self⟩
  obtain ⟨mark, first, blank, spans, ctx, hmarked, hctx, hblocks⟩ := readBlocks_item hm hunbroken (flush_firstLine h)
    (triggered_firstLine h [Bytes.newline]) (last_lines h l rfl) names
  have houter : ∀ i ∈ [({ kind := .list mark first true, blankBefore := blank } : Info),
      { kind := .listItem (m.length + 1), blankBefore := blank }], i.IsContainer := by
    rw [List.forall_mem_cons, List.forall_mem_singleton]
    exact ⟨⟨rfl, .inr (.inl ⟨mark, first, true, rfl⟩)⟩, rfl, .inr (.inr ⟨m.length + 1, rfl⟩)⟩
  have hread := @parse_lines tidy sc l [] hsc hr h (by simp) _ _ _ _ houter (.inr rfl) hmarked hctx _ hblocks
  exact ⟨_, _, _, ⟨mark, first, true, m.length + 1, rfl⟩, .inr rfl, rfl, hread⟩

/-! ### Formatting -/

lemma recognized_of_read {tidy : Bytes → Bytes} {source : Bytes}
    (h : Kind.Read (shortcodeGrammar (plainShortcodes tidy)) source (.shortcode sc)) :
    sc.Recognized := by
  obtain ⟨s, names, text, n, hmem, htoken⟩ := h
  have hs : s = plainShortcodes tidy := by simpa [shortcodeGrammar] using hmem
  subst hs
  exact Shortcode.recognized_of_tokenize? htoken

/-- A list item or a block quote with a single shortcode in it is formatted as such, with the same shortcode, when the
lines of the shortcode are ones the container keeps. -/
theorem parse_format_contained {tidy : Bytes → Bytes} {style : Style} {p : Pipeline}
    (hp : new style [.shortcodes ⟨.new (utf8 "\x7b\x7b<") (utf8 ">\x7d\x7d") tidy, some (.new false [])⟩ true] = .ok p)
    (m n : MarkdownAttributes) {source : Bytes} {c : Container} {sc : Shortcode}
    (h : c.Holds sc (p.parse m source).1.children)
    (hvalues : ∀ a ∈ sc.attributes, byte '\r' ∉ a.value ∧ ¬ utf8 ">\x7d\x7d" <:+: a.value)
    (hfirst : ∀ a, sc.attributes.head? = some a → Text.startsBlank a.name = false) (hkeeps : c.Keeps sc) :
    ∃ out, (p.format m source).1 = .ok out ∧ c.Holds sc (p.parse n out).1.children := by
  obtain ⟨hproblem, hstyle, -⟩ := visitors_new hp
  obtain ⟨hvisitors, hgrammar⟩ := new_shortcodes (s := plainShortcodes tidy) rfl hp
  have hread := parseDocument_read p.grammar m source
  have hdoc := kind_parseDocument p.grammar m source
  rw [← parse] at hread hdoc
  obtain ⟨outer, text, s, hkinds, htext, hs, hchildren⟩ := h
  have htree := hread.inner _ (hchildren ▸ List.mem_singleton_self _)
  obtain ⟨houter, hnode⟩ := htree.nest
  have hown : (Kind.shortcode sc).Read p.grammar source := hs ▸ (hnode.inner s (List.mem_singleton_self s)).own
  rw [hgrammar] at hown
  have hsc := recognized_of_read hown
  obtain ⟨l, ls, hlines⟩ := hsc.exists_lines
  have hr : sc.Rereadable := ⟨hvalues, hfirst⟩
  have hformat : ∀ out, Writer.write style [("Shortcode", .shortcode)] source (p.parse m source).1 = .ok out →
      (p.format m source).1 = .ok out := by
    intro out hwrite
    rw [← hstyle, ← hvisitors] at hwrite
    rw [format_eq (hgrammar ▸ Plain.shortcode_notMem {})]
    exact congrArg (Except.mapError PipelineError.visitor) hwrite
  cases c with
  | quote =>
    obtain ⟨i, rfl, hi⟩ := List.map_eq_singleton_iff.mp hkinds
    have hblank : ∀ m ∈ ls, Writer.isBlankText m = false := by
      have hls := hkeeps.1
      rw [hlines.split_eq] at hls
      exact fun m hm => (hls m hm).2.1
    refine ⟨_, hformat _ (Writer.write_quote hdoc htext hs hsc hlines hi hchildren hblank), ?_⟩
    rw [parse, hgrammar]
    exact parse_quoted hsc hr hlines hkeeps n
  | item =>
    obtain ⟨mark, start, tight, offset, hkinds⟩ := hkinds
    obtain ⟨i, rest, rfl, hi, hrest⟩ := List.map_eq_cons_iff.mp hkinds
    obtain ⟨j, rfl, -⟩ := List.map_eq_singleton_iff.mp hrest
    have hstart : start < 10 ^ 9 := by
      have hlist := houter i List.mem_cons_self
      rwa [hi] at hlist
    have hsplit := hlines.split_eq
    rw [hsc.split_print hkeeps hfirst, List.cons.injEq] at hsplit
    obtain ⟨rfl, rfl⟩ := hsplit
    obtain ⟨marker, hmarker, hwrite⟩ := Writer.write_item hdoc htext hs hsc hlines hproblem hi hstart hchildren rfl
    refine ⟨_, hformat _ hwrite, ?_⟩
    rw [parse, hgrammar]
    exact parse_itemLine hsc hr hlines hmarker n

/-- The two lines of a value in a quote. -/
theorem parse_format_contained_quote :
    let source := utf8 "> \x7b\x7b< x title=\"one\n>   two\" >\x7d\x7d\n"
    let sc : Shortcode := ⟨utf8 "x", [⟨utf8 "title", utf8 "one\ntwo"⟩]⟩
    ∃ p out, new {} [.shortcodes ⟨.new (utf8 "\x7b\x7b<") (utf8 ">\x7d\x7d") id, some (.new false [])⟩ true] = .ok p ∧
      Container.quote.Holds sc (p.parse .initial source).1.children ∧ Container.quote.Keeps sc ∧
      (p.format .initial source).1 = .ok out ∧ Container.quote.Holds sc (p.parse .initial out).1.children := by
  intro source sc
  obtain ⟨p, hp, hparse⟩ : ∃ p,
      new {} [.shortcodes ⟨.new (utf8 "\x7b\x7b<") (utf8 ">\x7d\x7d") id, some (.new false [])⟩ true] = .ok p ∧
      (p.parse .initial source).1.children.map Node.chain = [[.blockquote, .paragraph, .shortcode sc]] :=
    ⟨_, rfl, by decide +kernel⟩
  have hkeeps : Container.quote.Keeps sc := by
    have hsplit : Bytes.split Bytes.newline sc.print = [utf8 "\x7b\x7b< x title=\"one", utf8 "two\" >\x7d\x7d"] := by
      decide +kernel
    rw [Container.Keeps, hsplit]
    exact ⟨List.forall_mem_singleton.mpr ⟨⟨_, rfl, rfl⟩, by decide +kernel, by decide +kernel⟩, by decide +kernel⟩
  obtain ⟨out, hformat, hread⟩ := parse_format_contained hp .initial .initial (Container.holds_quote_of_chain hparse)
    (by decide +kernel) (by decide +kernel) hkeeps
  exact ⟨p, out, hp, Container.holds_quote_of_chain hparse, hkeeps, hformat, hread⟩

/-- In an item the indentation of the later lines of a value is taken for part of the value, which grows. -/
theorem parse_format_contained_indented :
    let source := utf8 "- \x7b\x7b< x a=\"1\n  2\" >\x7d\x7d\n"
    let sc : Shortcode := ⟨utf8 "x", [⟨utf8 "a", utf8 "1\n  2"⟩]⟩
    ∃ p out, new {} [.shortcodes ⟨.new (utf8 "\x7b\x7b<") (utf8 ">\x7d\x7d") id, some (.new false [])⟩ true] = .ok p ∧
      Container.item.Holds sc (p.parse .initial source).1.children ∧
      (∀ a ∈ sc.attributes, byte '\r' ∉ a.value ∧ ¬ utf8 ">\x7d\x7d" <:+: a.value) ∧
      (p.format .initial source).1.toOption = some out ∧ ¬ Container.item.Holds sc (p.parse .initial out).1.children := by
  intro source sc
  let grown : Shortcode := ⟨utf8 "x", [⟨utf8 "a", utf8 "1\n    2"⟩]⟩
  have hgrown : ∃ p out,
      new {} [.shortcodes ⟨.new (utf8 "\x7b\x7b<") (utf8 ">\x7d\x7d") id, some (.new false [])⟩ true] = .ok p ∧
      (p.parse .initial source).1.children.map Node.chain =
        [[.list (byte '-') 0 true, .listItem 2, .textBlock, .shortcode sc]] ∧
      (p.format .initial source).1.toOption = some out ∧
      (p.parse .initial out).1.children.map Node.chain =
        [[.list (byte '-') 0 true, .listItem 2, .textBlock, .shortcode grown]] :=
    ⟨_, utf8 "- \x7b\x7b< x a=\"1\n    2\" >\x7d\x7d\n", rfl, by decide +kernel, by decide +kernel, by decide +kernel⟩
  obtain ⟨p, out, hp, hparse, hformat, hagain⟩ := hgrown
  refine ⟨p, out, hp, Container.holds_item_of_chain hparse, by decide +kernel, hformat, fun h => ?_⟩
  obtain ⟨outer, text, rest, ⟨_, _, _, _, rfl⟩, hchain⟩ := h.exists_chain
  rw [hagain] at hchain
  simp only [List.cons_append, List.nil_append, List.cons.injEq, Kind.shortcode.injEq] at hchain
  exact absurd hchain.1.2.2.2.1 (by decide)

end Pipeline

end MarkdownTidy
