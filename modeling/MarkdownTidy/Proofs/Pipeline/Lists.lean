import MarkdownTidy.Proofs.Document.TreeKinds
import MarkdownTidy.Proofs.Pipeline.Idempotence
import MarkdownTidy.Proofs.Pipeline.Registration
import MarkdownTidy.Proofs.Writer.OrderedItems
import MarkdownTidy.Proofs.Writer.SiblingLists

/-! Formatting lists: a document that is one ordered list, and the marks of two lists in one block. -/

namespace MarkdownTidy

/-! ### Ordered lists -/

namespace Writer

/-- The texts that the items of a list are written as, without their markers. -/
def itemTexts (style : Style) (source : Bytes) (doc list : Node) : List (Option Bytes) :=
  (writeNodes ⟨style, [], source, labelsIn doc⟩ list.kind [] list.children).map fun w =>
    (joinBlocks w.tight w.children).toOption

variable {env : Environment}

lemma exists_itemTexts (hr : env.registry = []) (parent : Kind) (before ns : List Node) :
    ∃ texts : List Bytes, texts.length = ns.length ∧
      (writeNodes env parent before ns).map (fun w => joinBlocks w.tight w.children) = texts.map .ok := by
  induction ns generalizing before with
  | nil => exact ⟨[], rfl, rfl⟩
  | cons n ns ih =>
    obtain ⟨texts, hlength, htexts⟩ := ih (n :: before)
    have hwhole := whole_writeNodes hr parent before (n :: ns)
    rw [writeNodes, List.forall_mem_cons] at hwhole
    obtain ⟨s, hs⟩ := exists_joinBlocks hwhole.1.children _
    refine ⟨s :: texts, by rw [List.length_cons, List.length_cons, hlength], ?_⟩
    rw [writeNodes, List.map_cons, htexts, List.map_cons]
    exact congrArg (· :: _) hs

lemma exists_write_ordered {style : Style} {source : Bytes} {doc l : Node} {mark : UInt8} {start : Nat} {tight : Bool}
    (hk : doc.kind = .document) (hn : doc.children = [l]) (hl : l.kind = .list mark start tight)
    (hmark : isDelimiterMark mark = true) (hstart : start < 10 ^ 9) {s : Bytes} {ss : List Bytes}
    (htexts : (writeNodes ⟨style, [], source, labelsIn doc⟩ l.kind [] l.children).map
      (fun w => joinBlocks w.tight w.children) = (s :: ss).map .ok)
    (hlong : style.incrementOrdered = true → start + (ss.length + 1) ≤ 10 ^ 9) (hs : ∀ t ∈ s :: ss, ItemText t) :
    ∃ ks, write style [] source doc = .ok (Bytes.unlines ks) ∧
      ListLines mark (decimal start ++ [mark]) ss.length ks := by
  have hmark' : mark = byte '.' ∨ mark = byte ')' := by simpa [isDelimiterMark] using hmark
  have hmarker : ∀ j ≤ ss.length, IsOrdinal mark (itemMarker style [] mark start (0 + j)) := by
    intro j hj
    rw [itemMarker, if_pos hmark]
    refine ⟨_, ?_, rfl⟩
    split
    · have hle := hlong ‹_›
      omega
    · exact hstart
  have hfirst : itemMarker style [] mark start 0 = decimal start ++ [mark] := by
    rw [itemMarker, if_pos hmark, Nat.add_zero, ite_self]
  have hown : (writeNode ⟨style, [], source, labelsIn doc⟩ ⟨.document, [], none⟩ l).own =
      .ok (Bytes.join (if tight then utf8 "\n" else utf8 "\n\n")
        (listItems (itemMarker style [] mark start) 0 (s :: ss))) := by
    rw [own_writeNode rfl, usual, hl]
    dsimp only
    rw [← hl, list_eq, items_eq htexts]
    rfl
  rw [List.forall_mem_cons] at hs
  obtain ⟨ls, hls, hlines⟩ := exists_list_lines tight hs.1 hs.2 hmarker
  have hordinal := hmarker 0 (Nat.zero_le _)
  rw [hfirst] at hlines
  rw [Nat.add_zero, hfirst] at hordinal
  obtain ⟨ks, hks, hlines'⟩ := exists_trimmed_lines (by simp) hls hlines (hlines.newline_notMem hordinal hmark')
  refine ⟨ks, ?_, hlines'⟩
  rw [← hks]
  refine write_sole rfl hk hn (fun hnil => ?_) hown
  rw [hnil] at hks
  obtain ⟨hy, -⟩ := hlines'
  obtain ⟨d, ds, hd, hdigit⟩ := exists_decimal start
  rw [Bytes.unlines_cons, hd] at hks
  obtain rfl := (List.cons.inj hks).1
  cases hdigit

end Writer

namespace Pipeline

/-- A document that is one ordered list is written as lines that are read as one ordered list with the same delimiter,
the same first number and as many items, unless the numbers become too long or the text of an item is not kept together
by its lines. -/
theorem parse_format_ordered {style : Style} {p : Pipeline} (hp : new style [] = .ok p) (m n : MarkdownAttributes)
    {source : Bytes} {l : Node} {mark : UInt8} {start : Nat} {tight : Bool} (hdoc : (p.parse m source).1.children = [l])
    (hl : l.kind = .list mark start tight) (hmark : isDelimiterMark mark = true) :
    ∃ texts : List Bytes, Writer.itemTexts style source (p.parse m source).1 l = texts.map some ∧
      ∃ out, (p.format m source).1 = .ok out ∧
        (l.children ≠ [] → (style.incrementOrdered = true → start + l.children.length ≤ 10 ^ 9) →
          (∀ s ∈ texts, Writer.ItemText s) →
          ∃ l' tight', (p.parse n out).1.children = [l'] ∧ l'.kind = .list mark start tight' ∧
            l'.children.length = l.children.length) := by
  obtain rfl := eq_bare_of_new hp
  have hwithin : l.Within ((bare style).parse m source).1 :=
    Node.within_of_mem_children (by rw [hdoc]; exact List.mem_cons_self)
  have hstart := ((parseDocument_read _ m source).within hwithin).own
  rw [hl] at hstart
  have hkind : ((bare style).parse m source).1.kind = .document := kind_parseDocument _ m source
  have hformat : ((bare style).format m source).1 =
      (Writer.write style [] source ((bare style).parse m source).1).mapError .visitor := by
    rw [format_eq (Plain.shortcode_notMem style)]
    rfl
  rw [hformat]
  generalize ((bare style).parse m source).1 = doc at hdoc hkind
  let env : Writer.Environment := ⟨style, [], source, Writer.labelsIn doc⟩
  have hregistry : env.registry = [] := rfl
  obtain ⟨texts, hlength, htexts⟩ := Writer.exists_itemTexts hregistry l.kind [] l.children
  refine ⟨texts, ?_, ?_⟩
  · have hsome := congrArg (List.map Except.toOption) htexts
    rwa [List.map_map, List.map_map] at hsome
  obtain ⟨s, hs⟩ := (Writer.whole_writeNode hregistry ⟨.document, [], none⟩ doc).exists_own
  refine ⟨if (Writer.trimNewlines s).isEmpty then [] else Writer.trimNewlines s ++ [Bytes.newline], ?_, ?_⟩
  · rw [Writer.write, hs]
    rfl
  intro hne hlong htext
  cases texts with
  | nil => exact absurd (List.length_eq_zero_iff.mp hlength.symm) hne
  | cons t ts =>
    rw [List.length_cons] at hlength
    rw [← hlength] at hlong ⊢
    obtain ⟨ks, hwrite, hlines⟩ := Writer.exists_write_ordered hkind hdoc hl hmark hstart htexts hlong htext
    rw [Writer.write, hs] at hwrite
    have hout : (if (Writer.trimNewlines s).isEmpty then [] else Writer.trimNewlines s ++ [Bytes.newline]) = Bytes.unlines ks :=
      Except.ok.inj hwrite
    rw [hout]
    obtain ⟨info, tight', children, hblocks, hlist, hno, hcount, hnotes⟩ :=
      readBlocks_ordered hstart (by simpa [isDelimiterMark] using hmark) rfl hlines n
    obtain ⟨children', hchildren, hsame⟩ := exists_parseDocument_list hblocks hlist hno hnotes
    exact ⟨.mk info children', tight', hchildren, hlist, hsame.trans hcount⟩

/-- Two items, one of them with a list in it. -/
theorem parse_format_ordered_nested :
    let source := utf8 "7) a\n    * b\n    * c\n3) d\n"
    let out := utf8 "7) a\n   - b\n   - c\n8) d\n"
    ∃ p l l' tight', new {} [] = .ok p ∧ (p.parse .initial source).1.children = [l] ∧ l.kind = .list (byte ')') 7 true ∧
      (p.format .initial source).1 = .ok out ∧ (p.parse .initial out).1.children = [l'] ∧
      l'.kind = .list (byte ')') 7 tight' ∧ l'.children.length = 2 := by
  intro source out
  have hkinds : ((bare {}).parse .initial source).1.children.map Node.kind = [.list (byte ')') 7 true] := by decide +kernel
  obtain ⟨l, hchildren, hkind⟩ := List.map_eq_singleton_iff.mp hkinds
  have hcount : l.children.length = 2 := by
    have hall : ((bare {}).parse .initial source).1.children.map (·.children.length) = [2] := by decide +kernel
    rw [hchildren] at hall
    exact (List.cons.inj hall).1
  have hwritten : Writer.itemTexts {} source ((bare {}).parse .initial source).1 l =
      [some (utf8 "a\n- b\n- c"), some (utf8 "d")] := by
    have hall : ((bare {}).parse .initial source).1.children.flatMap
        (Writer.itemTexts {} source ((bare {}).parse .initial source).1) =
        [some (utf8 "a\n- b\n- c"), some (utf8 "d")] := by decide +kernel
    rwa [hchildren, List.flatMap_singleton] at hall
  obtain ⟨texts, htexts, out', hout, hread⟩ :=
    parse_format_ordered (p := bare {}) (show new {} [] = _ from rfl) .initial .initial hchildren hkind (by decide)
  have hformat : ((bare {}).format .initial source).1.toOption = some out := by decide +kernel
  rw [hout] at hformat
  obtain rfl : out' = out := Option.some.inj hformat
  obtain rfl : texts = [utf8 "a\n- b\n- c", utf8 "d"] :=
    List.map_injective_iff.mpr (Option.some_injective _) (htexts.symm.trans hwritten)
  have htext : ∀ s ∈ [utf8 "a\n- b\n- c", utf8 "d"], Writer.ItemText s := by decide +kernel
  obtain ⟨l', tight', hl', hkind', hcount'⟩ :=
    hread (List.ne_nil_of_length_pos (by rw [hcount]; decide)) (fun _ => by rw [hcount]; decide) htext
  exact ⟨_, l, l', tight', rfl, hchildren, hkind, hout, hl', hkind', hcount'.trans hcount⟩

/-- A number of ten digits is no marker: the line of the second item goes on with the first. -/
theorem parse_format_ordered_long :
    let source := utf8 "999999999. a\n1. b\n"
    let out := utf8 "999999999. a\n1000000000. b\n"
    ∃ p, new {} [] = .ok p ∧ (p.format .initial source).1.toOption = some out ∧
      (p.parse .initial source).1.children.map Node.kind = [.list (byte '.') 999999999 true] ∧
      (p.parse .initial source).1.children.map (·.children.length) = [2] ∧
      (p.parse .initial out).1.children.map Node.kind = [.list (byte '.') 999999999 true] ∧
      (p.parse .initial out).1.children.map (·.children.length) = [1] := by
  refine ⟨bare {}, rfl, ?_⟩
  decide +kernel

end Pipeline

/-! ### Lists side by side -/

namespace Writer

def childTexts (style : Style) (source : Bytes) (doc n : Node) : List (Option Bytes) :=
  (writeNodes ⟨style, [], source, labelsIn doc⟩ n.kind [] n.children).map (·.own.toOption)

variable {style : Style} {source : Bytes} {env : Environment} {parent : Kind} {before ns : List Node} {l : Node} {i : Nat}
  {texts : List Bytes} {mark : UInt8} {start : Nat} {tight : Bool} {s : Bytes}

lemma exists_texts (hr : env.registry = []) (parent : Kind) (ns : List Node) :
    ∃ texts : List Bytes, (writeNodes env parent [] ns).map Written.own = texts.map .ok ∧
      (writeNodes env parent [] ns).map (·.own.toOption) = texts.map some := by
  have hwhole := whole_writeNodes hr parent [] ns
  generalize writeNodes env parent [] ns = ws at hwhole
  induction ws with
  | nil => exact ⟨[], rfl, rfl⟩
  | cons w ws ih =>
    rw [List.forall_mem_cons] at hwhole
    obtain ⟨s, hs⟩ := hwhole.1.exists_own
    obtain ⟨texts, htexts, hsome⟩ := ih hwhole.2
    refine ⟨s :: texts, ?_, ?_⟩
    · rw [List.map_cons, List.map_cons, hs, htexts]
    · rw [List.map_cons, List.map_cons, hs, hsome]
      rfl

lemma getElem?_writeNodes (before : List Node) (hi : ns[i]? = some l) :
    (writeNodes env parent before ns)[i]? = some (writeNode env ⟨parent, (ns.take i).reverse ++ before, ns[i + 1]?⟩ l) := by
  induction ns generalizing before i with
  | nil => cases hi
  | cons n ns ih =>
    cases i with
    | zero =>
      obtain rfl : n = l := Option.some.inj hi
      simp [writeNodes, List.head?_eq_getElem?]
    | succ i =>
      rw [writeNodes, List.getElem?_cons_succ, ih (n :: before) hi]
      simp

lemma exists_marked (hr : env.registry = []) (hs : env.style.problem? = none) (hl : l.kind = .list mark start tight)
    (hstart : start < 10 ^ 9) (hi : ns[i]? = some l)
    (htexts : (writeNodes env parent [] ns).map Written.own = texts.map .ok) (htext : texts[i]? = some s) (hne : s ≠ []) :
    ∃ x, s = itemMarker env.style (ns.take i).reverse mark start 0 ++ x ∧ Detached x := by
  have hown : ((writeNodes env parent [] ns).map Written.own)[i]? = some (.ok s) := by
    rw [htexts, List.getElem?_map, htext]
    rfl
  rw [List.getElem?_map, getElem?_writeNodes [] hi, Option.map_some, own_writeNode (by rw [hr]; rfl), List.append_nil] at hown
  have hlist := Option.some.inj hown
  rw [usual, hl] at hlist
  cases hw : writeNodes env (Kind.list mark start tight) [] l.children with
  | nil =>
    rw [hw] at hlist
    exact absurd (Except.ok.inj hlist).symm (by cases tight <;> simpa [Bytes.join] using hne)
  | cons w ws =>
    rw [hw] at hlist
    exact exists_list hs hstart rfl hlist

end Writer

namespace Pipeline

/-- Two lists among the blocks in a block are written with the same mark when both are ordered with the same delimiter,
or when both have bullets and the number of bullet lists directly in front of them is odd for both or even for both; so
two bullet lists that follow each other directly never share a mark. A list ends where a list with another mark begins. -/
theorem sibling_marks {style : Style} {p : Pipeline} (hp : new style [] = .ok p) (names : MarkdownAttributes)
    {source : Bytes} {parent : Node} (hparent : parent.Within (p.parse names source).1) :
    ∃ texts : List Bytes, Writer.childTexts style source (p.parse names source).1 parent = texts.map some ∧
      ∀ {i j : Nat} {l₁ l₂ : Node} {a b : UInt8} {start₁ start₂ : Nat} {tight₁ tight₂ : Bool} {s₁ s₂ : Bytes},
        parent.children[i]? = some l₁ → parent.children[j]? = some l₂ → l₁.kind = .list a start₁ tight₁ →
        l₂.kind = .list b start₂ tight₂ → texts[i]? = some s₁ → texts[j]? = some s₂ → s₁ ≠ [] → s₂ ≠ [] →
        ∃ m₁ m₂, ListMarker.read? s₁ = some m₁ ∧ ListMarker.read? s₂ = some m₂ ∧
          (m₁.mark = m₂.mark ↔ isDelimiterMark a = true ∧ a = b ∨ isDelimiterMark a = false ∧ isDelimiterMark b = false ∧
            Writer.bulletRun (parent.children.take i).reverse % 2 = Writer.bulletRun (parent.children.take j).reverse % 2) ∧
          (m₁.mark ≠ m₂.mark → ∀ last ctx f offset isEmpty (c : LineCursor), 0 < offset →
            c.rest = Bytes.firstLine s₂ ++ [Bytes.newline] →
            Continuing.list last ctx f m₁.mark offset isEmpty c = (ctx, .close f c)) := by
  obtain ⟨hstyle, -⟩ := visitors_new hp
  obtain rfl := eq_bare_of_new hp
  rw [Writer.childTexts]
  generalize henv : (⟨style, [], source, Writer.labelsIn ((bare style).parse names source).1⟩ : Writer.Environment) = env
  have hr : env.registry = [] := by rw [← henv]
  have henvStyle : env.style = style := by rw [← henv]
  rw [← henvStyle] at hstyle
  have hread := (parseDocument_read _ _ _).within hparent
  obtain ⟨texts, htexts, hsome⟩ := Writer.exists_texts hr parent.kind parent.children
  refine ⟨texts, hsome, fun {i j l₁ l₂ a b start₁ start₂ tight₁ tight₂ s₁ s₂} hi hj h₁ h₂ hs₁ hs₂ hne₁ hne₂ => ?_⟩
  have hstart : ∀ {k : Nat} {l : Node} {mark start tight}, parent.children[k]? = some l → l.kind = .list mark start tight →
      start < 10 ^ 9 := by
    intro k l mark start tight hk hl
    have hown := (hread.inner l (List.mem_of_getElem? hk)).own
    rwa [hl] at hown
  have hstart₁ := hstart hi h₁
  have hstart₂ := hstart hj h₂
  obtain ⟨x₁, rfl, hx₁⟩ := Writer.exists_marked hr hstyle h₁ hstart₁ hi htexts hs₁ hne₁
  obtain ⟨x₂, rfl, hx₂⟩ := Writer.exists_marked hr hstyle h₂ hstart₂ hj htexts hs₂ hne₂
  obtain ⟨m₁, hm₁, hmark₁⟩ := Writer.read?_list hstyle (parent.children.take i).reverse a hstart₁ hx₁
  obtain ⟨m₂, hm₂, hmark₂⟩ := Writer.read?_list hstyle (parent.children.take j).reverse b hstart₂ hx₂
  refine ⟨m₁, m₂, hm₁, hm₂, ?_, fun hdiffer last ctx f offset isEmpty c hoffset hc => ?_⟩
  · rw [hmark₁, hmark₂]
    exact Writer.writtenMark_eq_iff hstyle _ _
  · have hmarker := Writer.isMarker_itemMarker (i := 0) hstyle (parent.children.take j).reverse b hstart₂
    rw [Bytes.firstLine_append hmarker.newline_notMem, List.append_assoc] at hc
    refine Writer.close_of_mark hmarker ?_ hc ?_ hoffset last ctx f isEmpty
    · exact (Detached.firstLine hx₂).append (by simp)
    · rw [Writer.getLast?_itemMarker hstyle, ne_eq, Option.some.injEq, ← hmark₂]
      exact Ne.symm hdiffer

/-- Two lists in a block quote. -/
theorem sibling_marks_quoted :
    let source := utf8 "> + a\n> - b\n"
    ∃ (p : Pipeline) (parent : Node) (m₁ m₂ : ListMarker), new {} [] = .ok p ∧ parent.Within (p.parse .initial source).1 ∧
      parent.kind = .blockquote ∧
      Writer.childTexts {} source (p.parse .initial source).1 parent = [some (utf8 "- a"), some (utf8 "* b")] ∧
      ListMarker.read? (utf8 "- a") = some m₁ ∧ ListMarker.read? (utf8 "* b") = some m₂ ∧ m₁.mark ≠ m₂.mark := by
  intro source
  have hkinds : ((bare {}).parse .initial source).1.children.map Node.kind = [.blockquote] := by decide +kernel
  obtain ⟨parent, hchildren, hkind⟩ := List.map_eq_singleton_iff.mp hkinds
  have hparent : parent.Within ((bare {}).parse .initial source).1 :=
    Node.within_of_mem_children (by rw [hchildren]; exact List.mem_cons_self)
  have hlists : parent.children.map Node.kind = [.list (byte '+') 0 true, .list (byte '-') 0 true] := by
    have hall : ((bare {}).parse .initial source).1.children.flatMap (fun n => n.children.map Node.kind) =
        [.list (byte '+') 0 true, .list (byte '-') 0 true] := by decide +kernel
    rwa [hchildren, List.flatMap_singleton] at hall
  have hwritten : Writer.childTexts {} source ((bare {}).parse .initial source).1 parent =
      [some (utf8 "- a"), some (utf8 "* b")] := by
    have hall : ((bare {}).parse .initial source).1.children.flatMap
        (Writer.childTexts {} source ((bare {}).parse .initial source).1) =
        [some (utf8 "- a"), some (utf8 "* b")] := by decide +kernel
    rwa [hchildren, List.flatMap_singleton] at hall
  obtain ⟨texts, htexts, hmarks⟩ := sibling_marks (p := bare {}) (show new {} [] = _ from rfl) .initial hparent
  obtain rfl : texts = [utf8 "- a", utf8 "* b"] :=
    List.map_injective_iff.mpr (Option.some_injective _) (htexts.symm.trans hwritten)
  obtain ⟨l₁, ls, hl, h₁, hrest⟩ := List.map_eq_cons_iff.mp hlists
  obtain ⟨l₂, rfl, h₂⟩ := List.map_eq_singleton_iff.mp hrest
  obtain ⟨m₁, m₂, hm₁, hm₂, hiff, -⟩ :=
    hmarks (i := 0) (j := 1) (by rw [hl]; rfl) (by rw [hl]; rfl) h₁ h₂ rfl rfl (by decide) (by decide)
  have hrun : Writer.bulletRun (parent.children.take 1).reverse = 1 := by
    rw [hl, Writer.bulletRun, List.take_succ_cons, List.take_zero, List.reverse_singleton,
      List.takeWhile_cons_of_pos (by rw [Node.isBulletList_of_kind h₁]; rfl)]
    rfl
  refine ⟨bare {}, parent, m₁, m₂, rfl, hparent, hkind, hwritten, hm₁, hm₂, ?_⟩
  rw [ne_eq, hiff, hrun, List.take_zero]
  decide

/-- Between two lists, a link definition is written as nothing: the second list does not follow the first directly, gets
the same bullet, and what is written is read as a single list. -/
theorem sibling_marks_definition :
    let source := utf8 "- a\n\n[x]: /y\n\n- b\n"
    ∃ p, new {} [] = .ok p ∧
      (p.parse .initial source).1.children.map Node.kind = [.list (byte '-') 0 true, .textBlock, .list (byte '-') 0 true] ∧
      Writer.childTexts {} source (p.parse .initial source).1 (p.parse .initial source).1 =
        [some (utf8 "- a"), some [], some (utf8 "- b")] ∧
      (p.format .initial source).1.toOption = some (utf8 "- a\n\n- b\n") ∧
      (p.parse .initial (utf8 "- a\n\n- b\n")).1.children.map Node.kind = [.list (byte '-') 0 false] :=
  ⟨bare {}, rfl, by decide +kernel, by decide +kernel, by decide +kernel, by decide +kernel⟩

end Pipeline

end MarkdownTidy
