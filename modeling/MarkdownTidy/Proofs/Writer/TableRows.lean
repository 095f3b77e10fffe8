import MarkdownTidy.Pipeline.Plugin
import MarkdownTidy.Proofs.Document.RowCells
import MarkdownTidy.Proofs.Writer.Grid

/-! Reading the rows of a written table. A row is split at its pipes again, so its cells come back as they were written
exactly when none of them has a pipe that separates cells. -/

namespace MarkdownTidy.Writer

open Table (Framed Bounded hasBarePipe)

/-! ### The texts of cells -/

lemma bounded_onOneLine (s : Bytes) : Bounded (onOneLine s) :=
  ⟨fun _ h => Text.isSpace_head?_trimSpace h, fun _ h => Text.isSpace_getLast?_trimSpace h⟩

/-! ### Lines as cells between separators -/

def spaced (c : Bytes) : Bytes := byte ' ' :: (c ++ [byte ' '])

lemma join_spaced {cells : List Bytes} (h : cells ≠ []) :
    Bytes.join [byte '|'] (cells.map spaced) = byte ' ' :: (Bytes.join (utf8 " | ") cells ++ [byte ' ']) := by
  have hsep : utf8 " | " = [byte ' ', byte '|', byte ' '] := by decide
  rw [hsep]
  induction cells with
  | nil => contradiction
  | cons c cells ih =>
    cases cells with
    | nil => simp [Bytes.join, spaced]
    | cons d cells =>
      have hrest : (d :: cells).map spaced ≠ [] := List.cons_ne_nil _ _
      rw [List.map_cons, Bytes.join_cons hrest, ih (List.cons_ne_nil _ _), Bytes.join_cons (List.cons_ne_nil d cells), spaced]
      simp only [List.cons_append, List.append_assoc, List.nil_append]

lemma rowLine_eq {cells : List Bytes} (h : cells ≠ []) :
    rowLine cells = byte '|' :: (Bytes.join [byte '|'] (cells.map spaced) ++ [byte '|']) := by
  have hfront : utf8 "| " = [byte '|', byte ' '] := by decide
  have hback : utf8 " |" = [byte ' ', byte '|'] := by decide
  rw [rowLine, hfront, hback, join_spaced h]
  simp only [List.cons_append, List.append_assoc, List.nil_append]

lemma IsPadded.framed {width : Nat} {a : Alignment} {s cell : Bytes} (h : IsPadded width a s cell) : Framed s (spaced cell) := by
  obtain ⟨l, r, rfl, -, -⟩ := h
  refine ⟨l, r, ?_⟩
  rw [spaced, Bytes.spaces_succ, show Bytes.spaces (r + 1) = Bytes.spaces r ++ [byte ' '] from List.replicate_succ']
  simp

/-! ### The delimiter row -/

variable {width : Nat} {a : Alignment} {c p : Bytes}

def marks (left right : Bool) (n : Nat) : Bytes :=
  (if left then [byte ':'] else []) ++ (dashes n ++ if right then [byte ':'] else [])

lemma mem_marks {left right : Bool} {n : Nat} {b : UInt8} (h : b ∈ marks left right n) : b = byte '-' ∨ b = byte ':' := by
  have hdash : b ∈ dashes n → b = byte '-' := List.eq_of_mem_replicate
  rw [marks, List.mem_append, List.mem_append] at h
  rcases h with h | h | h
  · cases left
    · cases h
    · exact .inr (List.mem_singleton.mp h)
  · exact .inl (hdash h)
  · cases right
    · cases h
    · exact .inr (List.mem_singleton.mp h)

def leads (a : Alignment) : Bool := a == .left || a == .center

def trails (a : Alignment) : Bool := a == .right || a == .center

lemma IsRule.eq_marks (h : IsRule width a c) : ∃ n, 0 < n ∧ c = marks (leads a) (trails a) n := by
  obtain ⟨n, hn, -, h⟩ := h
  refine ⟨n, hn, ?_⟩
  cases a <;> simp [h, marks, leads, trails]

lemma alignment?_framed (h : IsRule width a c) (hp : Framed c p) : Table.alignment? p = some a := by
  obtain ⟨n, hn, rfl⟩ := h.eq_marks
  obtain ⟨n, rfl⟩ : ∃ k, n = k + 1 := ⟨n - 1, by omega⟩
  obtain ⟨l, r, hframe⟩ := hp
  unfold Table.alignment?
  generalize ht : Bytes.trim _ p = t
  have htrim : t = marks (leads a) (trails a) (n + 1) := by
    rw [← ht, hframe]
    refine Bytes.trim_append ?_ ?_ ?_ ?_
    · exact fun c hc => Bytes.eq_of_mem_spaces hc ▸ rfl
    · exact fun c hc => Bytes.eq_of_mem_spaces hc ▸ rfl
    · exact fun c hc => (mem_marks (List.mem_of_head? hc)).elim (· ▸ rfl) (· ▸ rfl)
    · exact fun c hc => (mem_marks (List.mem_of_getLast? hc)).elim (· ▸ rfl) (· ▸ rfl)
  have hbody : (if leads a then t.drop 1 else t) = dashes (n + 1) ++ if trails a then [byte ':'] else [] := by
    rw [htrim, marks]
    cases leads a <;> rfl
  have hleft : (t.head? == some (byte ':')) = leads a := by
    rw [htrim, marks]
    cases leads a <;> rfl
  have hrest : (if trails a then [byte ':'] else []).head? ≠ some (byte '-') := by cases trails a <;> decide
  have hrun : ((dashes (n + 1) ++ if trails a then [byte ':'] else []).takeWhile (· == byte '-')).length = n + 1 :=
    Bytes.length_run hrest
  simp only [hleft, hbody, List.isEmpty_iff_length_eq_zero, hrun]
  rw [dashes, Bytes.drop_run]
  cases a <;> rfl

variable {alignments : List Alignment} {ps : List Bytes} {b : Bytes}

def Delimits (alignments : List Alignment) (ps : List Bytes) : Prop :=
  List.Forall₂ (fun a p => ∃ width c, IsRule width a c ∧ Framed c p) alignments ps

lemma Delimits.mapM (h : Delimits alignments ps) : ps.mapM Table.alignment? = some alignments := by
  induction h with
  | nil => rfl
  | cons hp _ ih =>
    obtain ⟨width, c, hc, hp⟩ := hp
    rw [List.mapM_cons, alignment?_framed hc hp, ih]
    rfl

lemma Delimits.mem (h : Delimits alignments ps) : ∀ p ∈ ps, ∀ b ∈ p, b = byte ' ' ∨ b = byte '-' ∨ b = byte ':' := by
  induction h with
  | nil => simp
  | cons hp _ ih =>
    obtain ⟨width, c, hc, l, r, rfl⟩ := hp
    refine List.forall_mem_cons.mpr ⟨fun b hb => ?_, ih⟩
    rw [List.mem_append, List.mem_append] at hb
    rcases hb with (hb | hb) | hb
    · exact .inl (Bytes.eq_of_mem_spaces hb)
    · obtain ⟨n, -, rfl⟩ := hc.eq_marks
      exact .inr (mem_marks hb)
    · exact .inl (Bytes.eq_of_mem_spaces hb)

lemma alignments?_delimits (h : Delimits alignments ps) (hne : alignments ≠ []) (hb : ∀ c ∈ b, Bytes.isSpace c = true) :
    Table.alignments? (byte '|' :: (Bytes.join [byte '|'] ps ++ [byte '|']) ++ b) = some alignments := by
  have hps : ps ≠ [] := by
    rintro rfl
    exact hne (List.forall₂_nil_right_iff.mp h)
  have hjoin : byte '|' :: (Bytes.join [byte '|'] ps ++ [byte '|']) ++ b = Bytes.join [byte '|'] ([] :: (ps ++ [b])) := by
    rw [Bytes.join_cons (by simp), Bytes.join_concat hps, List.nil_append, List.singleton_append, List.cons_append]
  have hnone : ∀ p ∈ ps, byte '|' ∉ p := fun p hp hmem => by
    rcases h.mem p hp _ hmem with he | he | he <;> exact absurd he (by decide)
  have hblank : byte '|' ∉ b := fun hmem => absurd (hb _ hmem) (by decide)
  have hsplit : Bytes.split (byte '|') (byte '|' :: (Bytes.join [byte '|'] ps ++ [byte '|']) ++ b) = [] :: (ps ++ [b]) := by
    rw [hjoin]
    refine Bytes.split_join (List.cons_ne_nil _ _) ?_
    simpa [or_imp, forall_and] using ⟨hnone, hblank⟩
  have hallowed : ∀ c ∈ byte '|' :: (Bytes.join [byte '|'] ps ++ [byte '|']) ++ b,
      Bytes.isSpace c = true ∨ c = byte '-' ∨ c = byte '|' ∨ c = byte ':' := by
    intro c hc
    rw [hjoin] at hc
    rcases Bytes.mem_join hc with hc | ⟨p, hp, hc⟩
    · exact .inr (.inr (.inl (List.mem_singleton.mp hc)))
    · rw [List.mem_cons, List.mem_append, List.mem_singleton] at hp
      rcases hp with he | hp | he
      · rw [he] at hc
        cases hc
      · rcases h.mem p hp c hc with rfl | he | he
        · exact .inl (by decide)
        · exact .inr (.inl he)
        · exact .inr (.inr (.inr he))
      · exact .inl (hb c (he ▸ hc))
  have hblankb : Bytes.isBlank b = true := by simpa [Bytes.isBlank] using hb
  unfold Table.alignments?
  rw [if_neg, hsplit]
  · simp only [List.head?_cons, Option.map_some, Option.getD_some, Bytes.isBlank, List.all_nil, if_true, List.drop_succ_cons,
      List.drop_zero, List.getLast?_concat, List.dropLast_concat]
    rw [show b.all Bytes.isSpace = true from hblankb, if_pos rfl, h.mapM]
    cases alignments with
    | nil => contradiction
    | cons a as => rfl
  · have hall : ∀ p : UInt8 → Bool, (∀ c, Bytes.isSpace c = true ∨ c = byte '-' ∨ c = byte '|' ∨ c = byte ':' → p c = true) →
        (byte '|' :: (Bytes.join [byte '|'] ps ++ [byte '|']) ++ b).all p = true :=
      fun p hp => List.all_eq_true.mpr fun c hc => hp c (hallowed c hc)
    have hfirst : (byte '|' == byte '-') = false := by decide
    rw [hall _ fun c hc => by simpa [or_assoc] using hc, List.cons_append, measure_cons (by decide), List.all_cons, hfirst]
    simp

/-! ### The rows of a table -/

variable {rows : List (List Bytes)} {cells : List Bytes} {source : Bytes} {line : Span}

lemma columnCount_eq (h : ∀ cells ∈ rows, cells.length = alignments.length) : columnCount alignments rows = alignments.length := by
  rcases (isGreatest_columnCount alignments rows).1 with hc | ⟨cells, hmem, hc⟩
  · exact hc
  · exact hc.trans (h cells hmem)

lemma framed_gridRow (h : ∀ cells ∈ rows, cells.length = alignments.length) (hc : cells ∈ rows) :
    List.Forall₂ Framed cells ((gridRow alignments rows cells).map spaced) := by
  rw [List.forall₂_map_right_iff, List.forall₂_iff_get]
  refine ⟨by rw [gridRow, List.length_map, List.length_range, columnCount_eq h, h cells hc], fun i hi hi' => ?_⟩
  have hget := gridRow_isPadded hc (List.getElem?_eq_getElem hi')
  rw [List.getElem?_eq_getElem hi, Option.getD_some] at hget
  exact hget.framed

lemma delimits_ruleRow (h : ∀ cells ∈ rows, cells.length = alignments.length) :
    Delimits alignments ((ruleRow alignments rows).map spaced) := by
  rw [Delimits, List.forall₂_map_right_iff, List.forall₂_iff_get]
  refine ⟨by rw [ruleRow, List.length_map, List.length_range, columnCount_eq h], fun i hi hi' => ?_⟩
  have hget := ruleRow_isRule (List.getElem?_eq_getElem hi')
  rw [List.getD_eq_getElem?_getD, List.getElem?_eq_getElem hi, Option.getD_some] at hget
  exact ⟨_, _, hget, 0, 0, rfl⟩

def Holds (source : Bytes) (s : Span) (l : Bytes) : Prop := ∃ b, (∀ c ∈ b, Bytes.isSpace c = true) ∧ s.Covers source (l ++ b)

lemma gridRow_ne_nil (hne : alignments ≠ []) (cells : List Bytes) : gridRow alignments rows cells ≠ [] := by
  have hle := (isGreatest_columnCount alignments rows).2 (.inl rfl)
  have hpos := List.length_pos_iff.mpr hne
  rw [← List.length_pos_iff, gridRow, List.length_map, List.length_range]
  omega

lemma ruleRow_ne_nil (hne : alignments ≠ []) : ruleRow alignments rows ≠ [] := by
  have hle := (isGreatest_columnCount alignments rows).2 (.inl rfl)
  have hpos := List.length_pos_iff.mpr hne
  rw [← List.length_pos_iff, ruleRow, List.length_map, List.length_range]
  omega

lemma row_gridRow_iff (hne : alignments ≠ []) (h : ∀ cells ∈ rows, cells.length = alignments.length) (hc : cells ∈ rows)
    (hbounded : ∀ s ∈ cells, Bounded s) (header : Bool) (hline : Holds source line (rowLine (gridRow alignments rows cells))) :
    (Table.row source alignments header line).1.map (Table.cellValue source) = cells ↔ ∀ s ∈ cells, hasBarePipe s = false := by
  obtain ⟨b, hb, hcovers⟩ := hline
  rw [rowLine_eq (gridRow_ne_nil hne cells)] at hcovers
  exact Table.row_eq_iff (framed_gridRow h hc) hbounded (h cells hc) hb hcovers

lemma alignments?_ruleRow (hne : alignments ≠ []) (h : ∀ cells ∈ rows, cells.length = alignments.length)
    (hline : Holds source line (rowLine (ruleRow alignments rows))) :
    Table.alignments? (line.value source) = some alignments := by
  obtain ⟨b, hb, hcovers⟩ := hline
  rw [hcovers.value_eq, rowLine_eq (ruleRow_ne_nil hne)]
  exact alignments?_delimits (delimits_ruleRow h) hne hb

def cellValues (source : Bytes) (t : Node) : List (List Bytes) :=
  t.children.map fun row => row.children.map (Table.cellValue source)

lemma map_row_eq_iff {lines : List Span} {body : List (List Bytes)} (hne : alignments ≠ [])
    (h : ∀ cells ∈ rows, cells.length = alignments.length) (hbounded : ∀ cells ∈ rows, ∀ s ∈ cells, Bounded s)
    (hbody : ∀ cells ∈ body, cells ∈ rows)
    (hlines : List.Forall₂ (Holds source) lines (body.map fun cells => rowLine (gridRow alignments rows cells))) :
    lines.map (fun line => (Table.row source alignments false line).1.map (Table.cellValue source)) = body ↔
      ∀ cells ∈ body, ∀ s ∈ cells, hasBarePipe s = false := by
  induction body generalizing lines with
  | nil =>
    cases hlines
    simp
  | cons cells body ih =>
    rw [List.forall_mem_cons] at hbody
    cases hlines with
    | cons hline hlines =>
      rw [List.map_cons, List.cons.injEq, ih hbody.2 hlines, List.forall_mem_cons,
        row_gridRow_iff hne h hbody.1 (hbounded cells hbody.1) false hline]

lemma find?_table_iff {spans : List Span} {header : List Bytes} {body : List (List Bytes)} (hne : alignments ≠ [])
    (h : ∀ cells ∈ header :: body, cells.length = alignments.length)
    (hbounded : ∀ cells ∈ header :: body, ∀ s ∈ cells, Bounded s)
    (hunbroken : ∀ cells ∈ header :: body, ∀ s ∈ cells, Bytes.newline ∉ s)
    (hspans : List.Forall₂ (Holds source) spans (Bytes.split Bytes.newline (table alignments (header :: body)))) :
    (∃ found, Table.find? source spans = some found ∧ found.before = [] ∧ found.table.kind = .table alignments ∧
        cellValues source found.table = header :: body) ↔
      ∀ cells ∈ header :: body, ∀ s ∈ cells, hasBarePipe s = false := by
  rw [split_table hunbroken] at hspans
  obtain ⟨first, behind, hfirst, hbehind, rfl⟩ := List.forall₂_cons_right_iff.mp hspans
  obtain ⟨rule, lines, hrule, hlines, rfl⟩ := List.forall₂_cons_right_iff.mp hbehind
  have hheader := row_gridRow_iff hne h List.mem_cons_self (hbounded header List.mem_cons_self) true hfirst
  have hbody := map_row_eq_iff hne h hbounded (fun cells => List.mem_cons_of_mem header) hlines
  have hvalues : ∀ cells : List Node, cellValues source (.leaf (.table alignments) (.leaf .tableHeader cells ::
      (lines.map (Table.row source alignments false)).map fun r => .leaf .tableRow r.1)) =
      cells.map (Table.cellValue source) ::
        lines.map fun line => (Table.row source alignments false line).1.map (Table.cellValue source) := by
    intro cells
    simp [cellValues, Node.leaf, Node.children]
  rw [Table.find?, Table.search?, alignments?_ruleRow hne h hrule, List.forall_mem_cons, ← hheader, ← hbody]
  simp only [bne_iff_ne, ne_eq, ite_not]
  constructor
  · rintro ⟨found, hfound, -, -, hcells⟩
    split at hfound
    · cases hfound
      rwa [hvalues, List.cons.injEq] at hcells
    · cases hfound
  · rintro ⟨hfirst, hrest⟩
    have hlen : (Table.row source alignments true first).1.length = alignments.length := by
      rw [← h header List.mem_cons_self, ← hfirst, List.length_map]
    rw [if_pos hlen]
    exact ⟨_, rfl, rfl, rfl, by rw [hvalues, hfirst, hrest]⟩

/-- A written table is read as a table with the same alignments and the texts of its cells, exactly if none of these has a
pipe that no backslash stands directly in front of. -/
theorem find?_usual_table_iff {env : Environment} {at_ : Setting} {n : Node} {children : List Written}
    {texts : List (List Bytes)} (hk : n.kind = .table alignments) (htexts : cellTexts children = .ok texts)
    (hne : alignments ≠ []) (hrows : texts ≠ []) (hcols : ∀ row ∈ texts, row.length = alignments.length) :
    ∃ out, usual env at_ n children = .ok out ∧ ∀ source spans,
      List.Forall₂ (Holds source) spans (Bytes.split Bytes.newline out) →
        ((∃ found, Table.find? source spans = some found ∧ found.before = [] ∧ found.table.kind = .table alignments ∧
            cellValues source found.table = texts.map (·.map onOneLine)) ↔
          ∀ row ∈ texts, ∀ s ∈ row, hasBarePipe (onOneLine s) = false) := by
  refine ⟨table alignments (texts.map (·.map onOneLine)), ?_, fun source spans hspans => ?_⟩
  · rw [usual, hk]
    simp only [tableRows_eq, htexts, Except.map]
  · obtain ⟨header, body, rfl⟩ := List.exists_cons_of_ne_nil hrows
    have hlen : ∀ cells ∈ (header :: body).map (·.map onOneLine), cells.length = alignments.length :=
      List.forall_mem_map.mpr fun row hr => by rw [List.length_map, hcols row hr]
    have hbounded : ∀ cells ∈ (header :: body).map (·.map onOneLine), ∀ s ∈ cells, Bounded s :=
      List.forall_mem_map.mpr fun row _ => List.forall_mem_map.mpr fun s _ => bounded_onOneLine s
    have hunbroken : ∀ cells ∈ (header :: body).map (·.map onOneLine), ∀ s ∈ cells, Bytes.newline ∉ s :=
      List.forall_mem_map.mpr fun row _ => List.forall_mem_map.mpr fun s _ => newline_notMem_onOneLine s
    rw [List.map_cons] at hlen hbounded hunbroken hspans ⊢
    rw [find?_table_iff hne hlen hbounded hunbroken hspans]
    simp

/-- A cell with an escaped pipe comes back, one with a pipe in the open does not. -/
theorem find?_usual_table_iff_pipes :
    let row (texts : List Bytes) : Written := .mk (.ok []) false (texts.map fun t => .mk (.ok []) false [.mk (.ok t) false []])
    let texts (t : Bytes) := [[utf8 "a"], [t]]
    ∀ t ∈ [utf8 "x\\|y", utf8 "x|y"], ∃ out,
      usual ⟨{}, [], [], []⟩ ⟨.document, [], none⟩ (.leaf (.table [.none]) []) ((texts t).map row) = .ok out ∧
        ∀ source spans, List.Forall₂ (Holds source) spans (Bytes.split Bytes.newline out) →
          ((∃ found, Table.find? source spans = some found ∧ found.before = [] ∧ found.table.kind = .table [.none] ∧
              cellValues source found.table = texts t) ↔ t = utf8 "x\\|y") := by
  intro row texts t ht
  have hstays : ∀ t ∈ [utf8 "x\\|y", utf8 "x|y"], (texts t).map (·.map onOneLine) = texts t := by decide +kernel
  have hbare : ∀ t ∈ [utf8 "x\\|y", utf8 "x|y"], (∀ r ∈ texts t, ∀ s ∈ r, hasBarePipe (onOneLine s) = false) ↔
      t = utf8 "x\\|y" := by decide +kernel
  have htexts : cellTexts ((texts t).map row) = .ok (texts t) := by
    simp [cellTexts, texts, row, Written.children, Written.own, joinInlines]
    rfl
  obtain ⟨out, hout, hread⟩ := @find?_usual_table_iff [.none] ⟨{}, [], [], []⟩ ⟨.document, [], none⟩
    (.leaf (.table [.none]) []) ((texts t).map row) (texts t) rfl htexts (by decide) (List.cons_ne_nil _ _) (by simp [texts])
  refine ⟨out, hout, fun source spans hspans => ?_⟩
  rw [← hbare t ht, ← hread source spans hspans, hstays t ht]

end MarkdownTidy.Writer

namespace MarkdownTidy.Pipeline

/-- The backslash in front of a pipe in a code span is no part of the code, and it is not written again: the cell ends at
the pipe. -/
theorem format_format_code_pipe :
    ∃ p, new {} [] = .ok p ∧
      (p.format .initial (utf8 "| a |\n|---|\n| `x\\|y` |\n")).1.toOption = some (utf8 "| a     |\n| ----- |\n| `x|y` |\n") ∧
      (p.format .initial (utf8 "| a     |\n| ----- |\n| `x|y` |\n")).1.toOption = some (utf8 "| a   |\n| --- |\n| `x  |\n") :=
  ⟨bare {}, rfl, by decide +kernel, by decide +kernel⟩

end MarkdownTidy.Pipeline
