import Mathlib.Data.List.Forall2
import Mathlib.Order.Bounds.Basic
import Mathlib.Order.MinMax
import MarkdownTidy.Proofs.Bytes.Cutting
import MarkdownTidy.Proofs.Text.Trimming
import MarkdownTidy.Writer.Visitor

/-! Tables stand on a grid. The layout is also done step by step in place, where every index and every repeat count is
checked: nothing is refused, and the text is the same. -/

namespace MarkdownTidy.Writer

/-! ### Layout with checks -/

def copies? (b : UInt8) (n : Int) : Option Bytes := if n < 0 then none else some (List.replicate n.toNat b)

def padCell? (s : Bytes) (width : Nat) (a : Alignment) : Option Bytes := do
  let gap : Int := width - Text.width s
  if gap ≤ 0 then return s
  match a with
  | .right => return (← copies? (byte ' ') gap) ++ s
  | .center => return (← copies? (byte ' ') (gap / 2)) ++ s ++ (← copies? (byte ' ') (gap - gap / 2))
  | _ => return s ++ (← copies? (byte ' ') gap)

def delimiterCell? (width : Nat) : Alignment → Option Bytes
  | .left => do return byte ':' :: (← copies? (byte '-') (width - 1))
  | .right => do return (← copies? (byte '-') (width - 1)) ++ [byte ':']
  | .center => do return byte ':' :: (← copies? (byte '-') (width - 2)) ++ [byte ':']
  | .none => copies? (byte '-') width

def widenColumn? (widths : List Nat) (cell : Bytes) (i : Nat) : Option (List Nat) := do
  let w ← widths[i]?
  return if w < Text.width cell then widths.set i (Text.width cell) else widths

def widen? (widths : List Nat) (cells : List Bytes) : Option (List Nat) :=
  cells.zipIdx.foldlM (fun widths (cell, i) => widenColumn? widths cell i) widths

def gridCell? (alignments : List Alignment) (widths : List Nat) (cells : List Bytes) (i : Nat) : Option Bytes := do
  padCell? (cells.getD i []) (← widths[i]?) (alignments.getD i .none)

def rowLine? (alignments : List Alignment) (widths : List Nat) (columns : Nat) (cells : List Bytes) : Option Bytes :=
  ((List.range columns).mapM (gridCell? alignments widths cells)).map rowLine

def ruleLine? (alignments : List Alignment) (widths : List Nat) : Option Bytes :=
  (widths.zipIdx.mapM fun (w, i) => delimiterCell? w (alignments.getD i .none)).map rowLine

def table? (alignments : List Alignment) (rows : List (List Bytes)) : Option Bytes := do
  let columns := columnCount alignments rows
  let widths ← rows.foldlM widen? (List.replicate columns 3)
  match rows with
  | [] => return []
  | header :: body =>
    let first ← rowLine? alignments widths columns header
    let rule ← ruleLine? alignments widths
    let rest ← body.mapM (rowLine? alignments widths columns)
    return Bytes.join [Bytes.newline] (first :: rule :: rest)

lemma copies?_natCast (b : UInt8) (n : Nat) : copies? b n = some (List.replicate n b) := by
  rw [copies?, if_neg (by omega), Int.toNat_natCast]

lemma padCell?_eq (s : Bytes) (width : Nat) (a : Alignment) : padCell? s width a = some (padCell s width a) := by
  unfold padCell?
  rcases Nat.le_total width (Text.width s) with h | h
  · have hgap : width - Text.width s = 0 := by omega
    rw [if_pos (by omega)]
    cases a <;> simp [padCell, hgap, Bytes.spaces]
  · obtain ⟨gap, rfl⟩ := Nat.exists_eq_add_of_le h
    have hgap : ((Text.width s + gap : Nat) : Int) - Text.width s = gap := by omega
    have hhalf : (gap : Int) / 2 = (gap / 2 : Nat) := by omega
    have hrest : (gap : Int) - (gap / 2 : Nat) = (gap - gap / 2 : Nat) := by omega
    simp only [hgap, hhalf, hrest, copies?_natCast]
    cases gap with
    | zero => cases a <;> simp [padCell, Bytes.spaces]
    | succ n =>
      rw [if_neg (by omega)]
      cases a <;> simp only [padCell, Nat.add_sub_cancel_left] <;> rfl

lemma delimiterCell?_eq {width : Nat} (h : 3 ≤ width) (a : Alignment) :
    delimiterCell? width a = some (delimiterCell width a) := by
  have hone : (width : Int) - 1 = (width - 1 : Nat) := by omega
  have htwo : (width : Int) - 2 = (width - 2 : Nat) := by omega
  cases a <;> simp [delimiterCell?, delimiterCell, dashes, hone, htwo, copies?_natCast]

/-! ### The widths of the columns -/

variable {alignments : List Alignment} {rows : List (List Bytes)} {widths : List Nat} {cells : List Bytes}

lemma widenColumn?_eq {i : Nat} (h : i < widths.length) (cell : Bytes) :
    ∃ ws, widenColumn? widths cell i = some ws ∧ ws.length = widths.length ∧
      ∀ j, ws[j]? = widths[j]?.map fun w => if j = i then max w (Text.width cell) else w := by
  rw [widenColumn?, List.getElem?_eq_getElem h]
  refine ⟨_, rfl, ?_, fun j => ?_⟩
  · split
    · exact List.length_set
    · rfl
  · by_cases hj : j = i
    · subst hj
      split
      · rename_i hlt
        rw [List.getElem?_set_self h, List.getElem?_eq_getElem h, Option.map_some, if_pos rfl, max_eq_right hlt.le]
      · rename_i hle
        rw [List.getElem?_eq_getElem h, Option.map_some, if_pos rfl, max_eq_left (not_lt.mp hle)]
    · have hsame : (widths[j]?.map fun w => if j = i then max w (Text.width cell) else w) = widths[j]? := by
        simp [hj]
      rw [hsame]
      split
      · exact List.getElem?_set_ne (Ne.symm hj)
      · rfl

def cellWidth (cells : List Bytes) (i : Nat) : Nat := Text.width (cells.getD i [])

lemma cellWidth_nil (i : Nat) : cellWidth [] i = 0 := rfl

lemma widen?_from (k : Nat) (h : k + cells.length ≤ widths.length) :
    ∃ ws, (cells.zipIdx k).foldlM (fun widths (cell, i) => widenColumn? widths cell i) widths = some ws ∧
      ws.length = widths.length ∧
      ∀ j, ws[j]? = widths[j]?.map fun w => if k ≤ j then max w (cellWidth cells (j - k)) else w := by
  induction cells generalizing k widths with
  | nil => exact ⟨widths, rfl, rfl, fun j => by simp [cellWidth_nil]⟩
  | cons cell cells ih =>
    rw [List.length_cons] at h
    obtain ⟨ws, hws, hlen, hget⟩ := widenColumn?_eq (by omega : k < widths.length) cell
    obtain ⟨vs, hvs, hlen', hget'⟩ := @ih ws (k + 1) (by omega)
    refine ⟨vs, ?_, hlen'.trans hlen, fun j => ?_⟩
    · rw [List.zipIdx_cons, List.foldlM_cons]
      exact (congrArg (· >>= _) hws).trans hvs
    · rw [hget', hget, Option.map_map]
      refine congrArg (fun f => widths[j]?.map f) (funext fun w => ?_)
      rcases Nat.lt_trichotomy j k with hj | rfl | hj
      · simp [show ¬k + 1 ≤ j by omega, show ¬k ≤ j by omega, show j ≠ k by omega]
      · simp [cellWidth]
      · have hsub : j - k = (j - (k + 1)) + 1 := by omega
        simp [show k + 1 ≤ j by omega, show k ≤ j by omega, show j ≠ k by omega, hsub, cellWidth]

lemma widen?_eq (h : cells.length ≤ widths.length) :
    ∃ ws, widen? widths cells = some ws ∧ ws.length = widths.length ∧
      ∀ j, ws[j]? = widths[j]?.map fun w => max w (cellWidth cells j) := by
  obtain ⟨ws, hws, hlen, hget⟩ := @widen?_from widths cells 0 (by omega)
  exact ⟨ws, hws, hlen, fun j => by simpa using hget j⟩

lemma foldlM_widen? (h : ∀ cells ∈ rows, cells.length ≤ widths.length) :
    ∃ ws, rows.foldlM widen? widths = some ws ∧ ws.length = widths.length ∧
      ∀ j, ws[j]? = widths[j]?.map fun w => rows.foldl (fun w cells => max w (cellWidth cells j)) w := by
  induction rows generalizing widths with
  | nil => exact ⟨widths, rfl, rfl, fun j => by simp⟩
  | cons cells rows ih =>
    rw [List.forall_mem_cons] at h
    obtain ⟨ws, hws, hlen, hget⟩ := widen?_eq h.1
    obtain ⟨vs, hvs, hlen', hget'⟩ := @ih ws (hlen ▸ h.2)
    refine ⟨vs, ?_, hlen'.trans hlen, fun j => ?_⟩
    · rw [List.foldlM_cons, hws]
      exact hvs
    · rw [hget', hget, Option.map_map]
      rfl

lemma isGreatest_foldl_max {α : Type} (f : α → Nat) (l : List α) (n : Nat) :
    IsGreatest (insert n {k | ∃ x ∈ l, k = f x}) (l.foldl (fun n x => max n (f x)) n) := by
  induction l generalizing n with
  | nil => exact ⟨.inl rfl, by rintro _ (rfl | ⟨x, hx, -⟩) <;> simp_all⟩
  | cons x l ih =>
    obtain ⟨hmem, hle⟩ := ih (max n (f x))
    have hmax : max n (f x) ≤ l.foldl (fun n x => max n (f x)) (max n (f x)) := hle (.inl rfl)
    rw [List.foldl_cons]
    refine ⟨?_, ?_⟩
    · rcases hmem with h | ⟨y, hy, h⟩
      · rw [h]
        rcases max_choice n (f x) with hc | hc
        · exact .inl hc
        · exact .inr ⟨x, List.mem_cons_self, hc⟩
      · exact .inr ⟨y, List.mem_cons_of_mem _ hy, h⟩
    · rintro _ (rfl | ⟨y, hy, rfl⟩)
      · exact (le_max_left _ _).trans hmax
      · rcases List.mem_cons.mp hy with rfl | hy
        · exact (le_max_right _ _).trans hmax
        · exact hle (.inr ⟨y, hy, rfl⟩)

lemma isGreatest_columnCount (alignments : List Alignment) (rows : List (List Bytes)) :
    IsGreatest (insert alignments.length {k | ∃ cells ∈ rows, k = cells.length}) (columnCount alignments rows) :=
  isGreatest_foldl_max List.length rows alignments.length

lemma three_le_columnWidth (rows : List (List Bytes)) (i : Nat) : 3 ≤ columnWidth rows i :=
  (isGreatest_foldl_max (cellWidth · i) rows 3).2 (.inl rfl)

lemma cellWidth_le_columnWidth (h : cells ∈ rows) (i : Nat) : cellWidth cells i ≤ columnWidth rows i :=
  (isGreatest_foldl_max (cellWidth · i) rows 3).2 (.inr ⟨cells, h, rfl⟩)

lemma isGreatest_columnWidth (rows : List (List Bytes)) (i : Nat) :
    IsGreatest (insert 3 {w | ∃ cells ∈ rows, ∃ s, cells[i]? = some s ∧ w = Text.width s}) (columnWidth rows i) := by
  refine ⟨?_, ?_⟩
  · rcases (isGreatest_foldl_max (cellWidth · i) rows 3).1 with h | ⟨cells, hc, h⟩
    · exact .inl h
    · cases hs : cells[i]? with
      | some s =>
        have hwidth : cellWidth cells i = Text.width s := by rw [cellWidth, List.getD_eq_getElem?_getD, hs, Option.getD_some]
        exact .inr ⟨cells, hc, s, hs, h.trans hwidth⟩
      | none =>
        have hzero : cellWidth cells i = 0 := by rw [cellWidth, List.getD_eq_getElem?_getD, hs, Option.getD_none]; rfl
        have hthree := three_le_columnWidth rows i
        rw [show columnWidth rows i = cellWidth cells i from h, hzero] at hthree
        omega
  · rintro _ (rfl | ⟨cells, hc, s, hs, rfl⟩)
    · exact three_le_columnWidth rows i
    · simpa [cellWidth, hs] using cellWidth_le_columnWidth hc i

def columnWidths (alignments : List Alignment) (rows : List (List Bytes)) : List Nat :=
  (List.range (columnCount alignments rows)).map (columnWidth rows)

lemma getElem?_columnWidths {i : Nat} (h : i < columnCount alignments rows) :
    (columnWidths alignments rows)[i]? = some (columnWidth rows i) := by
  rw [columnWidths, List.getElem?_map, List.getElem?_range h]
  rfl

lemma foldlM_widen?_eq (alignments : List Alignment) (rows : List (List Bytes)) :
    rows.foldlM widen? (List.replicate (columnCount alignments rows) 3) = some (columnWidths alignments rows) := by
  have hfits : ∀ cells ∈ rows, cells.length ≤ (List.replicate (columnCount alignments rows) 3).length := by
    intro cells hc
    rw [List.length_replicate]
    exact (isGreatest_columnCount alignments rows).2 (.inr ⟨cells, hc, rfl⟩)
  obtain ⟨ws, hws, -, hget⟩ := foldlM_widen? hfits
  rw [hws]
  refine congrArg some (List.ext_getElem? fun j => ?_)
  rw [hget, List.getElem?_replicate]
  split
  · rename_i hj
    rw [getElem?_columnWidths hj]
    rfl
  · rename_i hj
    rw [List.getElem?_eq_none (by simpa [columnWidths] using hj)]
    rfl

/-! ### Rows of cells -/

def gridRow (alignments : List Alignment) (rows : List (List Bytes)) (cells : List Bytes) : List Bytes :=
  (List.range (columnCount alignments rows)).map fun i =>
    padCell (cells.getD i []) (columnWidth rows i) (alignments.getD i .none)

def ruleRow (alignments : List Alignment) (rows : List (List Bytes)) : List Bytes :=
  (List.range (columnCount alignments rows)).map fun i => delimiterCell (columnWidth rows i) (alignments.getD i .none)

lemma table_cons (alignments : List Alignment) (header : List Bytes) (body : List (List Bytes)) :
    let rows := header :: body
    table alignments rows = Bytes.join [Bytes.newline] (rowLine (gridRow alignments rows header) ::
      rowLine (ruleRow alignments rows) :: body.map fun cells => rowLine (gridRow alignments rows cells)) := by
  intro rows
  have hgrid : ∀ n, (List.range n).zip ((List.range n).map (columnWidth rows)) =
      (List.range n).map fun i => (i, columnWidth rows i) := fun n => List.map_prod_left_eq_zip.symm
  simp only [table, rows, hgrid, List.map_map, gridRow, ruleRow, Function.comp_def]

lemma mapM_some {α β : Type} {f : α → Option β} {g : α → β} {l : List α} (h : ∀ x ∈ l, f x = some (g x)) :
    l.mapM f = some (l.map g) := by
  induction l with
  | nil => rfl
  | cons x l ih =>
    rw [List.forall_mem_cons] at h
    rw [List.mapM_cons, h.1, ih h.2]
    rfl

lemma rowLine?_eq (alignments : List Alignment) (rows : List (List Bytes)) (cells : List Bytes) :
    rowLine? alignments (columnWidths alignments rows) (columnCount alignments rows) cells =
      some (rowLine (gridRow alignments rows cells)) := by
  have hcell : ∀ i ∈ List.range (columnCount alignments rows), gridCell? alignments (columnWidths alignments rows) cells i =
      some (padCell (cells.getD i []) (columnWidth rows i) (alignments.getD i .none)) := by
    intro i hi
    rw [gridCell?, getElem?_columnWidths (List.mem_range.mp hi)]
    exact padCell?_eq _ _ _
  rw [rowLine?, mapM_some hcell]
  rfl

lemma ruleLine?_eq (alignments : List Alignment) (rows : List (List Bytes)) :
    ruleLine? alignments (columnWidths alignments rows) = some (rowLine (ruleRow alignments rows)) := by
  have hcell : ∀ x ∈ (columnWidths alignments rows).zipIdx, delimiterCell? x.1 (alignments.getD x.2 .none) =
      some (delimiterCell x.1 (alignments.getD x.2 .none)) := by
    intro x hx
    obtain ⟨i, -, hi⟩ := List.mem_map.mp (List.fst_mem_of_mem_zipIdx hx)
    exact delimiterCell?_eq (hi ▸ three_le_columnWidth rows i) _
  have hrule : (columnWidths alignments rows).zipIdx.map (fun x => delimiterCell x.1 (alignments.getD x.2 .none)) =
      ruleRow alignments rows := by
    refine List.ext_getElem? fun j => ?_
    by_cases hj : j < columnCount alignments rows
    · simp [ruleRow, List.getElem?_zipIdx, getElem?_columnWidths hj, List.getElem?_range hj]
    · rw [List.getElem?_eq_none (by simpa [columnWidths] using hj), List.getElem?_eq_none (by simpa [ruleRow] using hj)]
  rw [ruleLine?, mapM_some hcell, Option.map_some, hrule]

theorem table?_eq (alignments : List Alignment) (rows : List (List Bytes)) :
    table? alignments rows = some (table alignments rows) := by
  rw [table?, foldlM_widen?_eq]
  cases rows with
  | nil => rfl
  | cons header body =>
    have hbody := @mapM_some _ _ _ _ body fun cells _ => rowLine?_eq alignments (header :: body) cells
    rw [table_cons]
    simp only [Option.bind_eq_bind, Option.bind_some, rowLine?_eq, ruleLine?_eq, hbody]
    rfl

/-! ### The grid -/

/-- A text with spaces added up to a width: behind it, in front of it, or on both sides with the odd one behind. -/
def IsPadded (width : Nat) (a : Alignment) (s cell : Bytes) : Prop :=
  ∃ l r, cell = Bytes.spaces l ++ s ++ Bytes.spaces r ∧ Text.width s + (l + r) = width ∧
    match a with
    | .right => r = 0
    | .center => r = l ∨ r = l + 1
    | _ => l = 0

/-- Dashes of a width, with colons in place of the ones that the alignment says. -/
def IsRule (width : Nat) (a : Alignment) (cell : Bytes) : Prop :=
  ∃ n, 0 < n ∧ cell.length = width ∧
    match a with
    | .left => cell = byte ':' :: dashes n
    | .right => cell = dashes n ++ [byte ':']
    | .center => cell = byte ':' :: dashes n ++ [byte ':']
    | .none => cell = dashes n

lemma isPadded_padCell {s : Bytes} {width : Nat} (h : Text.width s ≤ width) (a : Alignment) :
    IsPadded width a s (padCell s width a) := by
  obtain ⟨gap, rfl⟩ := Nat.exists_eq_add_of_le h
  unfold padCell
  rw [Nat.add_sub_cancel_left]
  cases a with
  | none | left => exact ⟨0, gap, rfl, by omega, rfl⟩
  | right => exact ⟨gap, 0, by simp [Bytes.spaces], by omega, rfl⟩
  | center => exact ⟨gap / 2, gap - gap / 2, rfl, by omega, by omega⟩

lemma isRule_delimiterCell {width : Nat} (h : 3 ≤ width) (a : Alignment) : IsRule width a (delimiterCell width a) := by
  cases a with
  | none => exact ⟨width, by omega, List.length_replicate, rfl⟩
  | left => exact ⟨width - 1, by omega, by simp [delimiterCell, dashes]; omega, rfl⟩
  | right => exact ⟨width - 1, by omega, by simp [delimiterCell, dashes]; omega, rfl⟩
  | center => exact ⟨width - 2, by omega, by simp [delimiterCell, dashes]; omega, rfl⟩

lemma newline_notMem_onOneLine (s : Bytes) : Bytes.newline ∉ onOneLine s := by
  intro h
  obtain ⟨b, -, hb⟩ := List.mem_map.mp ((Text.trimSpace_infix _).subset h)
  split at hb
  · exact absurd hb (by decide)
  · rename_i hne
    exact hne (by simpa using hb)

lemma newline_notMem_rowLine {cells : List Bytes} (h : ∀ c ∈ cells, Bytes.newline ∉ c) : Bytes.newline ∉ rowLine cells := by
  have hjoin : Bytes.newline ∉ Bytes.join (utf8 " | ") cells := by
    induction cells with
    | nil => exact List.not_mem_nil
    | cons c cells ih =>
      rw [List.forall_mem_cons] at h
      cases cells with
      | nil => simpa [Bytes.join] using h.1
      | cons d cells =>
        rw [Bytes.join_cons (by simp), List.mem_append, List.mem_append, not_or, not_or]
        exact ⟨⟨h.1, by decide⟩, ih h.2⟩
  simp only [rowLine, List.mem_append, not_or]
  exact ⟨⟨by decide, hjoin⟩, by decide⟩

lemma newline_notMem_padCell {s : Bytes} (h : Bytes.newline ∉ s) (width : Nat) (a : Alignment) :
    Bytes.newline ∉ padCell s width a := by
  have hspaces : ∀ n, Bytes.newline ∉ Bytes.spaces n := fun n hn => absurd (Bytes.eq_of_mem_spaces hn) (by decide)
  cases a <;> simp [padCell, h, hspaces]

lemma newline_notMem_delimiterCell (width : Nat) (a : Alignment) : Bytes.newline ∉ delimiterCell width a := by
  have hdashes : ∀ n, Bytes.newline ∉ dashes n := fun n hn => absurd (List.eq_of_mem_replicate hn) (by decide)
  have hcolon : Bytes.newline ≠ byte ':' := by decide
  cases a <;> simp [delimiterCell, hdashes, hcolon]

lemma newline_notMem_gridRow (alignments : List Alignment) (rows : List (List Bytes)) (h : ∀ c ∈ cells, Bytes.newline ∉ c) :
    ∀ c ∈ gridRow alignments rows cells, Bytes.newline ∉ c := by
  intro c hc
  obtain ⟨i, -, rfl⟩ := List.mem_map.mp hc
  refine newline_notMem_padCell ?_ _ _
  rw [List.getD_eq_getElem?_getD]
  cases hs : cells[i]? with
  | none => simp
  | some s => exact h s (List.mem_of_getElem? hs)

lemma newline_notMem_ruleRow (alignments : List Alignment) (rows : List (List Bytes)) :
    ∀ c ∈ ruleRow alignments rows, Bytes.newline ∉ c := by
  intro c hc
  obtain ⟨i, -, rfl⟩ := List.mem_map.mp hc
  exact newline_notMem_delimiterCell _ _

lemma split_table {header : List Bytes} {body : List (List Bytes)}
    (h : ∀ cells ∈ header :: body, ∀ c ∈ cells, Bytes.newline ∉ c) :
    Bytes.split Bytes.newline (table alignments (header :: body)) = rowLine (gridRow alignments (header :: body) header) ::
      rowLine (ruleRow alignments (header :: body)) ::
      body.map fun cells => rowLine (gridRow alignments (header :: body) cells) := by
  rw [table_cons, Bytes.split_join (by simp)]
  intro l hl
  rw [List.mem_cons, List.mem_cons, List.mem_map] at hl
  obtain rfl | rfl | ⟨cells, hc, rfl⟩ := hl
  · exact newline_notMem_rowLine (newline_notMem_gridRow _ _ (h header List.mem_cons_self))
  · exact newline_notMem_rowLine (newline_notMem_ruleRow _ _)
  · exact newline_notMem_rowLine (newline_notMem_gridRow _ _ (h cells (List.mem_cons_of_mem _ hc)))

lemma gridRow_isPadded (h : cells ∈ rows) {i : Nat} {c : Bytes} (hc : (gridRow alignments rows cells)[i]? = some c) :
    IsPadded (columnWidth rows i) (alignments.getD i .none) (cells[i]?.getD []) c := by
  obtain ⟨j, hj, rfl⟩ := Option.map_eq_some_iff.mp (List.getElem?_map.symm.trans hc)
  obtain ⟨-, rfl⟩ := List.getElem?_eq_some_iff.mp hj
  rw [List.getElem_range, List.getD_eq_getElem?_getD]
  refine isPadded_padCell ?_ _
  simpa [cellWidth] using cellWidth_le_columnWidth h i

lemma ruleRow_isRule {i : Nat} {c : Bytes} (hc : (ruleRow alignments rows)[i]? = some c) :
    IsRule (columnWidth rows i) (alignments.getD i .none) c := by
  obtain ⟨j, hj, rfl⟩ := Option.map_eq_some_iff.mp (List.getElem?_map.symm.trans hc)
  obtain ⟨-, rfl⟩ := List.getElem?_eq_some_iff.mp hj
  rw [List.getElem_range]
  exact isRule_delimiterCell (three_le_columnWidth rows i) _

def cellTexts (children : List Written) : Except Bytes (List (List Bytes)) :=
  children.mapM fun row => row.children.mapM fun cell => joinInlines cell.children

lemma tableRows_eq (children : List Written) : tableRows children = (cellTexts children).map (·.map (·.map onOneLine)) := by
  induction children with
  | nil => rfl
  | cons row rows ih =>
    rw [tableRows, ih, cellTexts, cellTexts, List.mapM_cons]
    cases row.children.mapM fun cell => joinInlines cell.children with
    | error e => rfl
    | ok cells => cases rows.mapM fun row : Written => row.children.mapM fun cell => joinInlines cell.children <;> rfl

/-- A table is laid out without an index out of range and without a negative repeat count. Its lines are a row for each
row and the delimiter row behind the first; all have the same number of cells, the largest of any row or of the
alignments, and the cells of a column are as wide as the widest of their texts, or three columns. -/
theorem usual_table {env : Environment} {at_ : Setting} {n : Node} {children : List Written} {alignments : List Alignment}
    {texts : List (List Bytes)} (hk : n.kind = .table alignments) (htexts : cellTexts children = .ok texts)
    (hne : texts ≠ []) :
    ∃ out header rule body columns, ∃ width : Nat → Nat,
      usual env at_ n children = .ok out ∧
      table? alignments (texts.map (·.map onOneLine)) = some out ∧
      Bytes.split Bytes.newline out = rowLine header :: rowLine rule :: body.map rowLine ∧
      IsGreatest (insert alignments.length {k | ∃ row ∈ texts, k = row.length}) columns ∧
      (∀ i, IsGreatest (insert 3 {w | ∃ row ∈ texts, ∃ s, row[i]? = some s ∧ w = Text.width (onOneLine s)}) (width i)) ∧
      List.Forall₂ (fun row cells => cells.length = columns ∧ ∀ i c, cells[i]? = some c →
        IsPadded (width i) (alignments.getD i .none) ((row[i]?.map onOneLine).getD []) c) texts (header :: body) ∧
      rule.length = columns ∧ ∀ i c, rule[i]? = some c → IsRule (width i) (alignments.getD i .none) c := by
  obtain ⟨header, body, rfl⟩ := List.exists_cons_of_ne_nil hne
  generalize hrows : (header :: body).map (·.map onOneLine) = rows
  have hmem : ∀ row ∈ header :: body, row.map onOneLine ∈ rows := by
    rw [← hrows]
    exact fun row hr => List.mem_map_of_mem hr
  have hout : usual env at_ n children = .ok (table alignments rows) := by
    rw [usual, hk]
    simp only [tableRows_eq, htexts, Except.map, hrows]
  have hunbroken : ∀ cells ∈ rows, ∀ c ∈ cells, Bytes.newline ∉ c := by
    rw [← hrows]
    intro cells hc c hcell
    obtain ⟨row, -, rfl⟩ := List.mem_map.mp hc
    obtain ⟨s, -, rfl⟩ := List.mem_map.mp hcell
    exact newline_notMem_onOneLine s
  have hlines : Bytes.split Bytes.newline (table alignments rows) = rowLine (gridRow alignments rows (header.map onOneLine)) ::
      rowLine (ruleRow alignments rows) ::
      (body.map fun row => gridRow alignments rows (row.map onOneLine)).map rowLine := by
    rw [← hrows, List.map_cons] at hunbroken ⊢
    rw [split_table hunbroken, List.map_map, List.map_map]
    rfl
  have hcolumns := isGreatest_columnCount alignments rows
  have hwidths := isGreatest_columnWidth rows
  have hcells : ∀ row ∈ header :: body, (gridRow alignments rows (row.map onOneLine)).length = columnCount alignments rows ∧
      ∀ i c, (gridRow alignments rows (row.map onOneLine))[i]? = some c →
        IsPadded (columnWidth rows i) (alignments.getD i .none) ((row[i]?.map onOneLine).getD []) c := by
    intro row hr
    refine ⟨by simp [gridRow], fun i c hc => ?_⟩
    simpa using gridRow_isPadded (hmem row hr) hc
  rw [List.forall_mem_cons] at hcells
  refine ⟨_, _, _, _, columnCount alignments rows, columnWidth rows, hout, table?_eq _ _, hlines, ?_, fun i => ?_,
    .cons hcells.1 (List.forall₂_map_right_iff.mpr (List.forall₂_same.mpr hcells.2)), by simp [ruleRow],
    fun i c => ruleRow_isRule⟩
  · simpa [← hrows] using hcolumns
  · simpa [← hrows] using hwidths i

/-- A header of one cell above a row of three, one of them wide, with two alignments. -/
theorem usual_table_ragged :
    let row (texts : List Bytes) : Written := .mk (.ok []) false (texts.map fun t => .mk (.ok []) false [.mk (.ok t) false []])
    let texts := [[utf8 "name"], [utf8 "a", utf8 "b\nc ", utf8 "日本"]]
    let out := utf8 "| name |     |      |\n| :--: | --: | ---- |\n|  a   | b c | 日本 |"
    cellTexts (texts.map row) = .ok texts ∧
      usual ⟨{}, [], [], []⟩ ⟨.document, [], none⟩ (.leaf (.table [.center, .right]) []) (texts.map row) = .ok out ∧
      table? [.center, .right] (texts.map (·.map onOneLine)) = some out ∧
      ∃ header rule, ∃ body : List (List Bytes), Bytes.split Bytes.newline out = rowLine header :: rowLine rule :: body.map rowLine ∧
        header.length = rule.length := by
  intro row texts out
  have htexts : cellTexts (texts.map row) = .ok texts := rfl
  obtain ⟨t, header, rule, body, columns, width, hout, htable, hlines, -, -, hrows, hrule, -⟩ :=
    @usual_table ⟨{}, [], [], []⟩ ⟨.document, [], none⟩ (.leaf (.table [.center, .right]) []) (texts.map row) _ texts rfl
      htexts (by decide)
  have hwritten : table? [.center, .right] (texts.map (·.map onOneLine)) = some out := by decide +kernel
  obtain rfl : t = out := Option.some.inj (htable.symm.trans hwritten)
  have hheader := (List.forall₂_cons.mp hrows).1
  exact ⟨htexts, hout, htable, header, rule, body, hlines, hheader.1.trans hrule.symm⟩

end MarkdownTidy.Writer
