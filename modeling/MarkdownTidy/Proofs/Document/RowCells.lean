import MarkdownTidy.Document.Table
import MarkdownTidy.Proofs.Document.QuotedLines

/-! How a row is split into cells: at every pipe that no backslash stands directly in front of. -/

namespace MarkdownTidy.Table

def bareFrom (previous : Option UInt8) : Bytes → Bool
  | [] => false
  | b :: s => (b == byte '|' && previous != some (byte '\\')) || bareFrom (some b) s

def hasBarePipe (s : Bytes) : Bool := bareFrom none s

variable {previous : Option UInt8} {s t : Bytes}

lemma bareFrom_append (previous : Option UInt8) (s t : Bytes) :
    bareFrom previous (s ++ t) = (bareFrom previous s || bareFrom (s.getLast?.or previous) t) := by
  induction s generalizing previous with
  | nil => rfl
  | cons b s ih =>
    rw [List.cons_append, bareFrom, bareFrom, ih, Bool.or_assoc, List.getLast?_cons]
    cases s.getLast? <;> rfl

lemma bareFrom_eq (h : previous ≠ some (byte '\\') ∨ s.head? ≠ some (byte '|')) : bareFrom previous s = hasBarePipe s := by
  cases s with
  | nil => rfl
  | cons b s =>
    rw [hasBarePipe, bareFrom, bareFrom]
    rcases h with h | h
    · have hp : (previous != some (byte '\\')) = true := by simpa using h
      rw [hp]
      rfl
    · have hb : (b == byte '|') = false := by simpa using h
      simp [hb]

lemma hasBarePipe_append (h : s.getLast? ≠ some (byte '\\') ∨ t.head? ≠ some (byte '|')) :
    hasBarePipe (s ++ t) = (hasBarePipe s || hasBarePipe t) := by
  rw [hasBarePipe, bareFrom_append, Option.or_none, bareFrom_eq h]
  rfl

lemma hasBarePipe_spaces (n : Nat) : hasBarePipe (Bytes.spaces n) = false := by
  induction n with
  | zero => rfl
  | succ n ih =>
    rw [Bytes.spaces_succ, hasBarePipe, bareFrom, bareFrom_eq (.inl (by decide)), ih]
    rfl

lemma hasBarePipe_trim (hp : previous ≠ some (byte '\\')) (h : bareFrom previous s = false) :
    hasBarePipe (Bytes.trim Bytes.isSpace s) = false := by
  have hsplit : s = s.takeWhile Bytes.isSpace ++ s.dropWhile Bytes.isSpace := List.takeWhile_append_dropWhile.symm
  have hlast : (s.takeWhile Bytes.isSpace).getLast?.or previous ≠ some (byte '\\') := by
    cases hl : (s.takeWhile Bytes.isSpace).getLast? with
    | none => exact hp
    | some b =>
      have hb : Bytes.isSpace b = true := List.mem_takeWhile_imp (List.mem_of_getLast? hl)
      rintro he
      rw [Option.some_or, Option.some.injEq] at he
      rw [he] at hb
      cases hb
  rw [hsplit, bareFrom_append, Bool.or_eq_false_iff, bareFrom_eq (.inl hlast)] at h
  obtain ⟨r, hr⟩ : Bytes.trimRight Bytes.isSpace (s.dropWhile Bytes.isSpace) <+: s.dropWhile Bytes.isSpace := by
    rw [Bytes.trimRight_eq_rdropWhile]
    exact List.rdropWhile_prefix _ _
  have hrest := h.2
  rw [← hr, hasBarePipe, bareFrom_append, Bool.or_eq_false_iff] at hrest
  exact hrest.1

/-! ### One cell -/

variable {ticked : Bool} {i : Nat}

lemma cellLength_fst_cons (b : UInt8) (s : Bytes) :
    (cellLength previous ticked i (b :: s)).1 =
      if b == byte '|' && previous != some (byte '\\') then i
      else (cellLength (some b) (ticked || b == byte '`') (i + 1) s).1 := by
  rw [cellLength]
  by_cases hb : (b == byte '|') = true
  · by_cases hp : (previous != some (byte '\\')) = true
    · simp [hb, hp]
    · simp [hb, hp]
  · simp [hb]

lemma cellLength_fst_append (h : bareFrom previous s = false) (hs : s.getLast?.or previous ≠ some (byte '\\')) (t : Bytes) :
    (cellLength previous ticked i (s ++ byte '|' :: t)).1 = i + s.length := by
  induction s generalizing previous ticked i with
  | nil =>
    have hp : (previous != some (byte '\\')) = true := by simpa using hs
    simp [cellLength_fst_cons, hp]
  | cons b s ih =>
    rw [bareFrom, Bool.or_eq_false_iff] at h
    have hlast : s.getLast?.or (some b) ≠ some (byte '\\') := by
      rw [List.getLast?_cons] at hs
      cases hl : s.getLast? <;> simpa [hl] using hs
    rw [List.cons_append, cellLength_fst_cons, h.1, if_neg Bool.false_ne_true, ih h.2 hlast, List.length_cons]
    omega

lemma cellLength_fst (h : bareFrom previous s = false) : (cellLength previous ticked i s).1 = i + s.length := by
  induction s generalizing previous ticked i with
  | nil => rfl
  | cons b s ih =>
    rw [bareFrom, Bool.or_eq_false_iff] at h
    rw [cellLength_fst_cons, h.1, if_neg Bool.false_ne_true, ih h.2, List.length_cons]
    omega

lemma cellLength_fst_spec (previous : Option UInt8) (ticked : Bool) (i : Nat) (s : Bytes) :
    ∃ n, (cellLength previous ticked i s).1 = i + n ∧ n ≤ s.length ∧ bareFrom previous (s.take n) = false := by
  induction s generalizing previous ticked i with
  | nil => exact ⟨0, rfl, Nat.le_refl 0, rfl⟩
  | cons b s ih =>
    rw [cellLength_fst_cons]
    split
    · exact ⟨0, rfl, Nat.zero_le _, rfl⟩
    · rename_i hb
      obtain ⟨n, hn, hle, hbare⟩ := ih (some b) (ticked || b == byte '`') (i + 1)
      refine ⟨n + 1, by rw [hn]; omega, by simpa using hle, ?_⟩
      rw [List.take_succ_cons, bareFrom, hbare, Bool.or_false]
      simpa using hb

/-! ### The cells of a row -/

def cellValue (source : Bytes) (n : Node) : Bytes := spansValue source n.info.lines

variable {source : Bytes} {alignments : List Alignment} {header : Bool} {fuel start : Nat}

def hasColumn (alignments : List Alignment) (header : Bool) : Prop := alignments ≠ [] ∨ header = true

lemma cellsFrom_nil : cellsFrom source alignments header fuel previous start [] = ([], []) := by
  cases fuel <;> rfl

def IsCell (source : Bytes) (n : Node) : Prop :=
  ∃ a span, n = .mk { kind := .tableCell a, lines := [span] } [] ∧ span.padding = 0 ∧ hasBarePipe (span.value source) = false

lemma padding_trimRight {span : Span} (h : span.padding = 0) : (span.trimRight source).padding = 0 := by
  rw [Span.trimRight]
  split
  · rfl
  · exact h

lemma cellsFrom_cons (hc : hasColumn alignments header) {b : UInt8} {row : Bytes}
    (hrow : b :: row <+: source.drop start) :
    let n := (cellLength previous false 0 (b :: row)).1
    ∃ span, span.padding = 0 ∧ span.value source = Bytes.trim Bytes.isSpace ((b :: row).take n) ∧
      (cellsFrom source alignments header (fuel + 1) previous start (b :: row)).1 =
        .mk { kind := .tableCell (alignments.headD .none), lines := [span] } [] ::
          (cellsFrom source alignments.tail header fuel (some (byte '|')) (start + n + 1) ((b :: row).drop (n + 1))).1 := by
  intro n
  have hcover : Span.Covers source ⟨start, start + n, 0⟩ ((b :: row).take n) := by
    obtain ⟨k, hk, hle, -⟩ := cellLength_fst_spec previous false 0 (b :: row)
    have hn : n = k := by simpa using hk
    refine ⟨rfl, ?_, (List.take_prefix _ _).trans hrow⟩
    rw [List.length_take, hn, Nat.min_eq_left hle]
  refine ⟨((⟨start, start + n, 0⟩ : Span).trimLeft source).trimRight source, padding_trimRight rfl, hcover.value_trimmed, ?_⟩
  cases alignments with
  | cons a as => rfl
  | nil =>
    obtain rfl : header = true := hc.resolve_left fun h => h rfl
    rfl

lemma drop_prefix {row : Bytes} (hrow : row <+: source.drop start) (n : Nat) : row.drop n <+: source.drop (start + n) := by
  rw [← List.drop_drop]
  obtain ⟨t, ht⟩ := hrow
  rw [← ht]
  by_cases hn : n ≤ row.length
  · rw [List.drop_append_of_le_length hn]
    exact List.prefix_append _ _
  · rw [List.drop_of_length_le (by omega : row.length ≤ n)]
    exact List.nil_prefix

lemma isCell_cellsFrom {row : Bytes} (hrow : row <+: source.drop start) (hp : previous ≠ some (byte '\\')) :
    ∀ cell ∈ (cellsFrom source alignments header fuel previous start row).1, IsCell source cell := by
  induction fuel generalizing alignments previous start row with
  | zero => simp [cellsFrom]
  | succ fuel ih =>
    cases row with
    | nil => simp [cellsFrom]
    | cons b row =>
      by_cases hc : hasColumn alignments header
      · obtain ⟨span, hpad, hval, hcells⟩ := @cellsFrom_cons previous source alignments header fuel start hc b row hrow
        obtain ⟨k, hk, -, hbare⟩ := cellLength_fst_spec previous false 0 (b :: row)
        rw [Nat.zero_add] at hk
        rw [hcells, List.forall_mem_cons]
        refine ⟨⟨_, span, rfl, hpad, ?_⟩, ih ?_ (by decide)⟩
        · rw [hval, hk]
          exact hasBarePipe_trim hp hbare
        · exact drop_prefix hrow _
      · obtain ⟨rfl, rfl⟩ : alignments = [] ∧ header = false := by simpa [hasColumn] using hc
        simp [cellsFrom]

/-! ### Rows that were put together -/

def Framed (s p : Bytes) : Prop := ∃ a b, p = Bytes.spaces (a + 1) ++ s ++ Bytes.spaces (b + 1)

lemma Framed.bareFrom_eq {s p : Bytes} (h : Framed s p) : bareFrom (some (byte '|')) p = hasBarePipe s := by
  obtain ⟨a, b, rfl⟩ := h
  have hfront : ∀ n, (Bytes.spaces (n + 1)).head? ≠ some (byte '|') := fun n => by
    rw [Bytes.spaces_succ]
    exact show some (byte ' ') ≠ some (byte '|') by decide
  have hback : (Bytes.spaces (a + 1)).getLast? ≠ some (byte '\\') := fun hl =>
    absurd (Bytes.eq_of_mem_spaces (List.mem_of_getLast? hl)) (by decide)
  rw [Table.bareFrom_eq (.inl (by decide)), hasBarePipe_append (.inr (hfront b)), hasBarePipe_append (.inl hback),
    hasBarePipe_spaces, hasBarePipe_spaces, Bool.false_or, Bool.or_false]

lemma Framed.last {s p : Bytes} (h : Framed s p) : p.getLast?.or previous ≠ some (byte '\\') := by
  obtain ⟨a, b, rfl⟩ := h
  rw [Bytes.spaces, Bytes.spaces, List.replicate_succ' (n := b), ← List.append_assoc, List.getLast?_concat]
  exact show some (byte ' ') ≠ some (byte '\\') by decide

def Bounded (s : Bytes) : Prop :=
  (∀ c ∈ s.head?, Bytes.isSpace c = false) ∧ ∀ c ∈ s.getLast?, Bytes.isSpace c = false

lemma Framed.trim_eq {s p : Bytes} (h : Framed s p) (hs : Bounded s) : Bytes.trim Bytes.isSpace p = s := by
  obtain ⟨a, b, rfl⟩ := h
  exact Bytes.trim_append (fun _ => Bytes.isSpace_of_mem_spaces) (fun _ => Bytes.isSpace_of_mem_spaces) hs.1 hs.2

lemma Framed.ne_nil {s p : Bytes} (h : Framed s p) : p ≠ [] := by
  obtain ⟨a, b, rfl⟩ := h
  simp [Bytes.spaces_succ]

lemma cellValue_mk (k : Kind) (span : Span) : cellValue source (.mk { kind := k, lines := [span] } []) = span.value source := by
  simp [cellValue, Node.info, spansValue]

/-- Cells that were put together are taken apart again, as long as there are columns for them. -/
lemma cellsFrom_join {ss ps : List Bytes} (h : List.Forall₂ Framed ss ps) (hb : ∀ s ∈ ss, Bounded s)
    (hbare : ∀ s ∈ ss, hasBarePipe s = false) (hrow : Bytes.join [byte '|'] ps <+: source.drop start)
    (hfuel : (Bytes.join [byte '|'] ps).length < fuel) (hcols : header = true ∨ ps.length ≤ alignments.length) :
    (cellsFrom source alignments header fuel (some (byte '|')) start (Bytes.join [byte '|'] ps)).1.map (cellValue source) = ss := by
  induction h generalizing alignments start fuel with
  | nil => rw [show Bytes.join [byte '|'] [] = [] from rfl, cellsFrom_nil]; rfl
  | @cons s p ss ps hf h ih =>
    rw [List.forall_mem_cons] at hb hbare
    obtain ⟨fuel, rfl⟩ : ∃ k, fuel = k + 1 := ⟨fuel - 1, by omega⟩
    have hc : hasColumn alignments header := by
      rcases hcols with hh | hlen
      · exact .inr hh
      · refine .inl ?_
        rintro rfl
        simp at hlen
    have hcols' : header = true ∨ ps.length ≤ alignments.tail.length := by
      refine hcols.imp_right fun hlen => ?_
      rw [List.length_cons] at hlen
      rw [List.length_tail]
      omega
    have hpbare : bareFrom (some (byte '|')) p = false := hf.bareFrom_eq.trans hbare.1
    cases ps with
    | nil =>
      cases h
      have hjoin : Bytes.join [byte '|'] [p] = p := by simp [Bytes.join]
      have hlen : (cellLength (some (byte '|')) false 0 p).1 = p.length :=
        (cellLength_fst hpbare).trans (Nat.zero_add _)
      rw [hjoin] at hrow ⊢
      obtain ⟨c, u, rfl⟩ := List.exists_cons_of_ne_nil hf.ne_nil
      obtain ⟨span, -, hval, hcells⟩ := @cellsFrom_cons (some (byte '|')) source alignments header fuel start hc c u hrow
      rw [hlen] at hval hcells
      rw [hcells, List.drop_of_length_le (Nat.le_succ _), cellsFrom_nil, List.map_cons, cellValue_mk, hval,
        List.take_of_length_le (Nat.le_refl _), hf.trim_eq hb.1]
      rfl
    | cons q ps =>
      have hjoin : Bytes.join [byte '|'] (p :: q :: ps) = p ++ byte '|' :: Bytes.join [byte '|'] (q :: ps) := by
        rw [Bytes.join_cons (by simp), List.append_assoc]
        rfl
      have hlen : (cellLength (some (byte '|')) false 0 (p ++ byte '|' :: Bytes.join [byte '|'] (q :: ps))).1 = p.length :=
        (cellLength_fst_append hpbare hf.last _).trans (Nat.zero_add _)
      rw [hjoin] at hrow hfuel ⊢
      have hdrop : (p ++ byte '|' :: Bytes.join [byte '|'] (q :: ps)).drop (p.length + 1) = Bytes.join [byte '|'] (q :: ps) := by
        rw [← List.drop_drop, List.drop_left]
        rfl
      have htake : (p ++ byte '|' :: Bytes.join [byte '|'] (q :: ps)).take p.length = p := List.take_left
      have hnext : Bytes.join [byte '|'] (q :: ps) <+: source.drop (start + p.length + 1) := by
        have hprefix := drop_prefix hrow (p.length + 1)
        rwa [hdrop] at hprefix
      have hfuel' : (Bytes.join [byte '|'] (q :: ps)).length < fuel := by
        simp only [List.length_append, List.length_cons] at hfuel
        omega
      have hrest := @ih alignments.tail fuel (start + p.length + 1) hb.2 hbare.2 hnext hfuel' hcols'
      generalize htext : p ++ byte '|' :: Bytes.join [byte '|'] (q :: ps) = text at *
      obtain ⟨c, u, rfl⟩ := List.exists_cons_of_ne_nil (show text ≠ [] by rw [← htext]; simp)
      obtain ⟨span, -, hval, hcells⟩ := @cellsFrom_cons (some (byte '|')) source alignments header fuel start hc c u hrow
      rw [hlen] at hval hcells
      rw [hcells, hdrop, List.map_cons, cellValue_mk, hval, htake, hf.trim_eq hb.1, hrest]

/-! ### Lines -/

def filled (alignments : List Alignment) (cells : List Node) : List Node :=
  cells ++ List.replicate (alignments.length - cells.length) (.leaf (.tableCell .none) [])

def rowBody (text : Bytes) : Option UInt8 × Bytes :=
  let body := if text.getLast? == some (byte '|') then text.dropLast else text
  if text.head? == some (byte '|') then (some (byte '|'), body.drop 1) else (none, body)

lemma row_fst {alignments : List Alignment} {header : Bool} {line span : Span} {text : Bytes}
    (hspan : (line.trimLeft source).trimRight source = span) (ht : span.value source = text) :
    ∃ start, (rowBody text).2 <+: source.drop start ∧
      (row source alignments header line).1 = filled alignments
        (cellsFrom source alignments header ((rowBody text).2.length + 1) (rowBody text).1 start (rowBody text).2).1 := by
  have hpad : span.padding = 0 := hspan ▸ padding_trimRight rfl
  have htext : text <+: source.drop span.start := by
    rw [← ht, Span.value, hpad, Bytes.slice]
    exact List.take_prefix _ _
  have hbody : (if text.getLast? == some (byte '|') then text.dropLast else text) <+: text := by
    split
    · exact List.dropLast_prefix _
    · exact List.prefix_refl _
  have hbody := hbody.trans htext
  refine ⟨if text.head? == some (byte '|') then span.start + 1 else span.start, ?_, ?_⟩
  · rw [rowBody]
    generalize (if text.getLast? == some (byte '|') then text.dropLast else text) = body at hbody
    split
    · exact drop_prefix hbody 1
    · exact hbody
  · rw [row, rowBody, hspan, ht]
    cases text with
    | nil => rfl
    | cons b t => by_cases hb : b = byte '|' <;> simp [hb, filled]

lemma rowBody_enclosed {body : Bytes} (t : Bytes) (h : t = byte '|' :: (body ++ [byte '|'])) :
    rowBody t = (some (byte '|'), body) := by
  subst h
  have hlast : (byte '|' :: (body ++ [byte '|'])).getLast? = some (byte '|') := by
    rw [← List.cons_append, List.getLast?_concat]
  have hinit : (byte '|' :: (body ++ [byte '|'])).dropLast = byte '|' :: body := by
    rw [← List.cons_append, List.dropLast_concat]
  rw [rowBody, hlast, hinit]
  rfl

lemma cellValue_filler : cellValue source (.leaf (.tableCell .none) []) = [] := rfl

lemma row_eq_iff {line : Span} {ss ps : List Bytes} {b : Bytes} (h : List.Forall₂ Framed ss ps)
    (hbounded : ∀ s ∈ ss, Bounded s) (hlen : ss.length = alignments.length) (hb : ∀ c ∈ b, Bytes.isSpace c = true)
    (hline : line.Covers source (byte '|' :: (Bytes.join [byte '|'] ps ++ [byte '|']) ++ b)) :
    (row source alignments header line).1.map (cellValue source) = ss ↔ ∀ s ∈ ss, hasBarePipe s = false := by
  have hvalue : ((line.trimLeft source).trimRight source).value source = byte '|' :: (Bytes.join [byte '|'] ps ++ [byte '|']) := by
    rw [hline.value_trimmed]
    refine Bytes.trim_append (a := []) (by simp) hb (fun c hc => ?_) fun c hc => ?_
    · obtain rfl : byte '|' = c := Option.some.inj hc
      decide
    · rw [← List.cons_append, List.getLast?_concat] at hc
      obtain rfl : byte '|' = c := Option.some.inj hc
      decide
  obtain ⟨start, hprefix, hrow⟩ := @row_fst source alignments header line _ _ rfl hvalue
  rw [rowBody_enclosed _ rfl] at hprefix hrow
  rw [hrow, filled, List.map_append, List.map_replicate, cellValue_filler]
  constructor
  · intro hss s hs
    rw [← hss, List.mem_append, List.mem_map] at hs
    rcases hs with ⟨cell, hcell, rfl⟩ | hs
    · have hfront : some (byte '|') ≠ some (byte '\\') := by decide
      obtain ⟨a, span, rfl, -, hbare⟩ := isCell_cellsFrom hprefix hfront cell hcell
      rwa [cellValue_mk]
    · rw [List.eq_of_mem_replicate hs]
      rfl
  · intro hbare
    have hcells : (cellsFrom source alignments header ((Bytes.join [byte '|'] ps).length + 1) (some (byte '|')) start
        (Bytes.join [byte '|'] ps)).1.map (cellValue source) = ss :=
      cellsFrom_join h hbounded hbare hprefix (Nat.lt_succ_self _) (.inr (h.length_eq ▸ hlen.le))
    have hmissing : alignments.length - (cellsFrom source alignments header ((Bytes.join [byte '|'] ps).length + 1)
        (some (byte '|')) start (Bytes.join [byte '|'] ps)).1.length = 0 := by
      rw [← hlen, ← congrArg List.length hcells, List.length_map, Nat.sub_self]
    rw [hcells, hmissing, List.replicate_zero, List.append_nil]

end MarkdownTidy.Table
