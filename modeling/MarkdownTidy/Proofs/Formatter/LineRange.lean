import MarkdownTidy.Proofs.Formatter.FrontMatter

/-! Formatting some lines of a document. Whatever becomes of the selected lines, the lines around them
stay as they are and stay lines of their own, because a written document is empty or ends in a line
feed. Where all lines are selected the result is that of formatting the document. -/

namespace MarkdownTidy

open Bytes

/-! ### Line feeds at the end -/

def Bytes.withoutFinalNewline (s : Bytes) : Bytes :=
  if s.getLast? = some newline then s.dropLast else s

lemma Bytes.endsWith_newline (s : Bytes) :
    endsWith s (utf8 "\n") = decide (s.getLast? = some newline) := by
  rw [Bool.eq_iff_iff, decide_eq_true_iff, endsWith, List.isSuffixOf_iff_suffix,
    show utf8 "\n" = [newline] by decide]
  constructor
  · rintro ⟨t, rfl⟩
    simp
  · intro h
    obtain ⟨t, rfl⟩ := List.getLast?_eq_some_iff.mp h
    exact List.suffix_append t [newline]

lemma Writer.write_ends {style : Style} {registry : VisitorRegistry} {source out : Bytes} {doc : Node}
    (h : write style registry source doc = .ok out) : out = [] ∨ out.getLast? = some newline := by
  rw [write] at h
  obtain ⟨s, -, rfl⟩ := exists_of_map_eq_ok h
  dsimp only
  split
  · exact .inl rfl
  · exact .inr (by simp)

namespace LineRange

variable {r : LineRange} {ls : List Bytes}

def Within (r : LineRange) (n : Nat) : Prop := 1 ≤ r.first ∧ r.first ≤ r.last ∧ r.last ≤ n

def before (r : LineRange) (ls : List Bytes) : List Bytes := ls.take (r.first.toNat - 1)

def selected (r : LineRange) (ls : List Bytes) : List Bytes :=
  (ls.take r.last.toNat).drop (r.first.toNat - 1)

def behind (r : LineRange) (ls : List Bytes) : List Bytes := ls.drop r.last.toNat

lemma Within.append (h : r.Within ls.length) :
    ls = r.before ls ++ (r.selected ls ++ r.behind ls) ∧ r.selected ls ≠ [] := by
  obtain ⟨hfirst, hle, hlast⟩ := h
  have hcut : r.first.toNat - 1 < r.last.toNat := by omega
  constructor
  · have hbefore : r.before ls = (ls.take r.last.toNat).take (r.first.toNat - 1) := by
      rw [before, List.take_take, Nat.min_eq_left hcut.le]
    rw [hbefore, ← List.append_assoc, selected, List.take_append_drop, behind, List.take_append_drop]
  · rw [ne_eq, selected, List.drop_eq_nil_iff, List.length_take]
    omega

end LineRange

def fitted (selection s : Bytes) : Bytes :=
  if selection.getLast? = some newline then s else s.withoutFinalNewline

lemma if_endsWith (selection s : Bytes) :
    (if !endsWith selection (utf8 "\n") && endsWith s (utf8 "\n") then s.dropLast else s) =
      fitted selection s := by
  rw [endsWith_newline, endsWith_newline, fitted, withoutFinalNewline]
  by_cases h : selection.getLast? = some newline <;> simp [h]

namespace Formatter

variable {f : Formatter} {names : MarkdownAttributes} {patience : Patience} {src out : Bytes}
  {r : LineRange}

lemma formatBody_ends (h : (f.formatBody names src).1 = .ok out) :
    out = [] ∨ out.getLast? = some newline := by
  rw [formatBody_fst] at h
  exact Writer.write_ends (Pipeline.write_of_format (eq_ok_of_mapError h))

lemma formatRange_outside (h : ¬ r.Within (lines src).length) :
    (f.formatRange names patience src r).result = .error (.range r (lines src).length) := by
  rw [formatRange]
  simp only
  rw [if_pos]
  simp only [Bool.or_eq_true, decide_eq_true_iff]
  simp only [LineRange.Within] at h
  omega

lemma formatRange_within (h : r.Within (lines src).length) :
    (f.formatRange names patience src r).result =
      if f.config.disableFormatter then .ok src
      else
        match patience.spend with
        | none => .error .canceled
        | some _ => (f.formatBody names (r.selected (lines src)).flatten).1.map fun s =>
          (r.before (lines src)).flatten ++ fitted (r.selected (lines src)).flatten s ++
            (r.behind (lines src)).flatten := by
  obtain ⟨hfirst, hle, hlast⟩ := h
  rw [formatRange]
  simp only
  rw [if_neg (by simp only [Bool.or_eq_true, decide_eq_true_iff]; omega)]
  split
  · rfl
  · cases patience.spend with
    | none => rfl
    | some _ =>
      simp only [if_endsWith]
      rfl

lemma formatRange_eq_ok (enabled : f.config.disableFormatter = false)
    (ok : (f.formatRange names patience src r).result = .ok out) :
    r.Within (lines src).length ∧
      ∃ formatted, (f.formatBody names (r.selected (lines src)).flatten).1 = .ok formatted ∧
        out = (r.before (lines src)).flatten ++ fitted (r.selected (lines src)).flatten formatted ++
          (r.behind (lines src)).flatten := by
  by_cases hw : r.Within (lines src).length
  · simp only [formatRange_within hw, enabled, Bool.false_eq_true, if_false] at ok
    cases hs : patience.spend with
    | none => simp [hs] at ok
    | some _ =>
      rw [hs] at ok
      cases hb : (f.formatBody names (r.selected (lines src)).flatten).1 with
      | error e => simp [hb, Except.map] at ok
      | ok formatted =>
        rw [hb] at ok
        exact ⟨hw, formatted, rfl, (Except.ok.inj ok).symm⟩
  · rw [formatRange_outside hw] at ok
    cases ok

lemma formatRange_error_iff :
    (∃ s n, (f.formatRange names patience src r).result = .error (.range s n)) ↔
      ¬ r.Within (lines src).length := by
  constructor
  · rintro ⟨s, n, h⟩ hw
    rw [formatRange_within hw] at h
    split at h
    · cases h
    · split at h
      · cases h
      · simp only [formatBody] at h
        generalize (f.document.format names _).1 = x at h
        cases x <;> cases h
  · intro hw
    exact ⟨_, _, formatRange_outside hw⟩

lemma lines_spliced {formatted : Bytes} (h : r.Within (lines src).length)
    (hends : formatted = [] ∨ formatted.getLast? = some newline) :
    lines ((r.before (lines src)).flatten ++ fitted (r.selected (lines src)).flatten formatted ++
        (r.behind (lines src)).flatten) =
      r.before (lines src) ++ lines (fitted (r.selected (lines src)).flatten formatted) ++
        r.behind (lines src) := by
  obtain ⟨hsplit, hne⟩ := h.append
  obtain ⟨hbefore, hrest, hend⟩ := lines_eq_append hsplit
  obtain ⟨hselected, hbehind, hend'⟩ := lines_eq_append hrest
  rw [List.append_assoc, lines_append (hend (by simp [hne])), hbefore, List.append_assoc]
  congr 1
  -- Where lines follow, the selection ends in a line feed, and what takes its place keeps it.
  by_cases hb : r.behind (lines src) = []
  · simp [hb]
  · have hlast : (r.selected (lines src)).flatten.getLast? = some newline := by
      refine (hend' hb).resolve_left fun hnil => hne ?_
      rw [← hselected, hnil, lines]
    rw [fitted, if_pos hlast, lines_append hends, hbehind]

lemma formatFrontMatter_of_error {src : Bytes}
    (h : FrontMatter.split src = .absent ∨ ∃ problem, FrontMatter.split src = .unreadable problem) :
    (formatFrontMatter src).1 = [] ∧ (formatFrontMatter src).2.1 = src := by
  rcases h with h | ⟨problem, h⟩ <;> simp [formatFrontMatter, h]

lemma fitted_self (s : Bytes) : fitted s s = s := by
  rw [fitted, withoutFinalNewline]
  split
  · rfl
  · simp_all

lemma format_of_error
    (h : FrontMatter.split src = .absent ∨ ∃ problem, FrontMatter.split src = .unreadable problem)
    (hdone : (f.format names patience src).result ≠ .error .canceled) :
    (f.format names patience src).result =
      if f.config.disableFormatter then .ok src else (f.formatBody names src).1 := by
  obtain ⟨hhead, hbody⟩ := formatFrontMatter_of_error h
  rw [format] at hdone ⊢
  split
  · rfl
  · rename_i enabled
    rw [if_neg enabled] at hdone
    cases hfirst : patience.spend with
    | none => simp [hfirst] at hdone
    | some patience =>
      cases hsecond : patience.spend with
      | none => simp [hfirst, hsecond] at hdone
      | some _ =>
        simp only [hsecond, hhead, hbody, List.isEmpty_nil, Bool.true_or, if_true, List.nil_append]
        cases (f.formatBody names src).1 <;> rfl

lemma formatRange_all {other : Patience} (hr : r = ⟨1, (lines src).length⟩)
    (hw : r.Within (lines src).length)
    (h : FrontMatter.split src = .absent ∨ ∃ problem, FrontMatter.split src = .unreadable problem)
    (hdone : (f.format names other src).result ≠ .error .canceled)
    (hdone' : (f.formatRange names patience src r).result ≠ .error .canceled) :
    (f.formatRange names patience src r).result =
      (f.format names other src).result.map (fitted src) := by
  have hbefore : (r.before (lines src)).flatten = [] := by simp [hr, LineRange.before]
  have hbehind : (r.behind (lines src)).flatten = [] := by simp [hr, LineRange.behind]
  have hselected : (r.selected (lines src)).flatten = src := by
    simp [hr, LineRange.selected, flatten_lines]
  rw [formatRange_within hw, hbefore, hbehind, hselected] at hdone' ⊢
  rw [format_of_error h hdone]
  split
  · simp [Except.map, fitted_self]
  · rename_i enabled
    rw [if_neg enabled] at hdone'
    cases hs : patience.spend with
    | none => simp [hs] at hdone'
    | some _ => simp

/-- A range is refused exactly when it is not made of lines of the document. Otherwise what comes out is
the lines before the selection, the selection in canonical form and the lines behind it, and these are
lines of the result: the text in between is empty or ends in a line feed if the selection does. Where
all lines of a document without readable front matter are selected, the result is that of formatting
the document, without its final line feed if the document has none. -/
theorem formatRange_selection (f : Formatter) (names : MarkdownAttributes) (patience : Patience)
    (src : Bytes) (r : LineRange) :
    let ls := lines src
    let first := r.first.toNat
    let last := r.last.toNat
    let selection := ((ls.take last).drop (first - 1)).flatten
    ((∃ s n, (f.formatRange names patience src r).result = .error (.range s n)) ↔
      ¬ (1 ≤ r.first ∧ r.first ≤ r.last ∧ r.last ≤ ls.length)) ∧
    (∀ out, f.config.disableFormatter = false →
      (f.formatRange names patience src r).result = .ok out →
      ∃ formatted text, (f.formatBody names selection).1 = .ok formatted ∧
        text = (if selection.getLast? = some newline then formatted
          else formatted.withoutFinalNewline) ∧
        out = (ls.take (first - 1)).flatten ++ text ++ (ls.drop last).flatten ∧
        (selection.getLast? = some newline → text = [] ∨ text.getLast? = some newline) ∧
        lines out = ls.take (first - 1) ++ lines text ++ ls.drop last) ∧
    (∀ other, r = ⟨1, ls.length⟩ → 1 ≤ ls.length →
      (FrontMatter.split src = .absent ∨ ∃ problem, FrontMatter.split src = .unreadable problem) →
      (f.format names other src).result ≠ .error .canceled →
      (f.formatRange names patience src r).result ≠ .error .canceled →
      (f.formatRange names patience src r).result =
        (f.format names other src).result.map fun s =>
          if src.getLast? = some newline then s else s.withoutFinalNewline) := by
  refine ⟨formatRange_error_iff, fun out enabled ok => ?_, fun other hr hn h hdone hdone' => ?_⟩
  · obtain ⟨hw, formatted, hbody, rfl⟩ := formatRange_eq_ok enabled ok
    have hends := formatBody_ends hbody
    refine ⟨formatted, _, hbody, rfl, rfl, fun hlast => ?_, lines_spliced hw hends⟩
    simpa only [hlast, if_true] using hends
  · have hw : r.Within (lines src).length := by
      rw [hr]
      exact ⟨Int.le_refl _, Int.ofNat_le.mpr hn, Int.le_refl _⟩
    exact formatRange_all hr hw h hdone hdone'

/-- A range that is none, two lines of several, and a document of one line without a line feed. -/
theorem formatRange_selection_list :
    ∃ f, (new {} .initial).1 = .ok f ∧
      (∃ s n, (f.formatRange .initial none (utf8 "a\nb\n") ⟨3, 2⟩).result = .error (.range s n)) ∧
      (∃ text, (f.formatRange .initial none (utf8 "# A\n\n* x\n* y\n\nkeep   *this*\n") ⟨3, 4⟩).result =
          .ok (utf8 "# A\n\n" ++ text ++ utf8 "\nkeep   *this*\n") ∧
        (text = [] ∨ text.getLast? = some newline)) ∧
      (f.formatRange .initial none (utf8 "*a*") ⟨1, 1⟩).result =
        (f.format .initial none (utf8 "*a*")).result.map withoutFinalNewline := by
  have hnew : ((new {} .initial).1.toOption.map fun f => (f.config.disableFormatter,
      (f.formatRange .initial none (utf8 "# A\n\n* x\n* y\n\nkeep   *this*\n") ⟨3, 4⟩).result.toOption,
      (f.formatRange .initial none (utf8 "*a*") ⟨1, 1⟩).result.toOption,
      (f.format .initial none (utf8 "*a*")).result.toOption)) =
      some (false, some (utf8 "# A\n\n- x\n- y\n\nkeep   *this*\n"), some (utf8 "_a_"),
        some (utf8 "_a_\n")) := by decide +kernel
  obtain ⟨f, hf, hf'⟩ := Option.map_eq_some_iff.mp hnew
  obtain ⟨enabled, hout, hone, hall⟩ := by simpa only [Prod.mk.injEq] using hf'
  have habsent : FrontMatter.split (utf8 "*a*") = .absent :=
    FrontMatter.split_eq_absent_iff.mpr (by decide)
  refine ⟨f, eq_ok_of_toOption hf, ?_, ?_, ?_⟩
  · exact (formatRange_selection f .initial none (utf8 "a\nb\n") ⟨3, 2⟩).1.mpr (by decide)
  · obtain ⟨_, text, -, -, htext, hends, -⟩ :=
      (formatRange_selection f .initial none _ ⟨3, 4⟩).2.1 _ enabled (eq_ok_of_toOption hout)
    refine ⟨text, ?_, hends (by decide)⟩
    rw [eq_ok_of_toOption hout, htext]
    rfl
  · exact (formatRange_selection f .initial none (utf8 "*a*") ⟨1, 1⟩).2.2 none (by decide) (by decide)
      (.inl habsent) (by rw [eq_ok_of_toOption hall]; simp) (by rw [eq_ok_of_toOption hone]; simp)

end Formatter

end MarkdownTidy
