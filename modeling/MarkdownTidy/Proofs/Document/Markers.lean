import MarkdownTidy.Proofs.Document.Delimiters
import MarkdownTidy.Proofs.Plain.Inline
import MarkdownTidy.Proofs.Text.CodePoints

/-! Text with markers of emphasis in it, as it is written, and how it is read: each marker becomes a delimiter run
of its own, and everything else is text. -/

namespace MarkdownTidy

/-- A part of a written text. -/
inductive Mark where
  | byte (b : UInt8)
  | soft
  | hard
  | opening (marker : Bytes)
  | closing (marker : Bytes)
  deriving DecidableEq, Repr

namespace Mark

def bytes : Mark → Bytes
  | byte b => [b]
  | soft => [Bytes.newline]
  | hard => [MarkdownTidy.byte '\\', Bytes.newline]
  | opening m | closing m => m

def token : Mark → Token
  | byte b => .byte b
  | soft => .soft
  | hard => .hard
  | opening m => .enter m.length
  | closing _ => .leave

def markers : List Bytes := ["*", "_", "**", "__"].map utf8

def written (ms : List Mark) : Bytes := ms.flatMap bytes

lemma written_cons (m : Mark) (ms : List Mark) : written (m :: ms) = m.bytes ++ written ms := rfl

lemma written_append (ms ms' : List Mark) : written (ms ++ ms') = written ms ++ written ms' := List.flatMap_append

lemma written_bytes (x : Bytes) : written (x.map byte) = x := by
  induction x with
  | nil => rfl
  | cons b x ih => rw [List.map_cons, written_cons, ih]; rfl

end Mark

def charBehind (w : Bytes) : Nat := if w.isEmpty then 10 else Utf8.precedingOfReversed w.reverse

open Mark in
/-- Behind the text `w`, and inside emphasis with the given markers, innermost first, marks are read as what they are:
other markup is hidden by a backslash or is a run that neither opens nor closes, each marker is a run of its own that
can open or close as it should, and none is taken for the end of emphasis around it. No line ends in white space,
and the backslash of a hard line break is none that is hidden. -/
inductive Legible : List Bytes → Bytes → List Mark → Prop
  | nil {w : Bytes} (hw : ∀ b ∈ w.getLast?, Bytes.isSpace b = false) : Legible [] w []
  | byte {open_ : List Bytes} {w : Bytes} {b : UInt8} {ms : List Mark} (hb : b ∉ Plain.markup) (hn : b ≠ Bytes.newline)
      (h : Legible open_ (w ++ [b]) ms) : Legible open_ w (.byte b :: ms)
  | escaped {open_ : List Bytes} {w : Bytes} {b : UInt8} {ms : List Mark} (hn : b ≠ Bytes.newline)
      (h : Legible open_ (w ++ [MarkdownTidy.byte '\\', b]) ms) :
      Legible open_ w (.byte (MarkdownTidy.byte '\\') :: .byte b :: ms)
  | idle {open_ : List Bytes} {w : Bytes} {d : Delimiter} {ms : List Mark}
      (hd : Delimiter.scan (d.marker ++ written ms) (charBehind w) w.length = some d)
      (hm : d.mark ∈ utf8 "*_") (ho : d.canOpen = false) (hc : d.canClose = false)
      (h : Legible open_ (w ++ d.marker) ms) : Legible open_ w (d.marker.map .byte ++ ms)
  | opening {open_ : List Bytes} {w : Bytes} {d : Delimiter} {ms : List Mark}
      (hd : Delimiter.scan (d.marker ++ written ms) (charBehind w) w.length = some d) (hm : d.marker ∈ markers)
      (ho : d.canOpen = true) (hc : d.canClose = true → d.marker ∉ open_)
      (h : Legible (d.marker :: open_) (w ++ d.marker) ms) : Legible open_ w (.opening d.marker :: ms)
  | closing {open_ : List Bytes} {w : Bytes} {d : Delimiter} {ms : List Mark}
      (hd : Delimiter.scan (d.marker ++ written ms) (charBehind w) w.length = some d) (hm : d.marker ∈ markers)
      (hc : d.canClose = true) (h : Legible open_ (w ++ d.marker) ms) :
      Legible (d.marker :: open_) w (.closing d.marker :: ms)
  | soft {open_ : List Bytes} {w : Bytes} {ms : List Mark} (hw : ∀ b ∈ w.getLast?, Bytes.isSpace b = false)
      (hs : ∀ b ∈ (written ms).head?, Bytes.isSpace b = false) (h : Legible open_ (w ++ [Bytes.newline]) ms) :
      Legible open_ w (.soft :: ms)
  | hard {open_ : List Bytes} {w : Bytes} {ms : List Mark}
      (hw : ∀ b ∈ w.getLast?, Bytes.isSpace b = false ∧ b ≠ MarkdownTidy.byte '\\')
      (hs : ∀ b ∈ (written ms).head?, Bytes.isSpace b = false)
      (h : Legible open_ (w ++ [MarkdownTidy.byte '\\', Bytes.newline]) ms) : Legible open_ w (.hard :: ms)

namespace Delimiter

variable {x : Bytes} {before start : Nat} {d : Delimiter}

structure Found (x : Bytes) (start : Nat) (d : Delimiter) : Prop where
  pos : 0 < d.written
  length : d.length = d.written
  span : d.span = ⟨start, start + d.written, 0⟩
  isPrefix : d.marker <+: x

lemma found_of_scan (h : scan x before start = some d) : d.Found x start := by
  cases x with
  | nil => cases h
  | cons b x =>
    rw [scan] at h
    obtain rfl := (Option.some.inj h).symm
    refine ⟨by simp, rfl, rfl, ?_⟩
    have hrun : List.replicate ((b :: x).takeWhile (· == b)).length b = (b :: x).takeWhile (· == b) := by
      refine (List.eq_replicate_iff.mpr ⟨rfl, fun c hc => ?_⟩).symm
      simpa using List.mem_takeWhile_imp hc
    rw [marker]
    exact hrun.symm ▸ List.takeWhile_prefix _

lemma takeWhile_line {b : UInt8} (hb : b ≠ Bytes.newline) (x y : Bytes) :
    (x ++ Bytes.newline :: y).takeWhile (· == b) = x.takeWhile (· == b) := by
  induction x with
  | nil => simp [Ne.symm hb]
  | cons c x ih =>
    rw [List.cons_append, List.takeWhile_cons, List.takeWhile_cons, ih]

lemma scan_line {b : UInt8} (hb : b ≠ Bytes.newline) (x y : Bytes) :
    scan (b :: x ++ Bytes.newline :: y) before start = scan (b :: x ++ [Bytes.newline]) before start := by
  have hrun : ∀ z, (b :: x ++ Bytes.newline :: z).takeWhile (· == b) = (b :: x).takeWhile (· == b) :=
    takeWhile_line hb (b :: x)
  have hlen : ((b :: x).takeWhile (· == b)).length ≤ (b :: x).length := (List.takeWhile_prefix _).length_le
  have hdrop : ∀ z, (b :: x ++ Bytes.newline :: z).drop ((b :: x).takeWhile (· == b)).length =
      (b :: x).drop ((b :: x).takeWhile (· == b)).length ++ Bytes.newline :: z :=
    fun z => List.drop_append_of_le_length hlen
  have hafter : ∀ z, (Utf8.decode ((b :: x).drop ((b :: x).takeWhile (· == b)).length ++ Bytes.newline :: z)).1 =
      (Utf8.decode ((b :: x).drop ((b :: x).takeWhile (· == b)).length ++ [Bytes.newline])).1 := by
    intro z
    cases (b :: x).drop ((b :: x).takeWhile (· == b)).length with
    | nil => rfl
    | cons c t => rw [Utf8.decode_append (by decide), Utf8.decode_append (by decide)]
  have hempty : ∀ t z : Bytes, (t ++ Bytes.newline :: z).isEmpty = false := by simp
  have h₁ := hrun y
  have h₂ := hrun []
  have h₃ := hdrop y
  have h₄ := hdrop []
  rw [List.cons_append] at h₁ h₂ h₃ h₄ ⊢
  rw [List.cons_append]
  simp only [scan, h₁, h₂, h₃, h₄, hempty, Bool.false_eq_true, if_false, hafter y]

end Delimiter

/-! ### Ends of lines -/

namespace Mark

/-- What is left of a line, its end aside. -/
def front : List Mark → Bytes
  | [] | .soft :: _ | .hard :: _ => []
  | m :: ms => m.bytes ++ front ms

/-- How the line ends. -/
def ending : List Mark → Inline.Ending
  | [] => .none
  | .soft :: _ => .soft
  | .hard :: _ => .backslash
  | _ :: ms => ending ms

/-- The end of a line. -/
def stop : Inline.Ending → Bytes
  | .none | .hard => []
  | .soft => [Bytes.newline]
  | .backslash => [MarkdownTidy.byte '\\', Bytes.newline]

lemma map_token_bytes (x : Bytes) : (x.map byte).map token = x.map .byte := by
  rw [List.map_map]
  rfl

lemma front_bytes (x : Bytes) (ms : List Mark) : front (x.map byte ++ ms) = x ++ front ms := by
  induction x with
  | nil => rfl
  | cons b x ih => exact congrArg (b :: ·) ih

lemma ending_bytes (x : Bytes) (ms : List Mark) : ending (x.map byte ++ ms) = ending ms := by
  induction x with
  | nil => rfl
  | cons b x ih => exact ih

lemma exists_written (ms : List Mark) :
    ∃ x, written ms = front ms ++ (stop (ending ms) ++ x) ∧ ending ms ≠ .hard ∧ (ending ms = .none → x = []) := by
  induction ms with
  | nil => exact ⟨[], rfl, by decide, fun _ => rfl⟩
  | cons m ms ih =>
    obtain ⟨x, hx, hne, hnone⟩ := ih
    cases m
    case soft => exact ⟨written ms, rfl, Inline.Ending.noConfusion, Inline.Ending.noConfusion⟩
    case hard => exact ⟨written ms, rfl, Inline.Ending.noConfusion, Inline.Ending.noConfusion⟩
    all_goals
      refine ⟨x, ?_, hne, hnone⟩
      rw [written_cons, hx, ← List.append_assoc]
      rfl

end Mark

def IsLine (rest later : Bytes) : Prop :=
  (later = [] ∧ Bytes.newline ∉ rest) ∨ ∃ t, rest = t ++ [Bytes.newline] ∧ Bytes.newline ∉ t

def Paired (x : Bytes) : Prop := ∀ q, x = q ++ [byte '\\'] → q.getLast? = some (byte '\\')

lemma paired_nil : Paired [] := fun q h => by simp at h

lemma Paired.append {x y : Bytes} (hy : Paired y) (hx : Paired x) : Paired (x ++ y) := by
  intro q h
  rcases y.eq_nil_or_concat' with rfl | ⟨y, b, rfl⟩
  · rw [List.append_nil] at h
    exact hx q h
  · rw [← List.append_assoc] at h
    obtain ⟨rfl, hb⟩ := List.append_inj' h rfl
    have hlast := hy y (by rw [hb])
    rw [List.getLast?_append, hlast, Option.some_or]

lemma paired_of_last {x : Bytes} (h : ∀ b ∈ x.getLast?, b ≠ byte '\\') : Paired x := by
  rintro q rfl
  exact absurd rfl (h (byte '\\') (by simp))

namespace Inline

variable {y : Bytes}

lemma ending_last (hn : Bytes.newline ∉ y) : ending y = (y.length, .none) := by
  rw [ending]
  cases hr : y.reverse with
  | nil => rfl
  | cons a rest =>
    have ha : a ≠ Bytes.newline := by
      rintro rfl
      exact hn (List.mem_reverse.mp (hr ▸ List.mem_cons_self))
    dsimp only
    rw [if_pos (by simpa using ha)]

lemma ending_paired (hs : ∀ b ∈ y.getLast?, Bytes.isSpace b = false) (hp : Paired y) :
    ending (y ++ [Bytes.newline]) = (y.length + 1, .soft) := by
  rw [ending]
  rcases y.eq_nil_or_concat' with rfl | ⟨y, b, rfl⟩
  · rfl
  · have hb : Bytes.isSpace b = false := hs b (by simp)
    have hr : b ≠ byte '\r' := by
      rintro rfl
      cases hb
    have hspace : b ≠ byte ' ' := by
      rintro rfl
      cases hb
    have hhidden : b = byte '\\' → y.getLast? = some (byte '\\') := by
      rintro rfl
      exact hp y rfl
    by_cases hslash : b = byte '\\'
    · simp [hslash, hhidden hslash, show byte '\\' ≠ byte '\r' by decide, show byte '\\' ≠ byte ' ' by decide]
    · simp [hslash, hr, hspace]

lemma ending_backslash (hs : y.getLast? ≠ some (byte '\\')) :
    ending (y ++ [byte '\\', Bytes.newline]) = (y.length, .backslash) := by
  rw [ending]
  simp [show byte '\\' ≠ byte '\r' by decide, hs]

end Inline

/-! ### Legible marks -/

namespace Delimiter

variable {d : Delimiter}

lemma mark_of_marker (h : d.marker ∈ Mark.markers) : d.mark ∈ utf8 "*_" ∧ (d.written = 1 ∨ d.written = 2) := by
  have hkeys : ∀ m ∈ Mark.markers, (∀ b ∈ m, b ∈ utf8 "*_") ∧ (m.length = 1 ∨ m.length = 2) := by
    decide +kernel
  obtain ⟨hmark, hlen⟩ := hkeys _ h
  rw [marker, List.length_replicate] at hlen
  refine ⟨hmark d.mark (List.mem_replicate.mpr ⟨?_, rfl⟩), hlen⟩
  rcases hlen with h | h <;> omega

lemma Found.exists_marker {x : Bytes} {start : Nat} (h : d.Found x start) : ∃ m, d.marker = d.mark :: m := by
  obtain ⟨n, hn⟩ : ∃ n, d.written = n + 1 := ⟨d.written - 1, by have := h.pos; omega⟩
  exact ⟨List.replicate n d.mark, by rw [marker, hn, List.replicate_succ]⟩

lemma isMarker {source : Bytes} (hs : (Piece.delimiter d).Sound source) (hl : d.length = d.written)
    (h : d.marker ∈ Mark.markers) : d.IsMarker source := by
  obtain ⟨hmark, hwritten⟩ := mark_of_marker h
  refine ⟨hs, hl, hwritten, ?_⟩
  intro he
  rw [he] at hmark
  exact absurd hmark (by decide)

lemma plain_of_marker (h : d.mark ∈ utf8 "*_") :
    ∀ b ∈ d.marker, b ≠ Bytes.newline ∧ b ≠ byte '\\' ∧ b ≠ byte '[' := by
  intro b hb
  rw [marker] at hb
  rw [List.eq_of_mem_replicate hb]
  revert h
  generalize d.mark = c
  revert c
  decide +kernel

end Delimiter

namespace Legible

variable {open_ : List Bytes} {w : Bytes} {ms : List Mark}

open Mark

lemma head_ne_bracket (h : Legible open_ w ms) : (written ms).head? ≠ some (MarkdownTidy.byte '[') := by
  have hmarker : ∀ {d : Delimiter} {x : Bytes} {start before : Nat} {ms' : List Mark}, d.mark ∈ utf8 "*_" →
      Delimiter.scan x before start = some d → (d.marker ++ written ms').head? ≠ some (MarkdownTidy.byte '[') := by
    intro d x start before ms' hm hd
    obtain ⟨m, hcons⟩ := (Delimiter.found_of_scan hd).exists_marker
    have hplain := Delimiter.plain_of_marker hm d.mark (by rw [hcons]; exact List.mem_cons_self)
    rw [hcons]
    simpa using hplain.2.2
  cases h with
  | nil => simp [written]
  | byte hb =>
    rw [written_cons]
    simp only [bytes, List.singleton_append, List.head?_cons, ne_eq, Option.some.injEq]
    rintro rfl
    exact hb (by decide)
  | escaped => simp [written_cons, bytes, show MarkdownTidy.byte '\\' ≠ MarkdownTidy.byte '[' by decide]
  | idle hd hm =>
    rw [written_append, written_bytes]
    exact hmarker hm hd
  | opening hd hm => exact hmarker (Delimiter.mark_of_marker hm).1 hd
  | closing hd hm => exact hmarker (Delimiter.mark_of_marker hm).1 hd
  | soft => simp [written_cons, bytes, show Bytes.newline ≠ MarkdownTidy.byte '[' by decide]
  | hard => simp [written_cons, bytes, show MarkdownTidy.byte '\\' ≠ MarkdownTidy.byte '[' by decide]

lemma eq_nil (h : Legible open_ w ms) (hw : written ms = []) :
    ms = [] ∧ open_ = [] ∧ ∀ b ∈ w.getLast?, Bytes.isSpace b = false := by
  have hmarker : ∀ {d : Delimiter} {x : Bytes} {start before : Nat} {y : Bytes},
      Delimiter.scan x before start = some d → d.marker ++ y ≠ [] := by
    intro d x start before y hd
    obtain ⟨m, hcons⟩ := (Delimiter.found_of_scan hd).exists_marker
    simp [hcons]
  cases h with
  | nil hlast => exact ⟨rfl, rfl, hlast⟩
  | idle hd =>
    rw [written_append, written_bytes] at hw
    exact absurd hw (hmarker hd)
  | opening hd => exact absurd hw (hmarker hd)
  | closing hd => exact absurd hw (hmarker hd)
  | byte | escaped | soft | hard => simp [written_cons, bytes] at hw

structure Front (w : Bytes) (ms : List Mark) : Prop where
  newline : Bytes.newline ∉ front ms
  paired : Paired (front ms)
  last : ∀ b ∈ (w ++ front ms).getLast?,
    Bytes.isSpace b = false ∧ (ending ms = .backslash → b ≠ MarkdownTidy.byte '\\')

lemma Front.more {x : Bytes} {ms' : List Mark} (h : Front (w ++ x) ms) (hf : front ms' = x ++ front ms)
    (he : ending ms' = ending ms) (hn : Bytes.newline ∉ x) (hp : Paired x) : Front w ms' := by
  refine ⟨?_, ?_, ?_⟩
  · rw [hf, List.mem_append]
    exact not_or.mpr ⟨hn, h.newline⟩
  · rw [hf]
    exact h.paired.append hp
  · rw [hf, he, ← List.append_assoc]
    exact h.last

lemma isFront (h : Legible open_ w ms) : Front w ms := by
  have hmarker : ∀ {d : Delimiter}, d.mark ∈ utf8 "*_" → Bytes.newline ∉ d.marker ∧ Paired d.marker := fun hm =>
    ⟨fun hn => (Delimiter.plain_of_marker hm _ hn).1 rfl,
      paired_of_last fun b hb => (Delimiter.plain_of_marker hm b (List.mem_of_getLast? hb)).2.1⟩
  induction h with
  | nil hw =>
    refine ⟨by simp [front], paired_nil, ?_⟩
    rw [front, List.append_nil]
    exact fun b hb => ⟨hw b hb, fun he => by cases he⟩
  | @byte _ _ b _ hb hn _ ih =>
    refine ih.more rfl rfl (by simpa using Ne.symm hn) (paired_of_last ?_)
    rintro c ⟨⟩ rfl
    exact hb (by decide)
  | @escaped _ _ b _ hn _ ih =>
    refine ih.more rfl rfl (by simpa using ⟨by decide, Ne.symm hn⟩) ?_
    intro q hq
    obtain ⟨rfl, -⟩ := List.append_inj' (show [MarkdownTidy.byte '\\'] ++ [b] = q ++ _ from hq) rfl
    rfl
  | idle _ hm _ _ _ ih => exact ih.more (front_bytes _ _) (ending_bytes _ _) (hmarker hm).1 (hmarker hm).2
  | opening _ hm _ _ _ ih =>
    have hm := (Delimiter.mark_of_marker hm).1
    exact ih.more rfl rfl (hmarker hm).1 (hmarker hm).2
  | closing _ hm _ _ ih =>
    have hm := (Delimiter.mark_of_marker hm).1
    exact ih.more rfl rfl (hmarker hm).1 (hmarker hm).2
  | soft hw _ _ _ =>
    refine ⟨by simp [front], paired_nil, ?_⟩
    rw [front, List.append_nil]
    exact fun b hb => ⟨hw b hb, fun he => by cases he⟩
  | hard hw _ _ _ =>
    refine ⟨by simp [front], paired_nil, ?_⟩
    rw [front, List.append_nil]
    exact fun b hb => ⟨(hw b hb).1, fun _ => (hw b hb).2⟩

variable {rest later : Bytes}

lemma Front.rest_eq (h : Front w ms) (hw : written ms = rest ++ later) (hr : IsLine rest later) :
    rest = front ms ++ stop (ending ms) := by
  obtain ⟨x, hx, hne, hnone⟩ := exists_written ms
  rw [hw] at hx
  cases he : ending ms with
  | none =>
    obtain rfl := hnone he
    rw [he, stop, List.append_nil, List.append_nil] at hx
    rw [stop, List.append_nil]
    rcases hr with ⟨rfl, -⟩ | ⟨t, rfl, -⟩
    · rwa [List.append_nil] at hx
    · exact absurd (hx ▸ by simp) h.newline
  | soft =>
    rw [he, stop, List.singleton_append] at hx
    rcases hr with ⟨rfl, hn⟩ | ⟨t, rfl, ht⟩
    · rw [List.append_nil] at hx
      exact absurd (hx ▸ by simp) hn
    · rw [List.append_assoc, List.singleton_append] at hx
      rw [(Bytes.line_unique ht h.newline hx).1, stop]
  | backslash =>
    have hn' : Bytes.newline ∉ front ms ++ [MarkdownTidy.byte '\\'] := by
      simpa using ⟨h.newline, by decide⟩
    rw [he, stop, List.cons_append, List.singleton_append, List.append_cons] at hx
    rcases hr with ⟨rfl, hn⟩ | ⟨t, rfl, ht⟩
    · rw [List.append_nil] at hx
      exact absurd (hx ▸ by simp) hn
    · rw [List.append_assoc, List.singleton_append] at hx
      rw [(Bytes.line_unique ht hn' hx).1, stop, List.append_assoc]
      rfl
  | hard => exact absurd he hne

lemma Front.ending_eq (h : Front w ms) (hw : written ms = rest ++ later) (hr : IsLine rest later) :
    Inline.ending rest = ((front ms).length + if ending ms = .soft then 1 else 0, ending ms) := by
  have hlast : ∀ b ∈ (front ms).getLast?, Bytes.isSpace b = false ∧ (ending ms = .backslash → b ≠ MarkdownTidy.byte '\\') := by
    intro b hb
    refine h.last b ?_
    rw [List.getLast?_append, hb]
    rfl
  obtain ⟨-, -, hne, -⟩ := exists_written ms
  rw [h.rest_eq hw hr]
  cases he : ending ms with
  | none =>
    rw [stop, List.append_nil]
    exact Inline.ending_last h.newline
  | soft => exact Inline.ending_paired (fun b hb => (hlast b hb).1) h.paired
  | backslash => exact Inline.ending_backslash fun hb => (hlast _ hb).2 he rfl
  | hard => exact absurd he hne

end Legible

/-! ### Telling whether marks are legible -/

open Mark in
/-- Whether marks are legible. The first argument bounds their number. -/
def Mark.isLegible : Nat → List Bytes → Bytes → List Mark → Bool
  | 0, _, _, _ => false
  | _ + 1, open_, w, [] => open_.isEmpty && w.getLast?.all fun b => !Bytes.isSpace b
  | fuel + 1, open_, w, .byte b :: ms =>
    if b == MarkdownTidy.byte '\\' then
      match ms with
      | .byte c :: ms => c != Bytes.newline && isLegible fuel open_ (w ++ [b, c]) ms
      | _ => false
    else if (utf8 "*_").contains b then
      match Delimiter.scan (written (.byte b :: ms)) (charBehind w) w.length with
      | some d =>
        d.marker.map .byte == (.byte b :: ms).take d.written && !d.canOpen && !d.canClose &&
          isLegible fuel open_ (w ++ d.marker) ((.byte b :: ms).drop d.written)
      | none => false
    else !Plain.markup.contains b && b != Bytes.newline && isLegible fuel open_ (w ++ [b]) ms
  | fuel + 1, open_, w, .opening m :: ms =>
    match Delimiter.scan (m ++ written ms) (charBehind w) w.length with
    | some d =>
      d.marker == m && markers.contains m && d.canOpen && !(d.canClose && open_.contains m) &&
        isLegible fuel (m :: open_) (w ++ m) ms
    | none => false
  | fuel + 1, m' :: open_, w, .closing m :: ms =>
    match Delimiter.scan (m ++ written ms) (charBehind w) w.length with
    | some d => m' == m && d.marker == m && markers.contains m && d.canClose && isLegible fuel open_ (w ++ m) ms
    | none => false
  | _ + 1, [], _, .closing _ :: _ => false
  | fuel + 1, open_, w, .soft :: ms =>
    (w.getLast?.all fun b => !Bytes.isSpace b) && ((written ms).head?.all fun b => !Bytes.isSpace b) &&
      isLegible fuel open_ (w ++ [Bytes.newline]) ms
  | fuel + 1, open_, w, .hard :: ms =>
    (w.getLast?.all fun b => !Bytes.isSpace b && b != MarkdownTidy.byte '\\') &&
      ((written ms).head?.all fun b => !Bytes.isSpace b) &&
      isLegible fuel open_ (w ++ [MarkdownTidy.byte '\\', Bytes.newline]) ms

namespace Legible

open Mark

variable {fuel : Nat} {open_ : List Bytes} {w : Bytes} {ms : List Mark}

lemma of_isLegible (h : isLegible fuel open_ w ms = true) : Legible open_ w ms := by
  have hall : ∀ {o : Option UInt8} {p : UInt8 → Bool}, o.all p = true → ∀ b ∈ o, p b = true := by
    rintro _ p h b rfl
    exact h
  fun_induction isLegible fuel open_ w ms
  case case2 =>
    rw [Bool.and_eq_true, List.isEmpty_iff] at h
    obtain ⟨rfl, h⟩ := h
    exact .nil fun b hb => by simpa using hall h b hb
  case case3 hb _ _ ih =>
    rw [Bool.and_eq_true, bne_iff_ne] at h
    rw [beq_iff_eq] at hb
    subst hb
    exact .escaped h.1 (ih h.2)
  case case5 b ms hslash hb d hd ih =>
    simp only [Bool.and_eq_true, beq_iff_eq, Bool.not_eq_true'] at h
    obtain ⟨⟨⟨hmarks, ho⟩, hc⟩, h⟩ := h
    have hlegible := ih h
    have hrun : Mark.byte b :: ms = d.marker.map .byte ++ (Mark.byte b :: ms).drop d.written := by
      rw [hmarks, List.take_append_drop]
    rw [hrun, written_append, written_bytes] at hd
    obtain ⟨m, hm⟩ := (Delimiter.found_of_scan hd).exists_marker
    rw [hrun]
    refine .idle hd ?_ ho hc hlegible
    rw [hm, List.map_cons, List.cons_append] at hrun
    obtain rfl := Mark.byte.inj (List.cons.inj hrun).1
    simpa using hb
  case case7 hslash hb ih =>
    simp only [Bool.and_eq_true, Bool.not_eq_true', bne_iff_ne] at h
    exact .byte (by simpa using h.1.1) h.1.2 (ih h.2)
  case case8 m ms d hd ih =>
    simp only [Bool.and_eq_true, beq_iff_eq, Bool.not_eq_true', List.contains_iff_mem] at h
    obtain ⟨⟨⟨⟨rfl, hm⟩, ho⟩, hc⟩, h⟩ := h
    exact .opening hd hm ho (fun hclose hin => by simp [hclose, hin] at hc) (ih h)
  case case10 d hd ih =>
    simp only [Bool.and_eq_true, beq_iff_eq, List.contains_iff_mem] at h
    obtain ⟨⟨⟨⟨rfl, rfl⟩, hm⟩, hc⟩, h⟩ := h
    exact .closing hd hm hc (ih h)
  case case13 ih =>
    simp only [Bool.and_eq_true] at h
    exact .soft (fun b hb => by simpa using hall h.1.1 b hb) (fun b hb => by simpa using hall h.1.2 b hb) (ih h.2)
  case case14 ih =>
    simp only [Bool.and_eq_true] at h
    exact .hard (fun b hb => by simpa using hall h.1.1 b hb) (fun b hb => by simpa using hall h.1.2 b hb) (ih h.2)
  all_goals cases h

lemma isLegible (h : Legible open_ w ms) : ∀ fuel, ms.length < fuel → Mark.isLegible fuel open_ w ms = true := by
  have hall : ∀ {o : Option UInt8} {p : UInt8 → Bool}, (∀ b ∈ o, p b = true) → o.all p = true := by
    intro o p h
    cases o with
    | none => rfl
    | some b => exact h b rfl
  have hrun : ∀ b ∈ utf8 "*_", b ∈ Plain.markup ∧ b ≠ MarkdownTidy.byte '\\' := by decide +kernel
  have hslash : MarkdownTidy.byte '\\' ∈ Plain.markup := by decide
  induction h
  all_goals
    rintro (_ | fuel) hfuel
    · cases hfuel
    rw [Nat.lt_succ_iff] at hfuel
  case nil hw => simpa [Mark.isLegible] using hall (by simpa using hw)
  case byte b _ hb hn _ ih =>
    have hb' : b ∉ utf8 "*_" := fun h => hb (hrun b h).1
    have hslash : b ≠ MarkdownTidy.byte '\\' := fun h => hb (h ▸ hslash)
    simp [Mark.isLegible, hb, hn, hb', hslash, ih fuel hfuel]
  case escaped hn _ ih => simpa [Mark.isLegible, hn] using ih fuel (by simp only [List.length_cons] at hfuel; omega)
  case idle w d ms hd hm ho hc _ ih =>
    obtain ⟨m, hm'⟩ := (Delimiter.found_of_scan hd).exists_marker
    have hwritten : (d.marker.map Mark.byte).length = d.written := by simp [Delimiter.marker]
    have hcons : d.marker.map Mark.byte ++ ms = .byte d.mark :: (m.map .byte ++ ms) := by rw [hm']; rfl
    rw [List.length_append, hwritten] at hfuel
    have hih := ih fuel (by have := (Delimiter.found_of_scan hd).pos; omega)
    have hscan : Delimiter.scan (written (.byte d.mark :: (m.map .byte ++ ms))) (charBehind w) w.length = some d := by
      rw [← hcons, written_append, written_bytes]
      exact hd
    rw [hcons]
    unfold Mark.isLegible
    rw [if_neg (by simpa using (hrun _ hm).2), if_pos (by simpa using hm), hscan, ← hcons]
    simp [List.take_left' hwritten, List.drop_left' hwritten, ho, hc, hih]
  case opening hd hm ho hc _ ih => simpa [Mark.isLegible, hd, hm, ho, ih fuel hfuel, or_iff_not_imp_left] using hc
  case closing hd hm hc _ ih => simp [Mark.isLegible, hd, hm, hc, ih fuel hfuel]
  case soft hw hs _ ih =>
    rw [Mark.isLegible, hall (by simpa using hw), hall (by simpa using hs), ih fuel hfuel]
    rfl
  case hard hw hs _ ih =>
    rw [Mark.isLegible, hall (by simpa using hw), hall (by simpa using hs), ih fuel hfuel]
    rfl

instance : Decidable (Legible open_ w ms) :=
  decidable_of_iff (Mark.isLegible (ms.length + 1) open_ w ms = true)
    ⟨of_isLegible, fun h => h.isLegible _ (Nat.lt_succ_self _)⟩

end Legible

end MarkdownTidy
