import MarkdownTidy.Proofs.Shortcode.WrittenNames

/-! Which attributes of a list are kept, which of their values are tidied, and which names a set of
markdown-bearing names learns from it. -/

namespace MarkdownTidy

namespace MarkdownAttributes

variable {m : MarkdownAttributes}

def bears (m : MarkdownAttributes) (name : Bytes) : Bool :=
  m.spread || m.names.contains (Text.lower name)

lemma mem_add_singleton {name n : Bytes} :
    n ∈ (m.add [name]).names ↔ n = Text.lower name ∨ n ∈ m.names := mem_insertName

lemma observe_fst (name : Bytes) : (m.observe name).1 = m.bears name := by
  cases hm : m.spread with
  | true => rw [observe_spreading hm, bears, hm, Bool.true_or]
  | false => rw [observe_fixed hm, bears, hm, Bool.false_or]

lemma spread_observe (name : Bytes) : (m.observe name).2.spread = m.spread := by
  rw [observe]
  split <;> rfl

lemma bears_observe (name n : Bytes) : (m.observe name).2.bears n = m.bears n := by
  cases hm : m.spread with
  | true => rw [bears, spread_observe, bears, hm, Bool.true_or, Bool.true_or]
  | false => rw [observe_fixed hm]

def observeAll (m : MarkdownAttributes) (names : List Bytes) : MarkdownAttributes :=
  names.foldl (fun m name => (m.observe name).2) m

lemma spread_observeAll (names : List Bytes) : (m.observeAll names).spread = m.spread := by
  induction names generalizing m with
  | nil => rfl
  | cons name names ih => exact ih.trans (spread_observe name)

lemma observeAll_fixed (hm : m.spread = false) (names : List Bytes) : m.observeAll names = m := by
  induction names with
  | nil => rfl
  | cons name names ih =>
    rw [observeAll, List.foldl_cons, observe_fixed hm]
    exact ih

lemma mem_observeAll_spreading (hm : m.spread = true) {names : List Bytes} {n : Bytes} :
    n ∈ (m.observeAll names).names ↔ n ∈ m.names ∨ n ∈ names.map Text.lower := by
  induction names generalizing m with
  | nil => simp [observeAll]
  | cons name names ih =>
    have hstep := ih (m := (m.observe name).2) ((spread_observe name).trans hm)
    rw [observe_spreading hm, mem_add_singleton] at hstep
    rw [observeAll, List.foldl_cons, observe_spreading hm, List.map_cons, List.mem_cons]
    exact hstep.trans (by rw [or_comm (a := n = _), or_assoc])

end MarkdownAttributes

namespace Shortcode

def hasName (l : List (Bytes × Bytes)) (name : Bytes) : Bool :=
  l.any fun q => Text.lower q.1 == Text.lower name

def firsts (l : List (Bytes × Bytes)) : List (Bytes × Bytes) :=
  (l.zipIdx.filter fun p => !hasName (l.take p.2) p.1.1).map (·.1)

def Reader.attribute (r : Reader) (m : MarkdownAttributes) (p : Bytes × Bytes) : Attribute :=
  ⟨p.1, if m.bears p.1 then Text.trimSpace (r.tidy p.2) else p.2⟩

variable (r : Reader) {m : MarkdownAttributes}

lemma attribute_observe (name : Bytes) (p : Bytes × Bytes) :
    r.attribute (m.observe name).2 p = r.attribute m p := by
  rw [Reader.attribute, Reader.attribute, MarkdownAttributes.bears_observe]

lemma keep_eq_filter {pre seen : List _} {l : List (Bytes × Bytes)}
    (hs : ∀ name, seen.contains (Text.lower name) = hasName pre name) :
    (r.keep m seen l).1 = ((l.zipIdx pre.length).filter fun p =>
      !hasName ((pre ++ l).take p.2) p.1.1).map fun p => r.attribute m p.1 := by
  induction l generalizing m pre seen with
  | nil => rfl
  | cons p l ih =>
    obtain ⟨name, value⟩ := p
    have hpre : pre ++ (name, value) :: l = (pre ++ [(name, value)]) ++ l := by simp
    have htake : (pre ++ (name, value) :: l).take pre.length = pre := List.take_left
    have hlen : pre.length + 1 = (pre ++ [(name, value)]).length := by simp
    have hnext : ∀ n, hasName (pre ++ [(name, value)]) n = (hasName pre n || Text.lower name == Text.lower n) := by
      simp [hasName]
    rw [Reader.keep, List.zipIdx_cons, List.filter_cons]
    simp only [htake, hs name]
    by_cases hname : hasName pre name = true
    · have hold : ¬ (!hasName pre name) = true := by simp [hname]
      rw [if_pos hname, if_neg hold, hpre, hlen]
      refine ih fun n => ?_
      rw [hs, hnext]
      by_cases hn : Text.lower name = Text.lower n
      · have hsame : hasName pre n = true := by rwa [hasName, ← hn]
        rw [hsame, Bool.true_or]
      · rw [beq_eq_false_iff_ne.mpr hn, Bool.or_false]
    · have hnew : (!hasName pre name) = true := by simpa using hname
      have hrest := @ih (m.observe name).2 (pre ++ [(name, value)]) (Text.lower name :: seen) fun n => by
        rw [List.contains_cons, hs, hnext, Bool.or_comm, BEq.comm (a := Text.lower n)]
      simp only [attribute_observe] at hrest
      rw [if_neg hname, if_pos hnew, List.map_cons, hpre, hlen]
      simp only [hrest, MarkdownAttributes.observe_fst, Reader.attribute]

lemma keep_fst (l : List (Bytes × Bytes)) : (r.keep m [] l).1 = (firsts l).map (r.attribute m) := by
  rw [@keep_eq_filter r m [] [] l fun _ => rfl, firsts, List.map_map]
  rfl

lemma keep_snd (seen : List Bytes) (l : List (Bytes × Bytes)) :
    (r.keep m seen l).2 = m.observeAll (r.keep m seen l).1.names := by
  induction l generalizing m seen with
  | nil => rfl
  | cons p l ih =>
    obtain ⟨name, value⟩ := p
    rw [Reader.keep]
    simp only
    split
    · exact ih seen
    · exact ih _

lemma respell_values (parsed : List (Bytes × Bytes)) (written : List Bytes) :
    (respell parsed written).map (·.2) = parsed.map (·.2) := by
  rw [respell]
  split
  · rename_i hlen
    rw [List.map_map]
    calc (parsed.zip written).map (Prod.snd ∘ _)
      _ = ((parsed.zip written).map (·.1)).map (·.2) := by rw [List.map_map]; rfl
      _ = parsed.map (·.2) := by rw [List.map_fst_zip (beq_iff_eq.mp hlen).ge]
  · rfl

lemma attributes?_eq {raw : Bytes} {parsed : List (Bytes × Bytes)}
    (h : Html.tagAttributes? (raw ++ utf8 " />") = some parsed) :
    r.attributes? m raw =
      (some ((firsts (respell parsed (writtenNames raw))).map (r.attribute m)),
        m.observeAll (Attributes.names ((firsts (respell parsed (writtenNames raw))).map (r.attribute m)))) := by
  simp only [Reader.attributes?, h]
  rw [keep_snd, keep_fst]

/-- In a list that is read, the attributes are the first ones of their names up to case, in order and
with their names as written where the scan agrees with the grammar. The values of exactly those that
hold markdown, for the set as it was, are tidied; values of other entries are never looked at. The set
is asked about the names that are kept: a spreading one learns them, a fixed one stays as it is. -/
theorem attributes?_keeps_firsts {m' : MarkdownAttributes} {raw : Bytes} {attrs : Attributes}
    (h : r.attributes? m raw = (some attrs, m')) :
    ∃ parsed, Html.tagAttributes? (raw ++ utf8 " />") = some parsed ∧
      let spelled := respell parsed (writtenNames raw)
      spelled.map (·.2) = parsed.map (·.2) ∧
      ((writtenNames raw).map Bytes.lowerAscii = parsed.map (·.1) →
        spelled.map (·.1) = writtenNames raw) ∧
      attrs = (firsts spelled).map (fun p =>
        ⟨p.1, if m.bears p.1 then Text.trimSpace (r.tidy p.2) else p.2⟩) ∧
      (∀ tidy, (∀ p ∈ firsts spelled, m.bears p.1 = true → tidy p.2 = r.tidy p.2) →
        { r with tidy := tidy }.attributes? m raw = (some attrs, m')) ∧
      m' = m.observeAll attrs.names ∧ m'.spread = m.spread ∧
      (m.spread = true → ∀ n, n ∈ m'.names ↔ n ∈ m.names ∨ n ∈ attrs.names.map Text.lower) ∧
      (m.spread = false → m' = m) := by
  cases hparsed : Html.tagAttributes? (raw ++ utf8 " />") with
  | none =>
    rw [Reader.attributes?, hparsed] at h
    cases h
  | some parsed =>
    obtain ⟨hattrs, rfl⟩ := Prod.mk.inj ((attributes?_eq r hparsed).symm.trans h)
    obtain rfl := Option.some.inj hattrs
    refine ⟨parsed, rfl, respell_values _ _, fun hagree => ?_, rfl, fun tidy htidy => ?_, rfl,
      MarkdownAttributes.spread_observeAll _, fun hm n => MarkdownAttributes.mem_observeAll_spreading hm,
      fun hm => MarkdownAttributes.observeAll_fixed hm _⟩
    · have hlen : (writtenNames raw).length ≤ (parsed.map (·.2)).length := by
        simpa using (congrArg List.length hagree).le
      rw [respell_eq_zip hagree, List.map_fst_zip hlen]
    · have hsame : (firsts (respell parsed (writtenNames raw))).map ({ r with tidy := tidy }.attribute m) =
          (firsts (respell parsed (writtenNames raw))).map (r.attribute m) := by
        refine List.map_congr_left fun p hp => ?_
        simp only [Reader.attribute, Attribute.mk.injEq, true_and]
        split
        · rw [htidy p hp ‹_›]
        · rfl
      rw [attributes?_eq _ hparsed, hsame]

/-- Names that agree up to case, in the list and in a fixed set; the second `ALT` is never tidied. -/
theorem attributes?_keeps_firsts_repeated :
    let r := Reader.new [] [] (fun v => byte ' ' :: v)
    let m := MarkdownAttributes.new false [utf8 "Alt"]
    let raw := utf8 "alt=x É=y ALT=z é=w"
    let attrs := [⟨utf8 "alt", utf8 "x"⟩, ⟨utf8 "É", utf8 "y"⟩]
    r.attributes? m raw = (some attrs, m) ∧
      { r with tidy := fun v => if v = utf8 "x" then utf8 " x" else [] }.attributes? m raw =
        (some attrs, m) := by
  intro r m raw attrs
  have hread : r.attributes? m raw = (some attrs, m) := by decide +kernel
  obtain ⟨parsed, hparsed, -, -, -, htidy, -⟩ := attributes?_keeps_firsts r hread
  refine ⟨hread, htidy _ ?_⟩
  obtain rfl : parsed = [(utf8 "alt", utf8 "x"), (utf8 "É", utf8 "y"), (utf8 "alt", utf8 "z"),
      (utf8 "é", utf8 "w")] := Option.some.inj (hparsed.symm.trans (by decide +kernel))
  decide +kernel

end Shortcode

end MarkdownTidy
