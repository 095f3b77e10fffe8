import Mathlib.Data.List.DropRight
import MarkdownTidy.Proofs.Shortcode.AttributeList

/-! The names of an attribute list are found twice: by the grammar of a tag, which lowers them, and by
a scan that keeps their spelling. The two agree as long as no slash outside of values is followed by an
equals sign, which the grammar takes for the start of a value and the scan for the start of a name. -/

namespace MarkdownTidy.Shortcode

open Html

def afterSlashesUpTo : Nat → Bytes → List Bytes
  | 0, _ => []
  | fuel + 1, s =>
    match s.dropWhile isTagSpace with
    | [] => []
    | b :: rest =>
      if b == byte '>' then []
      else if b == byte '/' then rest :: afterSlashesUpTo fuel rest
      else
        let after := rest.dropWhile (!endsKey ·)
        if after.head? == some (byte '/') then after.drop 1 :: afterSlashesUpTo fuel (after.drop 1)
        else
          match skipWrittenValue? after with
          | none => []
          | some s => afterSlashesUpTo fuel s

def afterSlashes (raw : Bytes) : List Bytes := afterSlashesUpTo (raw.length + 1) raw

def NoEquals (s : Bytes) : Prop := (s.dropWhile isTagSpace).head? ≠ some (byte '=')

instance (s : Bytes) : Decidable (NoEquals s) := inferInstanceAs (Decidable (_ ≠ _))

/-! ### The end that is put after a list -/

def tagEnd : Bytes := [32, 47, 62]

section

variable {p : UInt8 → Bool}

lemma takeWhile_append_tagEnd (hp : p 32 = false) (s : Bytes) :
    (s ++ tagEnd).takeWhile p = s.takeWhile p := by
  induction s with
  | nil => simp [tagEnd, hp]
  | cons b s ih => cases hb : p b <;> simp [hb, ih]

lemma dropWhile_append_tagEnd (hp : p 32 = false) (s : Bytes) :
    (s ++ tagEnd).dropWhile p = s.dropWhile p ++ tagEnd := by
  induction s with
  | nil => simp [tagEnd, hp]
  | cons b s ih => cases hb : p b <;> simp [hb, ih]

end

lemma dropWhile_space_nil {s : Bytes} (h : s.dropWhile isTagSpace = []) :
    (s ++ tagEnd).dropWhile isTagSpace = [47, 62] := by
  rw [List.dropWhile_append, h]
  rfl

lemma dropWhile_space_cons {s rest : Bytes} {b : UInt8} (h : s.dropWhile isTagSpace = b :: rest) :
    (s ++ tagEnd).dropWhile isTagSpace = b :: (rest ++ tagEnd) := by
  rw [List.dropWhile_append, h]
  rfl

lemma tagAttributesUpTo_dropWhile (fuel : Nat) (s : Bytes) :
    tagAttributesUpTo fuel (s.dropWhile isTagSpace) = tagAttributesUpTo fuel s := by
  cases fuel with
  | zero => rfl
  | succ fuel =>
    conv_lhs => unfold tagAttributesUpTo
    conv_rhs => unfold tagAttributesUpTo
    rw [List.dropWhile_idempotent]

lemma tagAttributesUpTo_closing {fuel : Nat} {t : Bytes} {r : List (Bytes × Bytes) × Bytes}
    (ht : t = [47, 62] ∨ t = [62]) (h : tagAttributesUpTo fuel t = some r) : r.1 = [] := by
  match fuel, ht with
  | 0, _ => simp [tagAttributesUpTo] at h
  | n + 1, .inr ht =>
    have he : tagAttributesUpTo (n + 1) [62] = some ([], []) := rfl
    rw [ht, he] at h
    exact Option.some.inj h ▸ rfl
  | 1, .inl ht =>
    have he : tagAttributesUpTo 1 [47, 62] = none := rfl
    rw [ht, he] at h
    cases h
  | n + 2, .inl ht =>
    rw [ht, ← tagAttributesUpTo_space, tagAttributesUpTo_end] at h
    exact Option.some.inj h ▸ rfl

/-! ### Values -/

lemma dropWhile_afterKey {s : Bytes} (h : s.head? ≠ some (byte '/')) :
    (afterKey s).dropWhile isTagSpace = s.dropWhile isTagSpace := by
  cases s with
  | nil => rfl
  | cons b s =>
    have hb : (b == byte '/') = false := by simpa using h
    cases hs : isTagSpace b <;> simp [afterKey, hb, hs]

lemma length_skipWrittenValue? {s t : Bytes} (h : skipWrittenValue? s = some t) :
    t.length ≤ s.length := by
  have hle : ∀ (p : UInt8 → Bool) {l r : Bytes} {b : UInt8}, l.dropWhile p = b :: r →
      r.length + 1 ≤ l.length := fun p l r b hl => by
    simpa [hl] using (List.dropWhile_suffix p (l := l)).length_le
  rw [skipWrittenValue?] at h
  split at h
  · cases h
  · rename_i b rest hb
    have hrest := hle _ hb
    split at h
    · cases h
      exact hrest
    · split at h
      · cases h
      · rename_i q rest' hq
        have hrest' := hle _ hq
        split at h
        · cases h
          simp only [List.length_cons]
          omega
        · split at h
          · split at h
            · cases h
            · rename_i c after hafter
              have := hle _ hafter
              cases h
              omega
          · cases h
            have := (List.dropWhile_suffix (!endsBareValue ·) (l := q :: rest')).length_le
            simp only [List.length_cons] at this
            omega

/-- Where the scan passes over a value or finds none, so does the grammar. -/
lemma skipWrittenValue?_of_takeValue? {after v t : Bytes} (hslash : after.head? ≠ some (byte '/'))
    (h : takeValue? (after ++ tagEnd) = some (v, t)) :
    skipWrittenValue? after = none ∧ (t = [47, 62] ∨ t = [62]) ∨
      ∃ s, skipWrittenValue? after = some s ∧ t = s ++ tagEnd := by
  have hhead : (after ++ tagEnd).head? ≠ some (byte '/') := by
    cases after with
    | nil => decide
    | cons b after => exact hslash
  rw [takeValue?, dropWhile_afterKey hhead] at h
  rw [skipWrittenValue?]
  cases hd : after.dropWhile isTagSpace with
  | nil =>
    rw [dropWhile_space_nil hd] at h
    obtain ⟨rfl, rfl⟩ : [] = v ∧ [47, 62] = t := by simpa [byte] using h
    exact Or.inl ⟨rfl, Or.inl rfl⟩
  | cons b rest =>
    rw [dropWhile_space_cons hd] at h
    simp only at h ⊢
    by_cases hb : (b != byte '=') = true
    · rw [if_pos hb] at h ⊢
      cases h
      exact Or.inr ⟨_, rfl, rfl⟩
    · rw [if_neg hb] at h ⊢
      cases hq : rest.dropWhile isTagSpace with
      | nil =>
        rw [dropWhile_space_nil hq] at h
        have he : (some ([47], [62]) : Option (Bytes × Bytes)) = some (v, t) := h
        cases he
        exact Or.inl ⟨rfl, Or.inr rfl⟩
      | cons q rest' =>
        rw [dropWhile_space_cons hq] at h
        simp only at h ⊢
        by_cases hgt : (q == byte '>') = true
        · rw [if_pos hgt] at h ⊢
          cases h
          exact Or.inr ⟨_, rfl, rfl⟩
        · rw [if_neg hgt] at h ⊢
          by_cases hquote : (q == byte '"' || q == byte '\'') = true
          · rw [if_pos hquote] at h ⊢
            cases hc : rest'.dropWhile (· != q) with
            | nil =>
              -- No quote closes the value, and the end of the tag has none either.
              have hend : tagEnd.dropWhile (· != q) = [] := by
                simp only [Bool.or_eq_true, beq_iff_eq] at hquote
                rcases hquote with rfl | rfl <;> decide
              rw [List.dropWhile_append, hc, List.isEmpty_nil, if_pos rfl, hend] at h
              cases h
            | cons c after' =>
              rw [List.dropWhile_append, hc, List.isEmpty_cons, if_neg Bool.false_ne_true] at h
              cases h
              exact Or.inr ⟨_, rfl, rfl⟩
          · rw [if_neg hquote] at h ⊢
            rw [← List.cons_append, dropWhile_append_tagEnd rfl] at h
            refine Or.inr ⟨_, rfl, ?_⟩
            split at h
            · cases h
            · cases h
              rfl

lemma takeValue?_slash {rest v t : Bytes} (hne : NoEquals rest)
    (h : takeValue? (47 :: rest ++ tagEnd) = some (v, t)) :
    t = (rest ++ tagEnd).dropWhile isTagSpace := by
  have hkey : afterKey (47 :: rest ++ tagEnd) = rest ++ tagEnd := rfl
  rw [takeValue?, hkey] at h
  cases hd : rest.dropWhile isTagSpace with
  | nil =>
    rw [dropWhile_space_nil hd] at h ⊢
    cases h
    rfl
  | cons b rest' =>
    have hb : (b != byte '=') = true := by simpa [NoEquals, hd] using hne
    rw [dropWhile_space_cons hd] at h ⊢
    simp only [hb, if_true] at h
    cases h
    rfl

/-! ### Names -/

lemma takeKey_append_tagEnd {b : UInt8} (hspace : isTagSpace b = false) (hgt : b ≠ byte '>')
    (hslash : b ≠ byte '/') (rest : Bytes) :
    takeKey (b :: (rest ++ tagEnd)) =
      (b :: rest.takeWhile (!endsKey ·), rest.dropWhile (!endsKey ·) ++ tagEnd) := by
  have hp : (!endsKey 32) = false := by decide
  rw [takeKey, takeWhile_append_tagEnd hp, dropWhile_append_tagEnd hp]
  split
  · rfl
  · rename_i heq
    have hb : endsKey b = false := by simp_all [endsKey]
    rw [List.takeWhile_cons, List.dropWhile_cons, hb]
    simp only [Bool.not_false, if_true]
    rw [takeWhile_append_tagEnd hp, dropWhile_append_tagEnd hp]

lemma exists_of_tagAttributesUpTo {n : Nat} {s rest : Bytes} {b : UInt8}
    {r : List (Bytes × Bytes) × Bytes} (hd : s.dropWhile isTagSpace = b :: rest)
    (hgt : ¬(b == byte '>') = true) (h : tagAttributesUpTo (n + 1) s = some r) :
    ∃ v t l, takeValue? (takeKey (b :: rest)).2 = some (v, t) ∧ tagAttributesUpTo n t = some l ∧
      r.1 = if (takeKey (b :: rest)).1.isEmpty then l.1
        else tagAttribute (takeKey (b :: rest)).1 v :: l.1 := by
  rw [tagAttributesUpTo, hd] at h
  simp only [hgt, Bool.false_eq_true, if_false] at h
  split at h
  · cases h
  · rename_i v t hv
    split at h
    · cases h
    · rename_i l final hl
      cases h
      exact ⟨v, t, _, hv, hl, rfl⟩

/-- The scan finds the names that the grammar reads. -/
lemma map_lowerAscii_writtenNamesUpTo {n m : Nat} {s : Bytes} {r : List (Bytes × Bytes) × Bytes}
    (hm : s.length < m) (hs : ∀ t ∈ afterSlashesUpTo m s, NoEquals t)
    (h : tagAttributesUpTo n (s ++ tagEnd) = some r) :
    (writtenNamesUpTo m s).map Bytes.lowerAscii = r.1.map (·.1) := by
  induction n generalizing m s r with
  | zero => simp [tagAttributesUpTo] at h
  | succ n ih =>
    obtain ⟨m, rfl⟩ : ∃ k, m = k + 1 := ⟨m - 1, by omega⟩
    rw [afterSlashesUpTo] at hs
    rw [writtenNamesUpTo]
    cases hd : s.dropWhile isTagSpace with
    | nil =>
      rw [← tagAttributesUpTo_dropWhile, dropWhile_space_nil hd] at h
      rw [tagAttributesUpTo_closing (Or.inl rfl) h]
      rfl
    | cons b rest =>
      have hlen : rest.length + 1 ≤ s.length := by
        simpa [hd] using (List.dropWhile_suffix isTagSpace (l := s)).length_le
      have hspace : isTagSpace b = false := by
        have hh := List.head?_dropWhile_not isTagSpace s
        rw [hd] at hh
        simpa using hh
      rw [hd] at hs
      simp only at hs ⊢
      by_cases hgt : (b == byte '>') = true
      · rw [tagAttributesUpTo, dropWhile_space_cons hd] at h
        simp only [hgt, if_true, Option.some.injEq] at h ⊢
        rw [← h]
        rfl
      · obtain ⟨v, t, l, hv, hl, hr⟩ :=
          exists_of_tagAttributesUpTo (dropWhile_space_cons hd) hgt h
        rw [if_neg hgt] at hs ⊢
        by_cases hslash : (b == byte '/') = true
        · -- A slash alone: an empty name, which is no attribute.
          rw [if_pos hslash] at hs ⊢
          obtain rfl : b = 47 := beq_iff_eq.mp hslash
          have hkey : takeKey (47 :: (rest ++ tagEnd)) = ([], 47 :: (rest ++ tagEnd)) := rfl
          rw [hkey] at hv hr
          have ht := takeValue?_slash (hs rest List.mem_cons_self) hv
          rw [ht, tagAttributesUpTo_dropWhile] at hl
          rw [hr]
          exact ih (by omega) (fun u hu => hs u (List.mem_cons_of_mem _ hu)) hl
        · rw [if_neg hslash] at hs ⊢
          rw [takeKey_append_tagEnd hspace (by simpa using hgt) (by simpa using hslash)] at hv hr
          simp only at hv hr
          rw [hr, List.isEmpty_cons, if_neg Bool.false_ne_true, List.map_cons, List.map_cons]
          refine congrArg _ ?_
          have hafter : (rest.dropWhile (!endsKey ·)).length ≤ rest.length :=
            (List.dropWhile_suffix _).length_le
          generalize rest.dropWhile (!endsKey ·) = after at hs hv hafter ⊢
          by_cases hend : (after.head? == some (byte '/')) = true
          · rw [if_pos hend] at hs ⊢
            obtain ⟨after', rfl⟩ : ∃ after', after = 47 :: after' :=
              List.head?_eq_some_iff.mp (beq_iff_eq.mp hend)
            rw [List.drop_one, List.tail_cons] at hs ⊢
            rw [List.length_cons] at hafter
            have ht := takeValue?_slash (hs after' List.mem_cons_self) hv
            rw [ht, tagAttributesUpTo_dropWhile] at hl
            exact ih (by omega) (fun u hu => hs u (List.mem_cons_of_mem _ hu)) hl
          · rw [if_neg hend] at hs ⊢
            rcases skipWrittenValue?_of_takeValue? (by simpa using hend) hv with
              ⟨hskip, ht⟩ | ⟨s', hskip, rfl⟩
            · rw [hskip, tagAttributesUpTo_closing ht hl]
              rfl
            · have hlen' := length_skipWrittenValue? hskip
              rw [hskip] at hs ⊢
              exact ih (by omega) hs hl

/-! ### Attribute lists -/

lemma keep_sublist (r : Reader) (m : MarkdownAttributes) (seen : List Bytes)
    (l : List (Bytes × Bytes)) : ((r.keep m seen l).1.map (·.name)).Sublist (l.map (·.1)) := by
  induction l generalizing m seen with
  | nil => exact List.Sublist.slnil
  | cons p l ih =>
    obtain ⟨name, value⟩ := p
    rw [Reader.keep]
    simp only
    split
    · exact (ih m seen).cons _
    · exact (ih _ _).cons_cons _

lemma respell_eq_zip {parsed : List (Bytes × Bytes)} {written : List Bytes}
    (h : written.map Bytes.lowerAscii = parsed.map (·.1)) :
    respell parsed written = written.zip (parsed.map (·.2)) := by
  have hlen : written.length = (parsed.map (·.2)).length := by
    simpa using congrArg List.length h
  have hparsed : parsed =
      (written.zip (parsed.map (·.2))).map fun p => (Bytes.lowerAscii p.1, id p.2) := by
    have hz : (written.map Bytes.lowerAscii).zip (parsed.map (·.2)) =
        (written.zip (parsed.map (·.2))).map (Prod.map Bytes.lowerAscii id) := List.zip_map_left
    rw [h] at hz
    exact (List.zip_of_prod rfl rfl).trans hz
  have hwritten : written = (written.zip (parsed.map (·.2))).map (·.1) :=
    (List.map_fst_zip hlen.le).symm
  calc respell parsed written
    _ = respell ((written.zip (parsed.map (·.2))).map fun p => (Bytes.lowerAscii p.1, id p.2))
        ((written.zip (parsed.map (·.2))).map (·.1)) := by rw [← hparsed, ← hwritten]
    _ = (written.zip (parsed.map (·.2))).map fun p => (p.1, id p.2) :=
      respell_lowerAscii (written.zip (parsed.map (·.2))) id
    _ = written.zip (parsed.map (·.2)) := List.map_id _

/-- In an attribute list where no slash outside of values is followed by an equals sign, the scan finds
as many names as the grammar reads, each the same but for the case of ASCII letters; so every attribute
that is kept has its written name. -/
theorem writtenNames_agree {raw : Bytes} {parsed : List (Bytes × Bytes)}
    (h : tagAttributes? (raw ++ utf8 " />") = some parsed)
    (hs : ∀ t ∈ afterSlashes raw, NoEquals t) :
    (writtenNames raw).map Bytes.lowerAscii = parsed.map (·.1) ∧
      respell parsed (writtenNames raw) = (writtenNames raw).zip (parsed.map (·.2)) ∧
      ∀ (r : Reader) (m : MarkdownAttributes), ∃ attrs, (r.attributes? m raw).1 = some attrs ∧
        attrs.names.Sublist (writtenNames raw) := by
  have hnames : (writtenNames raw).map Bytes.lowerAscii = parsed.map (·.1) := by
    obtain ⟨r, hr, rfl⟩ := Option.map_eq_some_iff.mp h
    exact map_lowerAscii_writtenNamesUpTo (Nat.lt_succ_self raw.length) hs hr
  have hzip := respell_eq_zip hnames
  refine ⟨hnames, hzip, fun r m => ⟨(r.keep m [] (respell parsed (writtenNames raw))).1, ?_, ?_⟩⟩
  · rw [Reader.attributes?, h]
  · have hlen : (writtenNames raw).length ≤ (parsed.map (·.2)).length := by
      simpa using (congrArg List.length hnames).le
    have hkept := keep_sublist r m [] (respell parsed (writtenNames raw))
    rwa [show (respell parsed (writtenNames raw)).map (·.1) = writtenNames raw from
      hzip ▸ List.map_fst_zip hlen] at hkept

/-- Slashes around names, equals signs in front of names, values with a slash and an equals sign in
them, and a value that is missing where the list ends. -/
theorem writtenNames_agree_slashes :
    let raw := utf8 "=C A/B / d=\"/=>\"=D É = /=x Title="
    let parsed := [(utf8 "=c", []), (utf8 "a", []), (utf8 "b", []), (utf8 "d", utf8 "/=>"),
      (utf8 "=d", []), (utf8 "É", utf8 "/=x"), (utf8 "title", utf8 "/")]
    tagAttributes? (raw ++ utf8 " />") = some parsed ∧
      (∀ t ∈ afterSlashes raw, NoEquals t) ∧
      (writtenNames raw).map Bytes.lowerAscii = parsed.map (·.1) ∧
      respell parsed (writtenNames raw) = (writtenNames raw).zip (parsed.map (·.2)) := by
  intro raw parsed
  have h : tagAttributes? (raw ++ utf8 " />") = some parsed := by decide +kernel
  have hs : ∀ t ∈ afterSlashes raw, NoEquals t := by decide +kernel
  obtain ⟨hnames, hzip, -⟩ := writtenNames_agree h hs
  exact ⟨h, hs, hnames, hzip⟩

/-- A slash that is followed by an equals sign: the grammar reads one attribute where the scan finds two
names, and the written name is lost. -/
theorem writtenNames_slashed_equals :
    let raw := utf8 "Title/=b"
    tagAttributes? (raw ++ utf8 " />") = some [(utf8 "title", utf8 "b")] ∧
      writtenNames raw = [utf8 "Title", utf8 "=b"] ∧
      ((Reader.new [] [] id).attributes? ⟨false, []⟩ raw).1 = some [⟨utf8 "title", utf8 "b"⟩] := by
  decide +kernel

end MarkdownTidy.Shortcode
