import Mathlib.Data.List.TakeWhile
import MarkdownTidy.Proofs.Text.LetterCase
import MarkdownTidy.Shortcode.Reader

/-! Reading lists of `name="value"` pairs with the grammar of a tag, and finding the names in them as
they are written. -/

namespace MarkdownTidy.Html

def IsKey (name : Bytes) : Prop :=
  ∃ b rest, name = b :: rest ∧ isTagSpace b = false ∧ b ≠ 47 ∧ b ≠ 62 ∧ ∀ c ∈ rest, endsKey c = false

def quotedPair (name value : Bytes) : Bytes := name ++ [61, 34] ++ value ++ [34]

lemma endsKey_eq (b : UInt8) : endsKey b = (isTagSpace b || b == 47 || b == 62 || b == 61) := rfl

lemma takeWhile_append_stop {p : UInt8 → Bool} {s : Bytes} {c : UInt8} (hs : ∀ b ∈ s, p b = true)
    (hc : p c = false) (t : Bytes) : (s ++ c :: t).takeWhile p = s := by
  rw [List.takeWhile_append_of_pos hs, List.takeWhile_cons, hc]
  exact List.append_nil s

lemma dropWhile_append_stop {p : UInt8 → Bool} {s : Bytes} {c : UInt8} (hs : ∀ b ∈ s, p b = true)
    (hc : p c = false) (t : Bytes) : (s ++ c :: t).dropWhile p = c :: t := by
  rw [List.dropWhile_append_of_pos hs, List.dropWhile_cons, hc]
  rfl

lemma takeKey_stop {name : Bytes} (hk : IsKey name) {c : UInt8} (hc : endsKey c = true) (t : Bytes) :
    takeKey (name ++ c :: t) = (name, c :: t) := by
  obtain ⟨b, rest, rfl, hs, hslash, hgt, hrest⟩ := hk
  have hr : ∀ d ∈ rest, (!endsKey d) = true := fun d hd => by simp [hrest d hd]
  have he : (!endsKey c) = false := by simp [hc]
  rw [List.cons_append, takeKey]
  split
  · rw [takeWhile_append_stop hr he, dropWhile_append_stop hr he]
  · rename_i hb
    have hk : endsKey b = false := by
      simp only [byte, beq_iff_eq] at hb
      simp only [endsKey_eq, hs, Bool.false_or, Bool.or_eq_false_iff, beq_eq_false_iff_ne]
      exact ⟨⟨hslash, hgt⟩, hb⟩
    rw [List.takeWhile_cons, List.dropWhile_cons, hk]
    simp only [Bool.not_false, if_true]
    rw [takeWhile_append_stop hr he, dropWhile_append_stop hr he]

lemma takeKey_append {name : Bytes} (hk : IsKey name) (t : Bytes) : takeKey (name ++ 61 :: t) = (name, 61 :: t) :=
  takeKey_stop hk (by decide) t

lemma takeValue?_quoted {v : Bytes} (hv : 34 ∉ v) (t : Bytes) :
    takeValue? (61 :: 34 :: (v ++ 34 :: t)) = some (v, t) := by
  have hq : ∀ b ∈ v, (b != 34) = true := fun b hb => by
    simp only [bne_iff_ne, ne_eq]
    rintro rfl
    exact hv hb
  have hs : (34 != (34 : UInt8)) = false := by decide
  have he : isTagSpace 61 = false := by decide
  have hm : isTagSpace 34 = false := by decide
  simp [takeValue?, afterKey, byte, he, hm, takeWhile_append_stop hq hs,
    dropWhile_append_stop hq hs]

lemma tagAttributesUpTo_space (fuel : Nat) (s : Bytes) :
    tagAttributesUpTo fuel (32 :: s) = tagAttributesUpTo fuel s := by
  cases fuel with
  | zero => rfl
  | succ fuel =>
    conv_lhs => unfold tagAttributesUpTo
    conv_rhs => unfold tagAttributesUpTo
    rfl

lemma tagAttributesUpTo_pair (fuel : Nat) {name v : Bytes} (hk : IsKey name) (hv : 34 ∉ v)
    (t : Bytes) : tagAttributesUpTo (fuel + 1) (quotedPair name v ++ t) =
      (tagAttributesUpTo fuel t).map fun r => (tagAttribute name v :: r.1, r.2) := by
  have htext : quotedPair name v ++ t = name ++ 61 :: 34 :: (v ++ 34 :: t) := by simp [quotedPair]
  have hkey := takeKey_append hk (34 :: (v ++ 34 :: t))
  obtain ⟨b, rest, rfl, hs, hslash, hgt, hrest⟩ := hk
  have hgt' : (b == byte '>') = false := by simpa [byte] using hgt
  rw [htext, tagAttributesUpTo, List.cons_append, List.dropWhile_cons, hs]
  simp only [Bool.false_eq_true, if_false, hgt']
  rw [← List.cons_append, hkey]
  simp only [takeValue?_quoted hv]
  cases tagAttributesUpTo fuel t with
  | none => rfl
  | some r => rfl

lemma tagAttributesUpTo_end (fuel : Nat) :
    tagAttributesUpTo (fuel + 2) [32, 47, 62] = some ([], []) := by
  simp [tagAttributesUpTo, isTagSpace, byte, takeKey, endsKey, takeValue?, afterKey, List.dropWhile,
    List.takeWhile]

lemma tagAttributesUpTo_pairs {l : List (Bytes × Bytes)} (hk : ∀ p ∈ l, IsKey p.1)
    (hv : ∀ p ∈ l, 34 ∉ p.2) {fuel : Nat} (hf : l.length + 2 ≤ fuel) :
    tagAttributesUpTo fuel (l.flatMap (fun p => 32 :: quotedPair p.1 p.2) ++ [32, 47, 62]) =
      some (l.map fun p => tagAttribute p.1 p.2, []) := by
  induction l generalizing fuel with
  | nil =>
    obtain ⟨n, rfl⟩ : ∃ n, fuel = n + 2 := ⟨fuel - 2, by simp at hf; omega⟩
    exact tagAttributesUpTo_end n
  | cons p l ih =>
    obtain ⟨n, rfl⟩ : ∃ n, fuel = n + 1 := ⟨fuel - 1, by omega⟩
    have hi := @ih (fun q hq => hk q (List.mem_cons_of_mem _ hq))
      (fun q hq => hv q (List.mem_cons_of_mem _ hq)) n (by simp at hf ⊢; omega)
    rw [List.flatMap_cons, List.append_assoc, List.cons_append, tagAttributesUpTo_space,
      tagAttributesUpTo_pair n (hk p List.mem_cons_self) (hv p List.mem_cons_self), hi]
    rfl

/-! ### Every name that is read is a key -/

lemma isTagSpace_lowerByte (b : UInt8) : isTagSpace (Bytes.lowerByte b) = isTagSpace b := by
  have h := fun {c : UInt8} => @Bytes.lowerByte_beq b c
  rw [isTagSpace, isTagSpace, h rfl, h rfl, h rfl, h rfl, h rfl]

lemma endsKey_lowerByte (b : UInt8) : endsKey (Bytes.lowerByte b) = endsKey b := by
  have h := fun {c : UInt8} => @Bytes.lowerByte_beq b c
  rw [endsKey, endsKey, isTagSpace_lowerByte, h rfl, h rfl, h rfl]

lemma IsKey.lowerAscii {name : Bytes} (h : IsKey name) : IsKey (Bytes.lowerAscii name) := by
  obtain ⟨b, rest, rfl, hs, hslash, hgt, hrest⟩ := h
  refine ⟨Bytes.lowerByte b, Bytes.lowerAscii rest, rfl, (isTagSpace_lowerByte b).trans hs,
    (Bytes.lowerByte_eq_iff rfl).not.mpr hslash, (Bytes.lowerByte_eq_iff rfl).not.mpr hgt, ?_⟩
  intro c hc
  obtain ⟨d, hd, rfl⟩ := List.mem_map.mp hc
  exact (endsKey_lowerByte d).trans (hrest d hd)

lemma isKey_takeKey {b : UInt8} {rest : Bytes} (hs : isTagSpace b = false) (hgt : b ≠ 62)
    (hne : (takeKey (b :: rest)).1 ≠ []) : IsKey (takeKey (b :: rest)).1 := by
  have hrest : ∀ c ∈ rest.takeWhile (!endsKey ·), endsKey c = false := fun c hc => by
    simpa using List.mem_takeWhile_imp hc
  rw [takeKey] at hne ⊢
  split
  · rename_i hb
    obtain rfl : b = 61 := by simpa [byte] using hb
    exact ⟨61, _, rfl, hs, by decide, by decide, hrest⟩
  · rename_i hb
    rw [if_neg hb, List.takeWhile_cons] at hne
    cases hk : endsKey b with
    | true => simp [hk] at hne
    | false =>
      rw [List.takeWhile_cons, hk]
      refine ⟨b, _, rfl, hs, ?_, hgt, hrest⟩
      rintro rfl
      simp [endsKey, byte] at hk

lemma isKey_of_mem_tagAttributesUpTo {fuel : Nat} {s t : Bytes} {l : List (Bytes × Bytes)}
    (h : tagAttributesUpTo fuel s = some (l, t)) {p : Bytes × Bytes} (hp : p ∈ l) : IsKey p.1 := by
  induction fuel generalizing s t l with
  | zero => simp [tagAttributesUpTo] at h
  | succ fuel ih =>
    rw [tagAttributesUpTo] at h
    split at h
    · simp at h
    · rename_i b rest hdrop
      have hs : isTagSpace b = false := by
        have hh := List.head?_dropWhile_not isTagSpace s
        rw [hdrop] at hh
        simpa using hh
      split at h
      · obtain ⟨rfl, -⟩ : [] = l ∧ rest = t := by simpa using h
        simp at hp
      · rename_i hgt
        have hgt : b ≠ 62 := by simpa [byte] using hgt
        generalize hkey : takeKey (b :: rest) = key at h
        obtain ⟨key, after⟩ := key
        simp only at h
        split at h
        · simp at h
        · split at h
          · simp at h
          · rename_i attrs final hrest
            simp only [Option.some.injEq, Prod.mk.injEq] at h
            obtain ⟨rfl, rfl⟩ := h
            split at hp
            · exact ih hrest hp
            · rename_i hne
              rcases List.mem_cons.mp hp with rfl | hp
              · have hk := @isKey_takeKey b rest hs hgt
                rw [hkey] at hk
                exact (hk (by simpa using hne)).lowerAscii
              · exact ih hrest hp

end MarkdownTidy.Html
