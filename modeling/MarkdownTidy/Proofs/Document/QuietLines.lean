import MarkdownTidy.Proofs.Document.QuotedLines
import MarkdownTidy.Proofs.Writer.Fencing

/-! What is left of a line while the blocks that are open take their parts of it and others are opened. -/

namespace MarkdownTidy

def isLead (b : UInt8) : Bool := Writer.isIndent b || b == byte '>'

def Joint (y : Bytes) : Prop := ∀ b ∈ y.getLast?, isLead b = true

structure Quiet (x : Bytes) : Prop where
  newline : Bytes.newline ∉ x
  fronts : ∀ y z, x = y ++ z → Joint y → ∀ front ∈ ["<!", "<?", "[^"].map utf8, ¬ front <+: z

def EndsInMarker (x : Bytes) : Prop :=
  ∃ y z m, x = y ++ z ∧ Joint y ∧ ListMarker.read? (z ++ [Bytes.newline]) = some m ∧ m.isEmpty = true

def Solid (x : Bytes) : Prop := ∃ b ∈ x, isLead b = false ∧ Bytes.isSpace b = false

inductive Onward (x : Bytes) : Bytes → Prop
  | behind {y z : Bytes} (h : x = y ++ z) (hy : Joint y) : Onward x z
  | blank {z : Bytes} (hz : Bytes.isBlank z = true) (hn : Bytes.newline ∉ z) : Onward x z

section

variable {x y z : Bytes}

lemma joint_nil : Joint [] := by
  rintro b ⟨⟩

lemma joint_of_forall (h : ∀ b ∈ y, isLead b = true) : Joint y := fun b hb => h b (List.mem_of_getLast? hb)

lemma Joint.append (hx : Joint x) (hy : Joint y) : Joint (x ++ y) := by
  intro b hb
  cases y with
  | nil => exact hx b (by simpa using hb)
  | cons c y => exact hy b (by rwa [List.getLast?_append_of_ne_nil _ (List.cons_ne_nil c y)] at hb)

lemma isBlank_append : Bytes.isBlank (y ++ z) = true ↔ Bytes.isBlank y = true ∧ Bytes.isBlank z = true := by
  rw [Bytes.isBlank, List.all_append, Bool.and_eq_true]
  rfl

lemma isLead_of_isIndent {b : UInt8} (h : Writer.isIndent b = true) : isLead b = true := by
  rw [isLead, h, Bool.true_or]

lemma Solid.isBlank (h : Solid x) : Bytes.isBlank x = false := by
  obtain ⟨b, hb, -, hspace⟩ := h
  rw [Bytes.isBlank, List.all_eq_false]
  exact ⟨b, hb, by simp [hspace]⟩

lemma Solid.behind (h : Solid (y ++ z)) (hy : ∀ b ∈ y, isLead b = true) : Solid z := by
  obtain ⟨b, hb, hlead, hspace⟩ := h
  rcases List.mem_append.mp hb with hb | hb
  · rw [hy b hb] at hlead
    cases hlead
  · exact ⟨b, hb, hlead, hspace⟩

lemma Onward.refl : Onward x x := .behind (List.nil_append x).symm joint_nil

lemma Onward.trans (h : Onward x y) (h' : Onward y z) : Onward x z := by
  cases h' with
  | blank hz hn => exact .blank hz hn
  | @behind u _ hu hj =>
    subst hu
    cases h with
    | behind hx hjoint => exact .behind (by rw [hx, List.append_assoc]) (hjoint.append hj)
    | blank hz hn => exact .blank (isBlank_append.mp hz).2 fun h => hn (List.mem_append_right _ h)

lemma Quiet.onward (h : Quiet x) (hz : Onward x z) : Quiet z := by
  cases hz with
  | @behind y _ hx hy =>
    subst hx
    refine ⟨fun hn => h.newline (List.mem_append_right _ hn), fun u v hv hu => ?_⟩
    exact h.fronts (y ++ u) v (by rw [hv, List.append_assoc]) (hy.append hu)
  | blank hz hn =>
    refine ⟨hn, fun u v hv _ front hfront hfits => ?_⟩
    have hvisible : ∃ b ∈ front, Bytes.isSpace b = false := by
      simp only [List.map_cons, List.map_nil, List.mem_cons, List.not_mem_nil, or_false] at hfront
      rcases hfront with rfl | rfl | rfl
      · exact ⟨byte '<', by decide, rfl⟩
      · exact ⟨byte '<', by decide, rfl⟩
      · exact ⟨byte '[', by decide, rfl⟩
    obtain ⟨b, hb, hspace⟩ := hvisible
    have hmem : b ∈ z := by
      rw [hv]
      exact List.mem_append_right _ (hfits.subset hb)
    rw [List.all_eq_true.mp hz b hmem] at hspace
    cases hspace

end

lemma quiet_nil : Quiet [] := by
  refine ⟨List.not_mem_nil, fun y z h _ => ?_⟩
  obtain ⟨-, rfl⟩ := List.append_eq_nil_iff.mp h.symm
  decide

/-! ### The parts of a list marker -/

namespace ListMarker

variable {line : Bytes} {m : ListMarker}

lemma finish_eq_some {ordered : Bool} {indent width number : Nat} {mark : UInt8} {rest : Bytes}
    (h : finish ordered indent width number mark rest = some m) :
    m = ⟨ordered, indent, indent + width, number, mark, rest⟩ ∧
      ∀ b ∈ rest.head?, b = Bytes.newline ∨ b = byte ' ' ∨ b = byte '\t' := by
  cases rest with
  | nil => exact ⟨(Option.some.inj h).symm, by simp⟩
  | cons b rest =>
    simp only [finish, beq_iff_eq, Plain.measure_fst_eq_zero_iff] at h
    have hm : some ⟨ordered, indent, indent + width, number, mark, b :: rest⟩ = some m → m = _ :=
      fun h => (Option.some.inj h).symm
    split at h
    · exact ⟨hm h, by simpa using .inl ‹_›⟩
    · split at h
      · cases h
      · refine ⟨hm h, ?_⟩
        rintro _ ⟨⟩
        tauto

/-- Spaces, the marker itself, which begins with neither white space nor the marker of a quote, and what follows. -/
lemma exists_of_read? (h : read? line = some m) :
    ∃ b body, line = Bytes.spaces m.indent ++ (b :: body ++ m.rest) ∧ m.stop = m.indent + (body.length + 1) ∧
      m.indent ≤ 3 ∧ isLead b = false ∧ Bytes.isSpace b = false ∧
      ∀ c ∈ m.rest.head?, c = Bytes.newline ∨ c = byte ' ' ∨ c = byte '\t' := by
  have hspaces : line.takeWhile (· == byte ' ') = Bytes.spaces (line.takeWhile (· == byte ' ')).length :=
    List.eq_replicate_iff.mpr ⟨rfl, fun b hb => by simpa using List.mem_takeWhile_imp hb⟩
  have hline : line = Bytes.spaces (line.takeWhile (· == byte ' ')).length ++
      line.drop (line.takeWhile (· == byte ' ')).length := by
    rw [Bytes.drop_length_takeWhile, ← hspaces, List.takeWhile_append_dropWhile]
  simp only [read?] at h
  generalize (line.takeWhile (· == byte ' ')).length = indent at h hline
  split at h
  · cases h
  · rename_i hindent
    generalize line.drop indent = body at h hline
    subst hline
    cases body with
    | nil => cases h
    | cons b rest =>
      simp only at h
      split at h
      · rename_i hb
        obtain ⟨rfl, hrest⟩ := finish_eq_some h
        refine ⟨b, [], rfl, rfl, by simpa using hindent, ?_, ?_, hrest⟩
        all_goals
          simp only [isBullet, Bool.or_eq_true, beq_iff_eq] at hb
          rcases hb with (rfl | rfl) | rfl <;> rfl
      · split at h
        · cases h
        · rename_i hdigits
          simp only [Bool.or_eq_true, not_or, List.isEmpty_iff] at hdigits
          have hb : Bytes.isDigit b = true := by
            by_contra hb
            exact hdigits.1 (List.takeWhile_cons_of_neg hb)
          have hbody : b :: rest = (b :: rest).takeWhile Bytes.isDigit ++ (b :: rest).dropWhile Bytes.isDigit :=
            List.takeWhile_append_dropWhile.symm
          rw [Bytes.drop_length_takeWhile] at h
          generalize hds : (b :: rest).takeWhile Bytes.isDigit = digits at h hbody
          rw [List.takeWhile_cons_of_pos hb] at hds
          subst hds
          split at h
          · rename_i d rest' hrest'
            rw [hrest'] at hbody
            split at h
            · obtain ⟨rfl, hrest⟩ := finish_eq_some h
              refine ⟨b, rest.takeWhile Bytes.isDigit ++ [d], ?_, by simp, by simpa using hindent, ?_, ?_, hrest⟩
              · rw [hbody]
                simp
              · cases hlead : isLead b
                · rfl
                · simp only [isLead, Writer.isIndent, Bool.or_eq_true, beq_iff_eq] at hlead
                  rcases hlead with (rfl | rfl) | rfl <;> cases hb
              · cases hspace : Bytes.isSpace b
                · rfl
                · rw [(Plain.not_isDigit_of_isSpace hspace).1] at hb
                  cases hb
            · cases h
          · cases h

lemma isBlank_of_read? {x : Bytes} (h : read? (x ++ [Bytes.newline]) = some m) : Bytes.isBlank x = false := by
  obtain ⟨b, body, hline, -, -, -, hspace, -⟩ := exists_of_read? h
  have hmem : b ∈ x := by
    have hb : b ∈ x ++ [Bytes.newline] := by
      rw [hline]
      simp
    rcases List.mem_append.mp hb with hb | hb
    · exact hb
    · obtain rfl := List.mem_singleton.mp hb
      cases hspace
  rw [Bytes.isBlank, List.all_eq_false]
  exact ⟨b, hmem, by simp [hspace]⟩

end ListMarker

lemma EndsInMarker.isBlank {x : Bytes} (h : EndsInMarker x) : Bytes.isBlank x = false := by
  obtain ⟨y, z, m, rfl, -, hread, -⟩ := h
  have hz := ListMarker.isBlank_of_read? hread
  cases hx : Bytes.isBlank (y ++ z) with
  | false => rfl
  | true => rwa [(isBlank_append.mp hx).2] at hz

lemma EndsInMarker.onward {x z : Bytes} (h : EndsInMarker z) (hz : Onward x z) : EndsInMarker x := by
  obtain ⟨u, v, m, rfl, hu, hread, hempty⟩ := h
  cases hz with
  | behind hx hy => exact ⟨_, v, m, by rw [hx, List.append_assoc], hy.append hu, hread, hempty⟩
  | blank hz hn =>
    have hblank := ListMarker.isBlank_of_read? hread
    rw [(isBlank_append.mp hz).2] at hblank
    cases hblank

/-! ### Deciding what a line is -/

section

variable {x : Bytes}

lemma forall_cut_iff {P : Bytes → Bytes → Prop} :
    (∀ y z, x = y ++ z → P y z) ↔ ∀ i ∈ List.range (x.length + 1), P (x.take i) (x.drop i) := by
  refine ⟨fun h i _ => h _ _ (List.take_append_drop i x).symm, ?_⟩
  rintro h y z rfl
  have hcut := h y.length (List.mem_range.mpr (by rw [List.length_append]; omega))
  rwa [List.take_left, List.drop_left] at hcut

instance (y : Bytes) : Decidable (Joint y) := inferInstanceAs (Decidable (∀ b ∈ y.getLast?, isLead b = true))

instance (x : Bytes) : Decidable (Solid x) :=
  inferInstanceAs (Decidable (∃ b ∈ x, isLead b = false ∧ Bytes.isSpace b = false))

instance (x : Bytes) : Decidable (Quiet x) :=
  decidable_of_iff (Bytes.newline ∉ x ∧ ∀ i ∈ List.range (x.length + 1), Joint (x.take i) →
      ∀ front ∈ ["<!", "<?", "[^"].map utf8, ¬ front <+: x.drop i)
    ⟨fun h => ⟨h.1, forall_cut_iff.mpr h.2⟩, fun h => ⟨h.newline, forall_cut_iff.mp h.fronts⟩⟩

lemma endsInMarker_iff : EndsInMarker x ↔ ∃ i ∈ List.range (x.length + 1), Joint (x.take i) ∧
    (ListMarker.read? (x.drop i ++ [Bytes.newline])).any (·.isEmpty) = true := by
  simp only [Option.any_eq_true]
  constructor
  · rintro ⟨y, z, m, rfl, hy, hread, hempty⟩
    refine ⟨y.length, List.mem_range.mpr (by rw [List.length_append]; omega), ?_⟩
    rw [List.take_left, List.drop_left]
    exact ⟨hy, m, hread, hempty⟩
  · rintro ⟨i, -, hy, m, hread, hempty⟩
    exact ⟨x.take i, x.drop i, m, (List.take_append_drop i x).symm, hy, hread, hempty⟩

instance (x : Bytes) : Decidable (EndsInMarker x) := decidable_of_iff _ endsInMarker_iff.symm

end

end MarkdownTidy
