import MarkdownTidy.Proofs.Shortcode.WrittenNames

/-! How much of an attribute list is read. The list is put into a tag, and where the tag ends depends on
the place the grammar has come to at each byte. A list that ends inside of the tag, and not behind an
equals sign, is read as a whole and alone: its bytes are those of names, values and the marks between
them. A greater-than sign outside of quotes ends the tag early, and behind an equals sign the slash that
closes the tag is read as a value. -/

namespace MarkdownTidy.Shortcode

open Html

/-- Where the grammar of a tag stands in an attribute list. -/
inductive Place where
  /-- Between attributes, where an equals sign belongs to a name. -/
  | between
  /-- In a name or behind it, where an equals sign announces a value. -/
  | name
  | equals
  | bare
  | quoted (quote : UInt8)
  deriving DecidableEq, Repr

def Place.step? : Place → UInt8 → Option Place
  | .between, b =>
    if b == byte '>' then none else some (if isTagSpace b then .between else .name)
  | .name, b =>
    if b == byte '>' then none else some (if b == byte '=' then .equals else .name)
  | .equals, b =>
    if b == byte '>' then none
    else if isTagSpace b then some .equals
    else some (if b == byte '"' || b == byte '\'' then .quoted b else .bare)
  | .bare, b =>
    if b == byte '>' then none else some (if isTagSpace b then .between else .bare)
  | .quoted q, b => some (if b == q then .between else .quoted q)

/-- How an attribute list ends. -/
inductive Ending where
  | complete
  /-- Behind an equals sign, where a value is due. -/
  | dangling
  /-- Inside of quotes. -/
  | unclosed
  /-- At a greater-than sign, with the rest of the list outside of the tag. -/
  | early (rest : Bytes)
  deriving DecidableEq, Repr

def Place.ending (p : Place) : Bytes → Ending
  | [] =>
    match p with
    | .equals => .dangling
    | .quoted _ => .unclosed
    | _ => .complete
  | b :: s =>
    match p.step? b with
    | none => .early s
    | some q => q.ending s

def ending (raw : Bytes) : Ending := Place.between.ending raw

def isMark (b : UInt8) : Bool :=
  isTagSpace b || b == byte '/' || b == byte '=' || b == byte '"' || b == byte '\''

/-- The list consists of the names and values, in their order, with nothing but marks around them, and
an equals sign in front of every value. -/
inductive MadeOf : Bytes → List (Bytes × Bytes) → Prop
  | nil {gap : Bytes} (hgap : ∀ b ∈ gap, isMark b = true) : MadeOf gap []
  | cons (key : Bytes) {gap mid value rest : Bytes} {pieces : List (Bytes × Bytes)}
      (hgap : ∀ b ∈ gap, isMark b = true) (hmid : ∀ b ∈ mid, isMark b = true)
      (hvalue : value ≠ [] → byte '=' ∈ mid) (hrest : MadeOf rest pieces) :
      MadeOf (gap ++ key ++ mid ++ value ++ rest) ((key, value) :: pieces)

def named (pieces : List (Bytes × Bytes)) : List (Bytes × Bytes) :=
  (pieces.filter fun p => !p.1.isEmpty).map fun p => tagAttribute p.1 p.2

def Outcome (s : Bytes) (read : Option (List (Bytes × Bytes) × Bytes)) : Ending → Prop
  | .complete => ∃ pieces, MadeOf s pieces ∧ read = some (named pieces, [])
  | .dangling => ∃ pieces key, MadeOf s (pieces ++ [(key, [])]) ∧
      read = some (named (pieces ++ [(key, utf8 "/")]), [])
  | .unclosed => read = none
  | .early rest => ∃ front pieces, s = front ++ byte '>' :: rest ∧ MadeOf front pieces ∧
      read = some (named pieces, rest ++ utf8 " />")

/-! ### Places -/

section

variable {p : Place} {c : UInt8 → Bool} {b : UInt8} {s : Bytes}

lemma ending_cons {q : Place} (h : p.step? b = some q) (s : Bytes) :
    p.ending (b :: s) = q.ending s := by
  simp only [Place.ending, h]

lemma ending_dropWhile (h : ∀ b, c b = true → p.step? b = some p) (s : Bytes) :
    p.ending (s.dropWhile c) = p.ending s := by
  induction s with
  | nil => rfl
  | cons b s ih =>
    by_cases hb : c b = true
    · rw [List.dropWhile_cons, if_pos hb, ih, ending_cons (h b hb)]
    · rw [List.dropWhile_cons, if_neg hb]

lemma ne_greater_of_isTagSpace (h : isTagSpace b = true) : (b == byte '>') = false := by
  simp only [isTagSpace, Bool.or_eq_true, beq_iff_eq] at h
  rcases h with (((rfl | rfl) | rfl) | rfl) | rfl <;> decide

lemma ne_equals_of_isTagSpace (h : isTagSpace b = true) : (b == byte '=') = false := by
  simp only [isTagSpace, Bool.or_eq_true, beq_iff_eq] at h
  rcases h with (((rfl | rfl) | rfl) | rfl) | rfl <;> decide

lemma ending_between_space (s : Bytes) :
    Place.between.ending (s.dropWhile isTagSpace) = Place.between.ending s :=
  ending_dropWhile (fun b hb => by simp [Place.step?, hb, ne_greater_of_isTagSpace hb]) s

lemma ending_name_space (s : Bytes) :
    Place.name.ending (s.dropWhile isTagSpace) = Place.name.ending s :=
  ending_dropWhile (fun b hb => by
    simp [Place.step?, ne_greater_of_isTagSpace hb, ne_equals_of_isTagSpace hb]) s

lemma ending_name_key (s : Bytes) :
    Place.name.ending (s.dropWhile (!endsKey ·)) = Place.name.ending s :=
  ending_dropWhile (fun b hb => by simp_all [Place.step?, endsKey]) s

lemma ending_equals_space (s : Bytes) :
    Place.equals.ending (s.dropWhile isTagSpace) = Place.equals.ending s :=
  ending_dropWhile (fun b hb => by simp [Place.step?, hb, ne_greater_of_isTagSpace hb]) s

lemma ending_bare_value (s : Bytes) :
    Place.bare.ending (s.dropWhile (!endsBareValue ·)) = Place.bare.ending s :=
  ending_dropWhile (fun b hb => by simp_all [Place.step?, endsBareValue]) s

lemma ending_quoted_value (q : UInt8) (s : Bytes) :
    (Place.quoted q).ending (s.dropWhile (· != q)) = (Place.quoted q).ending s :=
  ending_dropWhile (fun b hb => by simp_all [Place.step?]) s

lemma ending_afterKey (s : Bytes) : Place.name.ending (afterKey s) = Place.name.ending s := by
  cases s with
  | nil => rfl
  | cons b s =>
    rw [afterKey]
    split
    · rename_i hb
      have hstep : Place.name.step? b = some .name := by
        rcases Bool.or_eq_true_iff.mp hb with hb | hb
        · simp [Place.step?, ne_greater_of_isTagSpace hb, ne_equals_of_isTagSpace hb]
        · rw [beq_iff_eq] at hb
          subst hb
          rfl
      rw [ending_cons hstep]
    · rfl

lemma ending_name_cons (hspace : isTagSpace b = false) (hequals : (b == byte '=') = false) (s : Bytes) :
    Place.name.ending (b :: s) = Place.between.ending (b :: s) := by
  simp [Place.ending, Place.step?, hspace, hequals]

lemma ending_bare_stop (h : ∀ b ∈ s.head?, endsBareValue b = true) :
    Place.bare.ending s = Place.between.ending s := by
  cases s with
  | nil => rfl
  | cons b s =>
    have hb : isTagSpace b = true ∨ b = byte '>' := by simpa [endsBareValue] using h b rfl
    rcases hb with hb | rfl
    · simp [Place.ending, Place.step?, hb, ne_greater_of_isTagSpace hb]
    · rfl

end

/-! ### Pieces -/

section

variable {s gap mid value : Bytes} {pieces : List (Bytes × Bytes)}

lemma MadeOf.append (hgap : ∀ b ∈ gap, isMark b = true) (h : MadeOf s pieces) :
    MadeOf (gap ++ s) pieces := by
  cases h with
  | nil h => exact .nil (by simpa [or_imp, forall_and] using ⟨hgap, h⟩)
  | @cons key gap' _ _ _ _ hgap' hmid hvalue hrest =>
    have hgaps : ∀ b ∈ gap ++ gap', isMark b = true := by
      simpa [or_imp, forall_and] using ⟨hgap, hgap'⟩
    simpa only [List.append_assoc] using MadeOf.cons key hgaps hmid hvalue hrest

lemma named_cons (key value : Bytes) (pieces : List (Bytes × Bytes)) :
    named ((key, value) :: pieces) = named [(key, value)] ++ named pieces := by
  cases key <;> rfl

lemma Outcome.cons (key : Bytes) {read : Option (List (Bytes × Bytes) × Bytes)} {e : Ending}
    (hgap : ∀ b ∈ gap, isMark b = true) (hmid : ∀ b ∈ mid, isMark b = true)
    (hvalue : value ≠ [] → byte '=' ∈ mid) (h : Outcome s read e) :
    Outcome (gap ++ key ++ mid ++ value ++ s)
      (read.map fun x => (named [(key, value)] ++ x.1, x.2)) e := by
  cases e with
  | complete =>
    obtain ⟨pieces, hs, rfl⟩ := h
    exact ⟨(key, value) :: pieces, .cons key hgap hmid hvalue hs, by
      rw [named_cons key value pieces]; rfl⟩
  | dangling =>
    obtain ⟨pieces, last, hs, rfl⟩ := h
    exact ⟨(key, value) :: pieces, last, .cons key hgap hmid hvalue hs, by
      rw [List.cons_append, named_cons key value (pieces ++ _)]; rfl⟩
  | unclosed =>
    obtain rfl := h
    rfl
  | early rest =>
    obtain ⟨front, pieces, rfl, hs, rfl⟩ := h
    exact ⟨gap ++ key ++ mid ++ value ++ front, (key, value) :: pieces, by simp,
      .cons key hgap hmid hvalue hs, by
      rw [named_cons key value pieces]; rfl⟩

end

/-! ### Values -/

lemma isMark_of_isTagSpace {b : UInt8} (h : isTagSpace b = true) : isMark b = true := by
  simp [isMark, h]

lemma isMark_of_mem_takeWhile {s : Bytes} : ∀ b ∈ s.takeWhile isTagSpace, isMark b = true :=
  fun _ hb => isMark_of_isTagSpace (List.mem_takeWhile_imp hb)

lemma exists_marks_afterKey (after : Bytes) :
    ∃ mid, after = mid ++ (afterKey after).dropWhile isTagSpace ∧ ∀ b ∈ mid, isMark b = true := by
  have hspaces : ∀ s : Bytes, s = s.takeWhile isTagSpace ++ s.dropWhile isTagSpace := fun s =>
    List.takeWhile_append_dropWhile.symm
  cases after with
  | nil => exact ⟨[], rfl, by simp⟩
  | cons b after =>
    rw [afterKey]
    split
    · rename_i hb
      refine ⟨b :: after.takeWhile isTagSpace, by rw [List.cons_append, ← hspaces], ?_⟩
      rw [List.forall_mem_cons]
      exact ⟨by simp [isMark, hb], isMark_of_mem_takeWhile⟩
    · exact ⟨_, hspaces _, isMark_of_mem_takeWhile⟩

lemma dropWhile_afterKey_tagEnd (after : Bytes) :
    (afterKey (after ++ tagEnd)).dropWhile isTagSpace =
      match (afterKey after).dropWhile isTagSpace with
      | [] => [47, 62]
      | b :: rest => b :: (rest ++ tagEnd) := by
  cases after with
  | nil => rfl
  | cons b after =>
    have hkey : afterKey (b :: after ++ tagEnd) = afterKey (b :: after) ++ tagEnd := by
      rw [List.cons_append, afterKey, afterKey]
      split <;> rfl
    rw [hkey]
    cases hd : (afterKey (b :: after)).dropWhile isTagSpace with
    | nil => exact dropWhile_space_nil hd
    | cons c rest => exact dropWhile_space_cons hd

/-- What is read behind a name that is followed by the given text and the end of the tag: nothing, for
want of a closing quote; the slash that closes the tag; or a value of the list, and what is left. -/
inductive ValueRead (after : Bytes) : Option (Bytes × Bytes) → Prop
  | unclosed (ends : Place.name.ending after = .unclosed) : ValueRead after none
  | slash (ends : Place.name.ending after = .dangling) (marks : ∀ b ∈ after, isMark b = true) :
      ValueRead after (some ([47], [62]))
  | value (mid value stop s : Bytes) {t : Bytes} (split : after = mid ++ value ++ stop ++ s)
      (hmid : ∀ b ∈ mid, isMark b = true) (hvalue : value ≠ [] → byte '=' ∈ mid)
      (hstop : ∀ b ∈ stop, isMark b = true) (shorter : s.length ≤ (afterKey after).length)
      (ends : Place.name.ending after = Place.between.ending s)
      (left : ∀ n, tagAttributesUpTo n t = tagAttributesUpTo n (s ++ tagEnd)) :
      ValueRead after (some (value, t))

lemma valueRead_empty {after mid s t : Bytes} (split : after = mid ++ s)
    (hmid : ∀ b ∈ mid, isMark b = true) (shorter : s.length ≤ (afterKey after).length)
    (ends : Place.name.ending after = Place.between.ending s)
    (left : ∀ n, tagAttributesUpTo n t = tagAttributesUpTo n (s ++ tagEnd)) :
    ValueRead after (some ([], t)) :=
  .value mid [] [] s (by simpa using split) hmid (by simp) (by simp) shorter ends left

def announcedValue? (s : Bytes) : Option (Bytes × Bytes) :=
  match s.dropWhile isTagSpace with
  | [] => none
  | q :: rest =>
    if q == byte '>' then some ([], q :: rest)
    else if q == byte '"' || q == byte '\'' then
      match rest.dropWhile (· != q) with
      | [] => none
      | _ :: after => some (rest.takeWhile (· != q), after)
    else
      match (q :: rest).dropWhile (!endsBareValue ·) with
      | [] => none
      | after => some ((q :: rest).takeWhile (!endsBareValue ·), after)

lemma takeValue?_eq (s : Bytes) :
    takeValue? s =
      match (afterKey s).dropWhile isTagSpace with
      | [] => none
      | b :: rest => if b != byte '=' then some ([], b :: rest) else announcedValue? rest := rfl

lemma valueRead_quoted {after mid rest : Bytes} {q : UInt8} (split : after = mid ++ q :: rest)
    (hmid : ∀ b ∈ mid, isMark b = true) (hequals : byte '=' ∈ mid)
    (hquote : (q == byte '"' || q == byte '\'') = true) (shorter : rest.length ≤ (afterKey after).length)
    (ends : Place.name.ending after = (Place.quoted q).ending rest) :
    ValueRead after
      (match (rest ++ tagEnd).dropWhile (· != q) with
      | [] => none
      | _ :: s => some ((rest ++ tagEnd).takeWhile (· != q), s)) := by
  have hmark : isMark q = true := by
    rw [isMark, Bool.or_assoc, hquote, Bool.or_true]
  rw [← ending_quoted_value] at ends
  cases hc : rest.dropWhile (· != q) with
  | nil =>
    -- No quote closes the value, and the end of the tag has none either.
    have hend : tagEnd.dropWhile (· != q) = [] := by
      simp only [Bool.or_eq_true, beq_iff_eq] at hquote
      rcases hquote with rfl | rfl <;> decide
    rw [List.dropWhile_append, hc, List.isEmpty_nil, if_pos rfl, hend]
    rw [hc] at ends
    exact .unclosed ends
  | cons c s =>
    have hstop : (c != q) = false := by
      simpa [hc] using List.head?_dropWhile_not (· != q) rest
    obtain rfl : c = q := by simpa using hstop
    have hvalue : ∀ b ∈ rest.takeWhile (· != c), (b != c) = true := fun b hb =>
      List.mem_takeWhile_imp (p := (· != c)) hb
    have hrest : rest = rest.takeWhile (· != c) ++ c :: s := by
      rw [← hc, List.takeWhile_append_dropWhile]
    have hlen : s.length ≤ rest.length := by
      have := congrArg List.length hrest
      simp only [List.length_append, List.length_cons] at this
      omega
    rw [hc, ending_cons (q := .between) (by simp [Place.step?])] at ends
    generalize rest.takeWhile (· != c) = value at hrest hvalue
    subst hrest
    rw [List.append_assoc, List.cons_append, takeWhile_append_stop hvalue hstop,
      dropWhile_append_stop hvalue hstop]
    refine .value (mid ++ [c]) value [c] s (by simp [split]) ?_ (fun _ => by simp [hequals])
      (by simpa using hmark) (hlen.trans shorter) ends fun n => rfl
    simp only [List.mem_append, or_imp, forall_and, List.mem_singleton, forall_eq]
    exact ⟨hmid, hmark⟩

lemma valueRead_bare {after mid rest : Bytes} {q : UInt8} (split : after = mid ++ q :: rest)
    (hmid : ∀ b ∈ mid, isMark b = true) (hequals : byte '=' ∈ mid) (hbare : (!endsBareValue q) = true)
    (shorter : (q :: rest).length ≤ (afterKey after).length)
    (ends : Place.name.ending after = Place.bare.ending rest) :
    ValueRead after
      (match (q :: (rest ++ tagEnd)).dropWhile (!endsBareValue ·) with
      | [] => none
      | s => some ((q :: (rest ++ tagEnd)).takeWhile (!endsBareValue ·), s)) := by
  have hp : (!endsBareValue 32) = false := by decide
  have hdrop : (q :: rest).dropWhile (!endsBareValue ·) = rest.dropWhile (!endsBareValue ·) := by
    rw [List.dropWhile_cons, if_pos hbare]
  have hlen : ((q :: rest).dropWhile (!endsBareValue ·)).length ≤ (q :: rest).length :=
    (List.dropWhile_suffix _).length_le
  have hstop : ∀ b ∈ (rest.dropWhile (!endsBareValue ·)).head?, endsBareValue b = true := by
    intro b hb
    have h := List.head?_dropWhile_not (!endsBareValue ·) rest
    rw [Option.mem_def.mp hb] at h
    simpa using h
  rw [← ending_bare_value, ending_bare_stop hstop, ← hdrop] at ends
  rw [← List.cons_append, takeWhile_append_tagEnd hp, dropWhile_append_tagEnd hp]
  have hwhole : after = mid ++ (q :: rest).takeWhile (!endsBareValue ·) ++ [] ++
      (q :: rest).dropWhile (!endsBareValue ·) := by
    rw [List.append_nil, List.append_assoc, List.takeWhile_append_dropWhile, split]
  generalize (q :: rest).dropWhile (!endsBareValue ·) = s at *
  split
  · rename_i hnil
    simp [tagEnd] at hnil
  · exact .value _ _ _ _ hwhole hmid (fun _ => hequals) (by simp) (hlen.trans shorter) ends fun n => rfl

lemma valueRead_announced {after mid rest : Bytes} (split : after = mid ++ byte '=' :: rest)
    (hmid : ∀ b ∈ mid, isMark b = true) (shorter : rest.length ≤ (afterKey after).length)
    (ends : Place.name.ending after = Place.equals.ending rest) :
    ValueRead after (announcedValue? (rest ++ tagEnd)) := by
  rw [announcedValue?]
  rw [← ending_equals_space] at ends
  have hspaces : rest = rest.takeWhile isTagSpace ++ rest.dropWhile isTagSpace :=
    List.takeWhile_append_dropWhile.symm
  have hmid' : ∀ b ∈ mid ++ byte '=' :: rest.takeWhile isTagSpace, isMark b = true := by
    simp only [List.mem_append, List.mem_cons, or_imp, forall_and, forall_eq]
    exact ⟨hmid, rfl, isMark_of_mem_takeWhile⟩
  cases hq : rest.dropWhile isTagSpace with
  | nil =>
    rw [hq] at ends
    rw [hq, List.append_nil] at hspaces
    rw [← hspaces] at hmid'
    -- Only spaces are left of the list, so the value begins with the end of the tag.
    rw [dropWhile_space_nil hq]
    exact .slash ends (split ▸ hmid')
  | cons q rest' =>
    have hspace : isTagSpace q = false := by
      simpa [hq] using List.head?_dropWhile_not isTagSpace rest
    have hequals : byte '=' ∈ mid ++ byte '=' :: rest.takeWhile isTagSpace := by simp
    have split' : after = mid ++ byte '=' :: rest.takeWhile isTagSpace ++ q :: rest' := by
      rw [split, List.append_assoc, List.cons_append, ← hq, ← hspaces]
    have shorter' : (q :: rest').length ≤ (afterKey after).length := by
      rw [← hq]
      exact (List.dropWhile_suffix _).length_le.trans shorter
    rw [dropWhile_space_cons hq]
    rw [hq] at ends
    generalize mid ++ byte '=' :: rest.takeWhile isTagSpace = mid at hmid' hequals split'
    simp only
    by_cases hgt : (q == byte '>') = true
    · rw [if_pos hgt]
      obtain rfl := beq_iff_eq.mp hgt
      exact valueRead_empty split' hmid' shorter' ends fun n => rfl
    · rw [if_neg hgt]
      by_cases hquote : (q == byte '"' || q == byte '\'') = true
      · rw [if_pos hquote]
        rw [ending_cons (q := .quoted q) (by simp [Place.step?, hgt, hspace, hquote])] at ends
        exact valueRead_quoted split' hmid' hequals hquote (by simp at shorter'; omega) ends
      · rw [if_neg hquote]
        rw [ending_cons (q := .bare) (by simp [Place.step?, hgt, hspace, hquote])] at ends
        exact valueRead_bare split' hmid' hequals (by simp [endsBareValue, hspace, hgt]) shorter' ends

lemma valueRead_takeValue? (after : Bytes) : ValueRead after (takeValue? (after ++ tagEnd)) := by
  obtain ⟨mid, split, hmid⟩ := exists_marks_afterKey after
  have shorter : ((afterKey after).dropWhile isTagSpace).length ≤ (afterKey after).length :=
    (List.dropWhile_suffix _).length_le
  have ends : Place.name.ending after =
      Place.name.ending ((afterKey after).dropWhile isTagSpace) := by
    rw [ending_name_space, ending_afterKey]
  rw [takeValue?_eq, dropWhile_afterKey_tagEnd]
  have hhead := List.head?_dropWhile_not isTagSpace (afterKey after)
  generalize (afterKey after).dropWhile isTagSpace = u at split shorter ends hhead
  cases u with
  | nil =>
    exact valueRead_empty split hmid shorter ends fun n => (tagAttributesUpTo_space n [47, 62]).symm
  | cons b rest =>
    have hspace : isTagSpace b = false := by simpa using hhead
    simp only
    by_cases hb : (b == byte '=') = true
    · obtain rfl := beq_iff_eq.mp hb
      rw [ending_cons (q := .equals) rfl] at ends
      simp only [bne_self_eq_false, Bool.false_eq_true, if_false]
      exact valueRead_announced split hmid (by simp at shorter; omega) ends
    · rw [if_pos (by simpa using hb)]
      rw [ending_name_cons hspace (by simpa using hb)] at ends
      exact valueRead_empty split hmid shorter ends fun n => rfl

/-! ### Lists -/

lemma length_afterKey_le (s : Bytes) : (afterKey s).length ≤ s.length := by
  cases s with
  | nil => rfl
  | cons b s =>
    rw [afterKey]
    split <;> simp

lemma exists_takeKey_tagEnd {b : UInt8} (hspace : isTagSpace b = false) (hgt : ¬ (b == byte '>') = true)
    (rest : Bytes) :
    ∃ key after, takeKey (b :: (rest ++ tagEnd)) = (key, after ++ tagEnd) ∧ b :: rest = key ++ after ∧
      Place.name.ending after = Place.name.ending rest ∧ (afterKey after).length ≤ rest.length := by
  by_cases hslash : b = byte '/'
  · subst hslash
    exact ⟨[], byte '/' :: rest, rfl, rfl, ending_cons rfl rest, le_rfl⟩
  · have hlen : (rest.dropWhile (!endsKey ·)).length ≤ rest.length :=
      (List.dropWhile_suffix _).length_le
    refine ⟨_, _, takeKey_append_tagEnd hspace (by simpa using hgt) hslash rest, ?_, ending_name_key rest,
      (length_afterKey_le _).trans hlen⟩
    rw [List.cons_append, List.takeWhile_append_dropWhile]

lemma tagAttributesUpTo_cons {n : Nat} {s rest : Bytes} {b : UInt8}
    (hd : s.dropWhile isTagSpace = b :: rest) (hgt : ¬ (b == byte '>') = true) :
    tagAttributesUpTo (n + 1) s =
      (takeValue? (takeKey (b :: rest)).2).bind fun x => (tagAttributesUpTo n x.2).map fun y =>
        (named [((takeKey (b :: rest)).1, x.1)] ++ y.1, y.2) := by
  rw [tagAttributesUpTo, hd]
  simp only [hgt, Bool.false_eq_true, if_false]
  rcases takeKey (b :: rest) with ⟨key, after⟩
  simp only
  rcases takeValue? after with _ | ⟨value, t⟩
  · rfl
  · simp only [Option.bind_some]
    rcases tagAttributesUpTo n t with _ | ⟨attrs, final⟩
    · rfl
    · cases key <;> rfl

lemma Outcome.append {s gap : Bytes} {read : Option (List (Bytes × Bytes) × Bytes)} {e : Ending}
    (hgap : ∀ b ∈ gap, isMark b = true) (h : Outcome s read e) : Outcome (gap ++ s) read e := by
  cases e with
  | complete =>
    obtain ⟨pieces, hs, hr⟩ := h
    exact ⟨pieces, hs.append hgap, hr⟩
  | dangling =>
    obtain ⟨pieces, key, hs, hr⟩ := h
    exact ⟨pieces, key, hs.append hgap, hr⟩
  | unclosed => exact h
  | early rest =>
    obtain ⟨front, pieces, rfl, hs, hr⟩ := h
    exact ⟨gap ++ front, pieces, by simp, hs.append hgap, hr⟩

lemma outcome_tagAttributesUpTo {n : Nat} {s : Bytes} (hn : s.length + 2 ≤ n) :
    Outcome s (tagAttributesUpTo n (s ++ tagEnd)) (ending s) := by
  -- One attribute is read at a time, and what is left behind its value is a shorter list.
  induction n generalizing s with
  | zero => omega
  | succ n ih =>
    have hgap : ∀ b ∈ s.takeWhile isTagSpace, isMark b = true := isMark_of_mem_takeWhile
    have hsplit : s = s.takeWhile isTagSpace ++ s.dropWhile isTagSpace :=
      List.takeWhile_append_dropWhile.symm
    rw [ending, ← ending_between_space]
    cases hd : s.dropWhile isTagSpace with
    | nil =>
      obtain ⟨k, rfl⟩ : ∃ k, n = k + 1 := ⟨n - 1, by omega⟩
      rw [hd, List.append_nil] at hsplit
      rw [← hsplit] at hgap
      refine ⟨[], .nil hgap, ?_⟩
      rw [← tagAttributesUpTo_dropWhile, dropWhile_space_nil hd]
      exact tagAttributesUpTo_end k
    | cons b rest =>
      have hspace : isTagSpace b = false := by
        simpa [hd] using List.head?_dropWhile_not isTagSpace s
      have hlen : rest.length + 1 ≤ s.length := by
        simpa [hd] using (List.dropWhile_suffix isTagSpace (l := s)).length_le
      rw [hd] at hsplit
      generalize s.takeWhile isTagSpace = gap at hgap hsplit
      by_cases hgt : (b == byte '>') = true
      · have hclosed : tagAttributesUpTo (n + 1) (s ++ tagEnd) = some ([], rest ++ tagEnd) := by
          rw [tagAttributesUpTo, dropWhile_space_cons hd]
          simp only [hgt, if_true]
        obtain rfl := beq_iff_eq.mp hgt
        exact ⟨gap, [], hsplit, .nil hgap, hclosed⟩
      · obtain ⟨key, after, hkey, hsplit', hending, hshort⟩ :=
          exists_takeKey_tagEnd hspace hgt rest
        have hend : Place.between.ending (b :: rest) = Place.name.ending after := by
          rw [hending, ending_cons]
          simp [Place.step?, hgt, hspace]
        rw [hend, tagAttributesUpTo_cons (dropWhile_space_cons hd) hgt, hkey]
        rw [hsplit', ← List.append_assoc] at hsplit
        simp only
        have hread := valueRead_takeValue? after
        generalize takeValue? (after ++ tagEnd) = read at hread ⊢
        cases hread with
        | unclosed ends =>
          rw [ends]
          rfl
        | slash ends marks =>
          -- The slash is gone, and the greater-than sign closes the tag.
          obtain ⟨k, rfl⟩ : ∃ k, n = k + 1 := ⟨n - 1, by omega⟩
          have hlast : tagAttributesUpTo (k + 1) [62] = some ([], []) := rfl
          have hmade : MadeOf (gap ++ key ++ after ++ [] ++ []) [(key, [])] :=
            .cons key hgap marks (by simp) (.nil (by simp))
          rw [ends]
          refine ⟨[], key, by simpa [hsplit] using hmade, ?_⟩
          rw [Option.bind_some, hlast, Option.map_some, List.append_nil]
          rfl
        | @value mid value stop rest' t split hmid hvalue hstop shorter ends left =>
          have hrest := (ih (s := rest') (by omega)).append hstop
          rw [ending] at hrest
          rw [ends, Option.bind_some, left, hsplit, split]
          simpa only [List.append_assoc] using hrest.cons key hgap hmid hvalue

/-! ### Attributes -/

lemma MadeOf.value_isInfix {s : Bytes} {pieces : List (Bytes × Bytes)} (h : MadeOf s pieces)
    {p : Bytes × Bytes} (hp : p ∈ pieces) : p.2 <:+: s := by
  induction h with
  | nil => simp at hp
  | @cons key gap mid value rest pieces _ _ _ _ ih =>
    rcases List.mem_cons.mp hp with rfl | hp
    · exact ⟨gap ++ key ++ mid, rest, rfl⟩
    · exact (ih hp).trans (List.suffix_append _ rest).isInfix

lemma mem_named {pieces : List (Bytes × Bytes)} {p : Bytes × Bytes} (h : p ∈ named pieces) :
    ∃ q ∈ pieces, p = tagAttribute q.1 q.2 := by
  obtain ⟨q, hq, rfl⟩ := List.mem_map.mp h
  exact ⟨q, List.mem_of_mem_filter hq, rfl⟩

lemma mem_respell {parsed : List (Bytes × Bytes)} {written : List Bytes} {p : Bytes × Bytes}
    (h : p ∈ respell parsed written) : ∃ q ∈ parsed, q.2 = p.2 := by
  rw [respell] at h
  split at h
  · obtain ⟨⟨a, w⟩, haw, rfl⟩ := List.mem_map.mp h
    exact ⟨a, (List.of_mem_zip haw).1, rfl⟩
  · exact ⟨p, h, rfl⟩

lemma mem_keep_empty {r : Reader} {l : List (Bytes × Bytes)} {seen : List Bytes} {a : Attribute}
    (h : a ∈ (r.keep ⟨false, []⟩ seen l).1) : (a.name, a.value) ∈ l := by
  induction l generalizing seen with
  | nil => simp [Reader.keep] at h
  | cons p l ih =>
    obtain ⟨name, value⟩ := p
    simp only [Reader.keep, MarkdownAttributes.observe_fixed (m := ⟨false, []⟩) rfl, List.contains_nil,
      Bool.false_eq_true, if_false] at h
    split at h
    · exact List.mem_cons_of_mem _ (ih h)
    · rcases List.mem_cons.mp h with rfl | h
      · exact List.mem_cons_self
      · exact List.mem_cons_of_mem _ (ih h)

def tagRest? (s : Bytes) : Option Bytes := (tagAttributesUpTo (s.length + 1) s).map (·.2)

lemma outcome_tag (raw : Bytes) :
    Outcome raw (tagAttributesUpTo ((raw ++ utf8 " />").length + 1) (raw ++ utf8 " />")) (ending raw) :=
  outcome_tagAttributesUpTo (by simp [show (utf8 " />").length = 3 from rfl])

lemma value_of_mem_attributes? {r : Reader} {raw : Bytes} {attrs : Attributes}
    {pieces : List (Bytes × Bytes)} (h : (r.attributes? ⟨false, []⟩ raw).1 = some attrs)
    (hread : tagAttributes? (raw ++ utf8 " />") = some (named pieces)) {a : Attribute} (ha : a ∈ attrs) :
    ∃ p ∈ pieces, a.value = unescape true (convertNewlines p.2) := by
  rw [Reader.attributes?, hread, Option.some.injEq] at h
  subst h
  obtain ⟨q, hq, hvalue⟩ := mem_respell (mem_keep_empty ha)
  obtain ⟨p, hp, rfl⟩ := mem_named hq
  exact ⟨p, hp, hvalue.symm⟩

/-- A list cannot be read exactly when it ends inside of quotes. Otherwise the tag reaches to its end
exactly when no greater-than sign ends it early, in which case the rest of the list is left outside; and
the values are texts of the list with their references resolved, unless it ends behind an equals sign,
where the slash of the end is read as the last value. A list that ends in neither way consists of the
names and values that are read and marks around them, where values without a name are not kept. -/
theorem attributes?_ending (opening closing raw : Bytes) :
    let read := ((Reader.new opening closing id).attributes? ⟨false, []⟩ raw).1
    let tag := raw ++ utf8 " />"
    (read = none ↔ ending raw = .unclosed) ∧
    ∀ attrs, read = some attrs →
      (tagRest? tag = some [] ↔ ∀ rest, ending raw ≠ .early rest) ∧
      (∀ rest, ending raw = .early rest →
        tagRest? tag = some (rest ++ utf8 " />") ∧ ∃ front, raw = front ++ byte '>' :: rest) ∧
      (ending raw ≠ .dangling →
        ∀ a ∈ attrs, ∃ text, text <:+: raw ∧ a.value = unescape true (convertNewlines text)) ∧
      (ending raw = .dangling → ∃ pieces key, MadeOf raw (pieces ++ [(key, [])]) ∧
        tagAttributes? tag = some (named (pieces ++ [(key, utf8 "/")]))) ∧
      (ending raw = .complete → ∃ pieces, MadeOf raw pieces ∧ tagAttributes? tag = some (named pieces)) := by
  intro read tag
  have hnone : read = none ↔ tagAttributes? tag = none := attributes?_eq_none_iff _
  have houtcome : Outcome raw (tagAttributesUpTo (tag.length + 1) tag) (ending raw) := outcome_tag raw
  have hattrs : tagAttributes? tag = (tagAttributesUpTo (tag.length + 1) tag).map (·.1) := rfl
  have hrest : tagRest? tag = (tagAttributesUpTo (tag.length + 1) tag).map (·.2) := rfl
  generalize tagAttributesUpTo (tag.length + 1) tag = result at houtcome hattrs hrest
  rw [hnone]
  cases he : ending raw with
  | complete =>
    rw [he] at houtcome
    obtain ⟨pieces, hs, rfl⟩ := houtcome
    refine ⟨by simp [hattrs], fun attrs h => ⟨by simp [hrest], by simp, fun _ a ha => ?_, by simp,
      fun _ => ⟨pieces, hs, hattrs⟩⟩⟩
    obtain ⟨p, hp, hvalue⟩ := value_of_mem_attributes? h hattrs ha
    exact ⟨p.2, hs.value_isInfix hp, hvalue⟩
  | dangling =>
    rw [he] at houtcome
    obtain ⟨pieces, key, hs, rfl⟩ := houtcome
    exact ⟨by simp [hattrs], fun attrs h => ⟨by simp [hrest], by simp, by simp,
      fun _ => ⟨pieces, key, hs, hattrs⟩, by simp⟩⟩
  | unclosed =>
    rw [he] at houtcome
    obtain rfl := houtcome
    refine ⟨by simp [hattrs], fun attrs h => ?_⟩
    rw [hnone.mpr hattrs] at h
    cases h
  | early rest =>
    rw [he] at houtcome
    obtain ⟨front, pieces, hsplit, hs, rfl⟩ := houtcome
    have hfront : front <:+: raw := hsplit ▸ (List.prefix_append front _).isInfix
    refine ⟨by simp [hattrs], fun attrs h => ⟨?_, ?_, fun _ a ha => ?_, by simp, by simp⟩⟩
    · simp [hrest, show utf8 " />" ≠ [] by decide]
    · rintro rest' hsame
      cases hsame
      exact ⟨hrest, front, hsplit⟩
    · obtain ⟨p, hp, hvalue⟩ := value_of_mem_attributes? h hattrs ha
      exact ⟨p.2, (hs.value_isInfix hp).trans hfront, hvalue⟩

/-- Quotes around marks, a bare value with a slash, a slash between attributes, and a name in the end. -/
theorem attributes?_ending_complete :
    let raw := utf8 "A=\"x>=y\" b = '&lt;' / c=/d=e f"
    ending raw = .complete ∧ tagRest? (raw ++ utf8 " />") = some [] ∧
      ((Reader.new [] [] id).attributes? ⟨false, []⟩ raw).1 =
        some [⟨utf8 "A", utf8 "x>=y"⟩, ⟨utf8 "b", utf8 "<"⟩, ⟨utf8 "c", utf8 "/d=e"⟩, ⟨utf8 "f", []⟩] ∧
      ∃ pieces, MadeOf raw pieces ∧ tagAttributes? (raw ++ utf8 " />") = some (named pieces) := by
  intro raw
  have hending : ending raw = .complete := by decide +kernel
  have hread : ((Reader.new [] [] id).attributes? ⟨false, []⟩ raw).1 =
      some [⟨utf8 "A", utf8 "x>=y"⟩, ⟨utf8 "b", utf8 "<"⟩, ⟨utf8 "c", utf8 "/d=e"⟩, ⟨utf8 "f", []⟩] := by
    decide +kernel
  obtain ⟨hrest, -, -, -, hpieces⟩ := (attributes?_ending [] [] raw).2 _ hread
  exact ⟨hending, hrest.mpr (by simp [hending]), hread, hpieces hending⟩

/-- An equals sign at the end of a list takes the slash that closes the tag for its value, and a
greater-than sign hides what follows it. -/
theorem attributes?_ending_astray :
    ((Reader.new [] [] id).attributes? ⟨false, []⟩ (utf8 "a=")).1 = some [⟨utf8 "a", utf8 "/"⟩] ∧
      (∀ text, text <:+: utf8 "a=" → unescape true (convertNewlines text) ≠ utf8 "/") ∧
      ((Reader.new [] [] id).attributes? ⟨false, []⟩ (utf8 "a=1>b=2")).1 = some [⟨utf8 "a", utf8 "1"⟩] ∧
      tagRest? (utf8 "a=1>b=2" ++ utf8 " />") = some (utf8 "b=2 />") := by
  refine ⟨by decide +kernel, fun text h => ?_, by decide +kernel, by decide +kernel⟩
  have hcases : text = [] ∨ text = [97] ∨ text = [61] ∨ text = [97, 61] := by
    have htext : utf8 "a=" = [97, 61] := by decide
    rw [htext] at h
    simp only [List.infix_cons_iff, List.prefix_cons_iff, List.prefix_nil, List.infix_nil] at h
    rcases h with (rfl | ⟨t, rfl, rfl | ⟨u, rfl, rfl⟩⟩) | (rfl | ⟨t, rfl, rfl⟩) | rfl <;> simp
  rcases hcases with rfl | rfl | rfl | rfl <;> decide +kernel

end MarkdownTidy.Shortcode
