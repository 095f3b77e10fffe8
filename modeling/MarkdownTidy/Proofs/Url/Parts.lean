import MarkdownTidy.Proofs.Url.Escaping
import MarkdownTidy.Url.Basic

/-! Relative URLs taken apart into a user, a path, a query and a fragment as they are written. -/

namespace MarkdownTidy.Url

variable {sep : UInt8} {s t : Bytes}

/-! ### Cutting -/

/-- A separator with what stands behind it, if anything does. -/
def behind (sep : UInt8) : Option Bytes → Bytes
  | none => []
  | some s => sep :: s

lemma cut_append_behind (h : sep ∉ s) (o : Option Bytes) : cut sep (s ++ behind sep o) = (s, o) := by
  have hall : ∀ c ∈ s, (c != sep) = true := fun c hc => by
    rw [bne_iff_ne]
    rintro rfl
    exact h hc
  cases o with
  | none => rw [behind, List.append_nil, cut, List.dropWhile_eq_nil_iff.mpr hall]
  | some t =>
    rw [behind, cut, List.dropWhile_append_of_pos hall, List.takeWhile_append_of_pos hall]
    simp

lemma cut_spec (sep : UInt8) (s : Bytes) : sep ∉ (cut sep s).1 ∧ s = (cut sep s).1 ++ behind sep (cut sep s).2 := by
  by_cases h : sep ∈ s
  · obtain ⟨a, b, rfl, ha⟩ := List.eq_append_cons_of_mem h
    have hcut := cut_append_behind ha (some b)
    rw [behind] at hcut
    rw [hcut]
    exact ⟨ha, rfl⟩
  · have hcut := cut_append_behind h none
    rw [behind, List.append_nil] at hcut
    rw [hcut]
    exact ⟨h, (List.append_nil s).symm⟩

/-! ### Reading before the fragment -/

def hasAuthority (s : Bytes) : Bool := Bytes.startsWith s (utf8 "//") && !Bytes.startsWith s (utf8 "///")

def isPrintable (c : UInt8) : Bool := !(c < 0x20 || c == 0x7F) && c != byte '#'

lemma isPrintable_of_isAlphanumeric {c : UInt8} (h : Bytes.isAlphanumeric c = true) :
    isPrintable c = true ∧ c ≠ byte '?' := by
  have hhash : byte '#' = 35 := rfl
  have hquestion : byte '?' = 63 := rfl
  simp only [Bytes.isAlphanumeric, Bytes.isLetter, Bytes.isUpper, Bytes.isLower, Bytes.isDigit, Bool.or_eq_true,
    Bool.and_eq_true, decide_eq_true_eq, UInt8.le_iff_toNat_le, UInt8.reduceToNat] at h
  simp only [isPrintable, hhash, hquestion, Bool.and_eq_true, Bool.not_eq_true', Bool.or_eq_false_iff,
    decide_eq_false_iff_not, beq_eq_false_iff_ne, bne_iff_ne, ne_eq, ← UInt8.toNat_inj, UInt8.lt_iff_toNat_lt,
    UInt8.reduceToNat]
  omega

lemma emptyQuery_eq (h : byte '?' ∉ s) (q : Option Bytes) :
    ((s ++ behind (byte '?') q).getLast? == some (byte '?') && (s ++ behind (byte '?') q).count (byte '?') == 1) =
      (q == some []) := by
  have hzero : s.count (byte '?') = 0 := List.count_eq_zero.mpr h
  cases q with
  | none =>
    rw [behind, List.append_nil, hzero]
    simp
  | some t =>
    rw [behind, List.count_append, hzero, List.count_cons_self]
    cases t using List.reverseRecOn with
    | nil => simp
    | append_singleton t c =>
      rw [← List.cons_append, ← List.append_assoc, List.getLast?_concat]
      by_cases hc : c = byte '?'
      · subst hc
        simp
      · have hbeq : (c == byte '?') = false := beq_false_of_ne hc
        simp [hbeq]

lemma parseBeforeFragment_eq {body : Bytes} {q : Option Bytes} (hq : byte '?' ∉ body)
    (hcontrol : ∀ c ∈ body ++ behind (byte '?') q, isPrintable c = true)
    (hstar : body ++ behind (byte '?') q ≠ utf8 "*")
    (hscheme : splitScheme (body ++ behind (byte '?') q) = .ok ([], body ++ behind (byte '?') q)) :
    parseBeforeFragment (body ++ behind (byte '?') q) =
      if body.head? ≠ some (byte '/') ∧ byte ':' ∈ (cut (byte '/') body).1 then .error .colonInSegment
      else
        (if hasAuthority body then readAuthority ((body.drop 2).takeWhile (· != byte '/')) else .ok (none, [])).bind
          fun a => (readPart .path (if hasAuthority body then (body.drop 2).dropWhile (· != byte '/') else body)).map
            fun r =>
              { user := a.1, host := a.2, path := r.1, writtenPath := r.2, emptyQuery := q == some [],
                query := q.getD [] } := by
  have hclean : ((body ++ behind (byte '?') q).any fun c => c < 0x20 || c == 0x7F) = false := by
    rw [List.any_eq_false]
    intro c hc
    have h := hcontrol c hc
    rw [isPrintable, Bool.and_eq_true, Bool.not_eq_true'] at h
    rw [h.1]
    exact Bool.false_ne_true
  have hempty := emptyQuery_eq hq q
  generalize hs : body ++ behind (byte '?') q = s at *
  rw [parseBeforeFragment, hclean, if_neg Bool.false_ne_true, if_neg (by simpa using hstar), hscheme]
  have hcut : cut (byte '?') s = (body, q) := hs ▸ cut_append_behind hq q
  simp only [hcut, hempty, bind, Except.bind]
  have hlower : Bytes.lowerAscii [] = [] := rfl
  have hauthority : (Bytes.startsWith body (utf8 "//") &&
      (!List.isEmpty ([] : Bytes) || !Bytes.startsWith body (utf8 "///"))) = hasAuthority body := rfl
  rw [hlower, hauthority, if_neg (by simp)]
  by_cases hcolon : body.head? ≠ some (byte '/') ∧ byte ':' ∈ (cut (byte '/') body).1
  · rw [if_pos hcolon, if_pos (by simpa using hcolon)]
    rfl
  · rw [if_neg hcolon, if_neg (by simpa using hcolon)]
    cases hasAuthority body with
    | false =>
      simp only [Bool.false_eq_true, if_false]
      cases readPart .path body <;> rfl
    | true =>
      simp only [if_true]
      cases readAuthority ((body.drop 2).takeWhile (· != byte '/')) with
      | error e => rfl
      | ok a => cases readPart .path ((body.drop 2).dropWhile (· != byte '/')) <;> rfl

lemma splitScheme_eq (h : splitScheme s = .ok ([], t)) : t = s := by
  rw [splitScheme] at h
  split at h
  · exact (congrArg Prod.snd (Except.ok.inj h)).symm
  · cases h
  · split at h
    · exact absurd (congrArg Prod.fst (Except.ok.inj h)) (List.cons_ne_nil _ _)
    · exact (congrArg Prod.snd (Except.ok.inj h)).symm

lemma splitScheme_append {c : UInt8} (hs : byte ':' ∉ s) (hc : c ≠ byte ':') (hscheme : isSchemeByte c = false)
    (t : Bytes) : splitScheme (s ++ c :: t) = .ok ([], s ++ c :: t) := by
  have hall : ∀ b ∈ s, (b != byte ':') = true := fun b hb => by
    rw [bne_iff_ne]
    rintro rfl
    exact hs hb
  have htake : (s ++ c :: t).takeWhile (· != byte ':') = s ++ c :: t.takeWhile (· != byte ':') := by
    rw [List.takeWhile_append_of_pos hall, List.takeWhile_cons_of_pos (by simpa using hc)]
  rw [splitScheme, cut]
  cases (s ++ c :: t).dropWhile (· != byte ':') with
  | nil => rfl
  | cons b rest =>
    dsimp only
    rw [htake]
    cases s with
    | nil =>
      have hletter : Bytes.isLetter c = false := by
        by_contra h
        rw [Bool.not_eq_false] at h
        simp [isSchemeByte, Bytes.isAlphanumeric, h] at hscheme
      rw [List.nil_append]
      simp [hletter]
    | cons d s =>
      rw [List.cons_append]
      simp [hscheme]

lemma splitScheme_of_notMem (h : byte ':' ∉ s) : splitScheme s = .ok ([], s) := by
  have hcut := cut_append_behind h none
  rw [behind, List.append_nil] at hcut
  rw [splitScheme, hcut]

lemma splitScheme_of_segment {body : Bytes} {q : Option Bytes}
    (h : body.head? = some (byte '/') ∨ byte ':' ∉ (cut (byte '/') body).1) :
    splitScheme (body ++ behind (byte '?') q) = .ok ([], body ++ behind (byte '?') q) := by
  -- a slash or a question mark in front of the first colon belongs to no scheme
  rcases h with h | h
  · obtain ⟨t, rfl⟩ := List.head?_eq_some_iff.mp h
    exact splitScheme_append (s := []) List.not_mem_nil (by decide) (by decide) _
  · obtain ⟨-, hbody⟩ := cut_spec (byte '/') body
    generalize (cut (byte '/') body).1 = s, (cut (byte '/') body).2 = o at h hbody
    subst hbody
    cases o with
    | some t =>
      rw [behind, List.append_assoc]
      exact splitScheme_append h (by decide) (by decide) _
    | none =>
      rw [behind, List.append_nil]
      cases q with
      | none =>
        rw [behind, List.append_nil]
        exact splitScheme_of_notMem h
      | some t => exact splitScheme_append h (by decide) (by decide) _

/-! ### Users and hosts -/

lemma unescape?_eq_nil {part : UrlPart} (h : part.unescape? s = .ok []) : s = [] := by
  cases s with
  | nil => rfl
  | cons c s =>
    exfalso
    rw [UrlPart.unescape?.eq_def] at h
    dsimp only at h
    split at h
    · split at h
      · split at h
        · cases h
        · obtain ⟨a, -, ha⟩ := exists_of_map_eq_ok h
          cases ha
      · cases h
    · split at h
      · cases h
      · obtain ⟨a, -, ha⟩ := exists_of_map_eq_ok h
        cases ha

lemma readHost_eq_nil (h : readHost s = .ok []) : s = [] := by
  rw [readHost] at h
  split at h
  · rename_i hbracket
    split at h
    · cases h
    · rename_i i hi
      split at h
      · cases h
      · split at h
        · exact unescape?_eq_nil h
        · rename_i z hz
          obtain ⟨a, -, h⟩ := exists_of_bind_eq_ok h
          obtain ⟨b, -, h⟩ := exists_of_bind_eq_ok h
          obtain ⟨c, hc, h⟩ := exists_of_bind_eq_ok h
          have hnil := Except.ok.inj h
          rw [List.append_eq_nil_iff] at hnil
          rw [hnil.2] at hc
          -- the closing bracket is resolved as well
          obtain ⟨t, u, rfl, rfl, -⟩ := Bytes.exists_of_lastIndexOf? hi
          rw [List.drop_left] at hc
          exact absurd (unescape?_eq_nil hc) (List.cons_ne_nil _ _)
  · split at h
    · split at h
      · cases h
      · exact unescape?_eq_nil h
    · exact unescape?_eq_nil h

lemma isUserByte_of_mem_escape {c : UInt8} (h : c ∈ UrlPart.user.escape s) : isUserByte c = true := by
  have hplain : UrlPart.unescaped.all (fun c => UrlPart.user.escapes c || isUserByte c) = true := by decide
  rcases UrlPart.mem_escape (by decide) h with rfl | h | ⟨-, h⟩
  · rfl
  · rw [isUserByte, Bytes.isAlphanumeric_of_isHexDigit h, Bool.true_or]
  · rcases UrlPart.escapes_cases rfl h with halpha | hmem
    · rw [isUserByte, halpha, Bool.true_or]
    · simpa [h] using List.all_eq_true.mp hplain c hmem

def userText (x : UrlUser) : Bytes := x.name ++ behind (byte ':') x.password

lemma isUserByte_of_readUser {x : UrlUser} (h : readUser s = .ok x) : ∀ c ∈ s, isUserByte c = true := by
  rw [readUser] at h
  split at h
  · cases h
  · rename_i hall
    simpa using hall

lemma spells_of_readUser {x : UrlUser} (h : readUser s = .ok x) : UrlPart.Spells (userText x) s := by
  have hp : UrlPart.user.inHost = false := rfl
  obtain ⟨-, hs⟩ := cut_spec (byte ':') s
  rw [readUser] at h
  split at h
  · cases h
  · split at h
    · rename_i hcut
      obtain ⟨name, hname, h⟩ := exists_of_bind_eq_ok h
      obtain rfl := Except.ok.inj h
      rw [userText, behind, List.append_nil]
      exact (UrlPart.unescape?_eq_ok_iff hp).mp hname
    · rename_i n p hcut
      obtain ⟨name, hname, h⟩ := exists_of_bind_eq_ok h
      obtain ⟨password, hpassword, h⟩ := exists_of_bind_eq_ok h
      obtain rfl := Except.ok.inj h
      rw [hcut] at hs
      rw [hs]
      exact ((UrlPart.unescape?_eq_ok_iff hp).mp hname).append
        (.byte (by decide) ((UrlPart.unescape?_eq_ok_iff hp).mp hpassword))

lemma printUser_eq (x : UrlUser) :
    printUser x = UrlPart.user.escape x.name ++ behind (byte ':') (x.password.map UrlPart.user.escape) := by
  rw [printUser]
  cases x.password <;> rfl

lemma readUser_printUser (x : UrlUser) : readUser (printUser x) = .ok x := by
  have hp : UrlPart.user.inHost = false := rfl
  have hq : UrlPart.user ≠ .query := by decide
  have hall : (printUser x).all isUserByte = true := by
    rw [printUser_eq, List.all_append, Bool.and_eq_true, List.all_eq_true, List.all_eq_true]
    refine ⟨fun c hc => isUserByte_of_mem_escape hc, fun c hc => ?_⟩
    cases hpw : x.password with
    | none => rw [hpw] at hc; cases hc
    | some password =>
      rw [hpw] at hc
      rcases List.mem_cons.mp hc with rfl | hc
      · rfl
      · exact isUserByte_of_mem_escape hc
  have hname : byte ':' ∉ UrlPart.user.escape x.name := by
    intro h
    rcases UrlPart.mem_escape hq h with h | h | ⟨-, h⟩ <;> exact absurd h (by decide)
  rw [readUser, hall, if_neg (by decide), printUser_eq, cut_append_behind hname]
  obtain ⟨name, password⟩ := x
  have hread := fun s => (UrlPart.unescape?_eq_ok_iff hp).mpr (UrlPart.spells_escape hp hq s)
  cases password with
  | none => simp [behind, hread, bind, Except.bind, pure, Except.pure]
  | some password => simp [hread, bind, Except.bind, pure, Except.pure]

lemma readAuthority_append {w : Bytes} {x : UrlUser} (h : readUser w = .ok x) :
    readAuthority (w ++ [byte '@']) = .ok (some x, []) := by
  rw [readAuthority, Bytes.lastIndexOf?_append List.not_mem_nil]
  simp only [List.take_left, ← List.drop_drop, List.drop_left, h]
  rfl

lemma exists_of_readAuthority {x : Option UrlUser} (h : readAuthority s = .ok (x, [])) :
    s = [] ∨ ∃ w y, s = w ++ [byte '@'] ∧ x = some y ∧ readUser w = .ok y := by
  rw [readAuthority] at h
  split at h
  · obtain ⟨host, hhost, h⟩ := exists_of_bind_eq_ok h
    obtain ⟨-, rfl⟩ := Prod.mk.inj (Except.ok.inj h)
    exact .inl (readHost_eq_nil hhost)
  · rename_i i hi
    obtain ⟨host, hhost, h⟩ := exists_of_bind_eq_ok h
    obtain ⟨y, hy, h⟩ := exists_of_bind_eq_ok h
    obtain ⟨rfl, rfl⟩ := Prod.mk.inj (Except.ok.inj h)
    obtain ⟨w, t, rfl, rfl, -⟩ := Bytes.exists_of_lastIndexOf? hi
    rw [← List.drop_drop, List.drop_left] at hhost
    rw [List.take_left] at hy
    obtain rfl : t = [] := readHost_eq_nil hhost
    exact .inr ⟨w, y, rfl, rfl, hy⟩

lemma readPart_eq_ok_iff {part : UrlPart} (hp : part.inHost = false) {r w : Bytes} :
    readPart part s = .ok (r, w) ↔ UrlPart.Spells r s ∧ w = if part.escape r == s then [] else s := by
  rw [← UrlPart.unescape?_eq_ok_iff hp]
  constructor
  · intro h
    obtain ⟨r', hr, h⟩ := exists_of_bind_eq_ok h
    obtain ⟨rfl, rfl⟩ := Prod.mk.inj (Except.ok.inj h)
    exact ⟨hr, rfl⟩
  · rintro ⟨hr, rfl⟩
    rw [readPart, hr]
    rfl

/-! ### Parts -/

structure Parts where
  user : Option Bytes
  path : Bytes
  query : Option Bytes
  fragment : Option Bytes

namespace Parts

def front (p : Parts) : Bytes := (p.user.map fun w => utf8 "//" ++ (w ++ [byte '@'])).getD []

def beforeFragment (p : Parts) : Bytes := p.front ++ p.path ++ behind (byte '?') p.query

def text (p : Parts) : Bytes := p.beforeFragment ++ behind (byte '#') p.fragment

inductive Opens (path : Bytes) : Option Bytes → Option UrlUser → Prop
  | path (hauthority : hasAuthority path = false)
      (hcolon : path.head? = some (byte '/') ∨ byte ':' ∉ (cut (byte '/') path).1) : Opens path none none
  | user {w : Bytes} {x : UrlUser} (hw : readUser w = .ok x) (hslash : path.head? = some (byte '/')) :
      Opens path (some w) (some x)

structure Legible (p : Parts) : Prop where
  user : ∀ w ∈ p.user, ∃ x, readUser w = .ok x
  path : ∀ c ∈ p.path, isPrintable c = true ∧ c ≠ byte '?'
  query : ∀ c ∈ p.query.getD [], isPrintable c = true

/-- What the parts of a URL say. -/
structure Reads (p : Parts) (u : Url) : Prop where
  legible : p.Legible
  scheme : u.scheme = []
  rootless : u.rootless = []
  host : u.host = []
  opens : Opens p.path p.user u.user
  path : readPart .path p.path = .ok (u.path, u.writtenPath)
  query : u.query = p.query.getD []
  emptyQuery : u.emptyQuery = (p.query == some [])
  fragment : readPart .fragment (p.fragment.getD []) = .ok (u.fragment, u.writtenFragment)

end Parts

variable {p : Parts} {u : Url}

lemma Parts.Opens.slash {path : Bytes} {user : Option Bytes} {x : Option UrlUser} (h : Opens path user x)
    (hx : x ≠ none) : path.head? = some (byte '/') := by
  cases h with
  | path => exact absurd rfl hx
  | user _ hslash => exact hslash

namespace Parts.Legible

lemma front (h : p.Legible) : ∀ c ∈ p.front, isPrintable c = true ∧ c ≠ byte '?' := by
  have hplain : (utf8 "-._:~!$&'()*+,;=%@").all (fun c => isPrintable c && c != byte '?') = true := by decide
  have huser : ∀ c, isUserByte c = true → isPrintable c = true ∧ c ≠ byte '?' := by
    intro c hc
    rw [isUserByte, Bool.or_eq_true] at hc
    refine hc.elim isPrintable_of_isAlphanumeric fun hc => ?_
    simpa using List.all_eq_true.mp hplain c (List.contains_iff_mem.mp hc)
  have hlegible := h.user
  rw [Parts.front]
  generalize p.user = user at hlegible
  cases user with
  | none => exact fun c hc => absurd hc List.not_mem_nil
  | some w =>
    obtain ⟨x, hw⟩ := hlegible w rfl
    intro c hc
    rw [Option.map_some, Option.getD_some, List.mem_append, List.mem_append, List.mem_singleton] at hc
    rcases hc with hc | hc | rfl
    · obtain rfl : c = byte '/' := List.eq_of_mem_replicate (n := 2) hc
      decide
    · exact huser c (isUserByte_of_readUser hw c hc)
    · decide

lemma beforeFragment (h : p.Legible) : ∀ c ∈ p.beforeFragment, isPrintable c = true := by
  intro c hc
  rw [Parts.beforeFragment, List.mem_append, List.mem_append] at hc
  rcases hc with (hc | hc) | hc
  · exact (h.front c hc).1
  · exact (h.path c hc).1
  · have hquery := h.query
    cases hq : p.query with
    | none => rw [hq] at hc; cases hc
    | some q =>
      rw [hq] at hc hquery
      rcases List.mem_cons.mp hc with rfl | hc
      · rfl
      · exact hquery c hc

lemma question_notMem (h : p.Legible) : byte '?' ∉ p.front ++ p.path := by
  rw [List.mem_append, not_or]
  exact ⟨fun hc => (h.front _ hc).2 rfl, fun hc => (h.path _ hc).2 rfl⟩

lemma hash_notMem (h : p.Legible) : byte '#' ∉ p.beforeFragment := fun hc => absurd (h.beforeFragment _ hc) (by decide)

end Parts.Legible

lemma hasAuthority_of_head? (h : s.head? ≠ some (byte '/')) : hasAuthority (utf8 "//" ++ s) = true := by
  have hslashes : utf8 "//" = [47, 47] ∧ utf8 "///" = [47, 47, 47] := ⟨rfl, rfl⟩
  rw [hasAuthority, hslashes.1, hslashes.2]
  cases s with
  | nil => rfl
  | cons c s =>
    have hc : c ≠ 47 := fun hc => h (congrArg some hc)
    have hbeq : ((47 : UInt8) == c) = false := beq_false_of_ne hc.symm
    simp [Bytes.startsWith, List.isPrefixOf, hbeq]

lemma hasAuthority_append {w : Bytes} {x : UrlUser} (hw : readUser w = .ok x) (ht : t.head? = some (byte '/')) :
    hasAuthority (utf8 "//" ++ (w ++ [byte '@']) ++ t) = true ∧
      ((utf8 "//" ++ (w ++ [byte '@']) ++ t).drop 2).takeWhile (· != byte '/') = w ++ [byte '@'] ∧
      ((utf8 "//" ++ (w ++ [byte '@']) ++ t).drop 2).dropWhile (· != byte '/') = t := by
  have hdrop : (utf8 "//" ++ (w ++ [byte '@']) ++ t).drop 2 = w ++ [byte '@'] ++ t := rfl
  have hall : ∀ c ∈ w ++ [byte '@'], (c != byte '/') = true := by
    intro c hc
    rw [bne_iff_ne]
    rintro rfl
    rcases List.mem_append.mp hc with hc | hc
    · exact absurd (isUserByte_of_readUser hw _ hc) (by decide)
    · exact absurd hc (by decide)
  obtain ⟨t, rfl⟩ := List.head?_eq_some_iff.mp ht
  rw [hdrop, List.takeWhile_append_of_pos hall, List.dropWhile_append_of_pos hall]
  refine ⟨?_, by simp, by simp⟩
  obtain ⟨c, v, hv⟩ :=
    List.exists_cons_of_ne_nil (List.append_ne_nil_of_right_ne_nil w (List.cons_ne_nil (byte '@') []))
  rw [List.append_assoc, hv]
  refine hasAuthority_of_head? fun hc => ?_
  exact bne_iff_ne.mp (hall c (hv ▸ List.mem_cons_self)) (Option.some.inj hc)

lemma exists_of_hasAuthority (h : hasAuthority s = true) : ∃ t, s = utf8 "//" ++ t ∧ t.head? ≠ some (byte '/') := by
  rw [hasAuthority, Bool.and_eq_true, Bool.not_eq_true', Bytes.startsWith, Bytes.startsWith,
    List.isPrefixOf_iff_prefix] at h
  obtain ⟨⟨t, rfl⟩, h⟩ := h
  refine ⟨t, rfl, fun ht => ?_⟩
  obtain ⟨t, rfl⟩ := List.head?_eq_some_iff.mp ht
  have hthree : (utf8 "///").isPrefixOf (utf8 "//" ++ byte '/' :: t) = true := List.isPrefixOf_iff_prefix.mpr ⟨t, rfl⟩
  rw [hthree] at h
  cases h

lemma Parts.Reads.spells (h : p.Reads u) : UrlPart.Spells u.path p.path := ((readPart_eq_ok_iff rfl).mp h.path).1

lemma Parts.Reads.path_ne_nil (h : p.Reads u) (hpath : u.path ≠ []) : p.path ≠ [] := by
  have hspells := h.spells
  intro hnil
  rw [hnil] at hspells
  exact hpath (hspells.unique .nil)

lemma Parts.Reads.beforeFragment_ne (h : p.Reads u) (hpath : u.path ≠ []) (hstar : u.path ≠ utf8 "*") :
    p.beforeFragment ≠ utf8 "*" := by
  have hne := List.length_pos_iff.mpr (h.path_ne_nil hpath)
  intro he
  have hlength := congrArg List.length he
  rw [beforeFragment, List.length_append, List.length_append, show (utf8 "*").length = 1 from rfl] at hlength
  have hfront : p.front = [] := List.length_eq_zero_iff.mp (by omega)
  have hquery : behind (byte '?') p.query = [] := List.length_eq_zero_iff.mp (by omega)
  rw [beforeFragment, hfront, hquery, List.append_nil, List.nil_append] at he
  have hspells := h.spells
  rw [he] at hspells
  exact hstar (hspells.unique (.byte (by decide) .nil))

lemma parse_text (h : p.Reads u) (hpath : u.path ≠ []) (hstar : u.path ≠ utf8 "*") : parse p.text = .ok u := by
  have hbefore : parseBeforeFragment p.beforeFragment = .ok { u with fragment := [], writtenFragment := [] } := by
    have hbytes := h.legible.beforeFragment
    have hne := h.beforeFragment_ne hpath hstar
    have hquestion := h.legible.question_notMem
    have hopens := h.opens
    have hread := h.path
    obtain ⟨user, path, query, fragment⟩ := p
    obtain ⟨scheme, rootless, user', host, path', writtenPath, emptyQuery, query', fragment', writtenFragment⟩ := u
    obtain ⟨-, rfl, rfl, rfl, -, -, rfl, rfl, -⟩ := h
    dsimp only at hopens hread
    rw [Parts.beforeFragment] at hbytes hne ⊢
    have hsegment : (Parts.front ⟨user, path, query, fragment⟩ ++ path).head? = some (byte '/') ∨
        byte ':' ∉ (cut (byte '/') (Parts.front ⟨user, path, query, fragment⟩ ++ path)).1 := by
      cases hopens with
      | path _ hcolon => exact hcolon
      | user => exact .inl rfl
    rw [parseBeforeFragment_eq hquestion hbytes hne (splitScheme_of_segment hsegment), if_neg (by
      rintro ⟨hhead, hcolon⟩
      exact hsegment.elim hhead fun h => h hcolon)]
    cases hopens with
    | path hauthority =>
      rw [Parts.front, Option.map_none, Option.getD_none, List.nil_append, hauthority]
      simp [hread, Except.bind, Except.map]
    | user hw hslash =>
      obtain ⟨hauthority, htake, hdrop⟩ := hasAuthority_append hw hslash
      rw [Parts.front, Option.map_some, Option.getD_some, hauthority, if_pos rfl, if_pos rfl, htake, hdrop,
        readAuthority_append hw, hread]
      rfl
  rw [parse, Parts.text, cut_append_behind h.legible.hash_notMem]
  simp only [hbefore, h.fragment]

lemma exists_splitScheme {s : Bytes} (h : parseBeforeFragment s = .ok u) (hstar : s ≠ utf8 "*")
    (hscheme : u.scheme = []) : (∀ c ∈ s, ¬ (c < 0x20 || c == 0x7F) = true) ∧ splitScheme s = .ok ([], s) := by
  rw [parseBeforeFragment] at h
  split at h
  · cases h
  · rename_i hcontrol
    rw [if_neg (by simpa using hstar)] at h
    refine ⟨by simpa using hcontrol, ?_⟩
    obtain ⟨⟨scheme, rest⟩, hsplit, h⟩ := exists_of_bind_eq_ok h
    have hlower : u.scheme = Bytes.lowerAscii scheme := by
      dsimp only at h
      split at h
      · cases h
        rfl
      · split at h
        · cases h
        · split at h <;>
          · obtain ⟨a, -, h⟩ := exists_of_bind_eq_ok h
            obtain ⟨r, -, h⟩ := exists_of_bind_eq_ok h
            cases h
            rfl
    rw [hscheme, Bytes.lowerAscii, eq_comm, List.map_eq_nil_iff] at hlower
    subst hlower
    rw [hsplit, splitScheme_eq hsplit]

lemma exists_user_front {body path written : Bytes} {x : Option UrlUser} (hauth : hasAuthority body = true)
    (hauthority : readAuthority ((body.drop 2).takeWhile (· != byte '/')) = .ok (x, []))
    (hread : readPart .path ((body.drop 2).dropWhile (· != byte '/')) = .ok (path, written)) (hpath : path ≠ []) :
    ∃ w y tail, body = utf8 "//" ++ (w ++ [byte '@']) ++ tail ∧ (body.drop 2).dropWhile (· != byte '/') = tail ∧
      x = some y ∧ readUser w = .ok y ∧ tail.head? = some (byte '/') := by
  obtain ⟨t, rfl, htail⟩ := exists_of_hasAuthority hauth
  have hdrop : (utf8 "//" ++ t).drop 2 = t := rfl
  rw [hdrop] at hauthority hread ⊢
  have ht := (List.takeWhile_append_dropWhile (p := (· != byte '/')) (l := t)).symm
  have hslash : (t.dropWhile (· != byte '/')).head? = some (byte '/') := by
    cases hd : t.dropWhile (· != byte '/') with
    | nil =>
      rw [hd] at hread
      have hspells := ((readPart_eq_ok_iff rfl).mp hread).1
      exact absurd (hspells.unique .nil) hpath
    | cons c tail =>
      have hhead := List.head?_dropWhile_not (· != byte '/') t
      rw [hd] at hhead
      simpa using hhead
  -- an empty authority would put a third slash in front, and then there is none
  rcases exists_of_readAuthority hauthority with hnil | ⟨w, y, hw, rfl, hy⟩
  · rw [hnil, List.nil_append] at ht
    rw [ht] at htail
    exact absurd hslash htail
  · rw [hw] at ht
    exact ⟨w, y, _, by rw [List.append_assoc, ← ht], rfl, rfl, hy, hslash⟩

/-- What is read in front of a fragment is a user, a path and a query. -/
lemma exists_parts_beforeFragment {s : Bytes} (h : parseBeforeFragment s = .ok u) (hhash : byte '#' ∉ s)
    (hscheme : u.scheme = []) (hhost : u.host = []) (hpath : u.path ≠ []) (hstar : u.path ≠ utf8 "*")
    (fragment : Option Bytes) : ∃ p : Parts, p.fragment = fragment ∧ s = p.beforeFragment ∧
      ∀ f w, readPart .fragment (fragment.getD []) = .ok (f, w) →
        p.Reads { u with fragment := f, writtenFragment := w } := by
  have hne : s ≠ utf8 "*" := by
    rintro rfl
    rw [parseBeforeFragment, if_neg (by decide), if_pos (by decide)] at h
    cases h
    exact hstar rfl
  obtain ⟨hcontrol, hsplit⟩ := exists_splitScheme h hne hscheme
  have hbytes : ∀ c ∈ s, isPrintable c = true := by
    intro c hc
    rw [isPrintable, Bool.and_eq_true, Bool.not_eq_true', bne_iff_ne]
    refine ⟨by simpa using hcontrol c hc, ?_⟩
    rintro rfl
    exact hhash hc
  obtain ⟨hquestion, hs⟩ := cut_spec (byte '?') s
  generalize (cut (byte '?') s).1 = body, (cut (byte '?') s).2 = query at hquestion hs
  subst hs
  rw [parseBeforeFragment_eq hquestion hbytes hne hsplit] at h
  rw [List.forall_mem_append] at hbytes
  have hqueryBytes : ∀ c ∈ query.getD [], isPrintable c = true := by
    cases query with
    | none => simp
    | some q => exact fun c hc => hbytes.2 c (List.mem_cons_of_mem _ hc)
  split at h
  · cases h
  · rename_i hcolon
    rw [not_and_or, not_not] at hcolon
    obtain ⟨⟨x, host⟩, hauthority, h⟩ := exists_of_bind_eq_ok h
    obtain ⟨⟨path, written⟩, hread, rfl⟩ := exists_of_map_eq_ok h
    obtain rfl : host = [] := hhost
    cases hauth : hasAuthority body with
    | false =>
      rw [hauth] at hauthority hread
      obtain ⟨rfl, -⟩ := Prod.mk.inj (Except.ok.inj hauthority)
      refine ⟨⟨none, body, query, fragment⟩, rfl, rfl, fun f w hf => ?_⟩
      refine ⟨⟨?_, ?_, hqueryBytes⟩, rfl, rfl, rfl, .path hauth hcolon, hread, rfl, rfl, hf⟩
      · exact fun w hw => absurd hw (Option.not_mem_none w)
      · exact fun c hc => ⟨hbytes.1 c hc, fun he => hquestion (he ▸ hc)⟩
    | true =>
      rw [hauth, if_pos rfl] at hauthority hread
      obtain ⟨w, y, tail, rfl, htail, rfl, hy, hslash⟩ := exists_user_front hauth hauthority hread hpath
      rw [htail] at hread
      refine ⟨⟨some w, tail, query, fragment⟩, rfl, rfl, fun f v hf => ?_⟩
      refine ⟨⟨?_, ?_, hqueryBytes⟩, rfl, rfl, rfl, .user hy hslash, hread, rfl, rfl, hf⟩
      · exact fun v hv => ⟨y, Option.mem_some_iff.mp hv ▸ hy⟩
      · exact fun c hc => ⟨hbytes.1 c (by simp [hc]), fun he => hquestion (he ▸ by simp [hc])⟩

lemma exists_parts {s : Bytes} (h : parse s = .ok u) (hscheme : u.scheme = []) (hhost : u.host = [])
    (hpath : u.path ≠ []) (hstar : u.path ≠ utf8 "*") : ∃ p : Parts, s = p.text ∧ p.Reads u := by
  obtain ⟨hhash, hs⟩ := cut_spec (byte '#') s
  generalize (cut (byte '#') s).1 = before, (cut (byte '#') s).2 = fragment at hhash hs
  subst hs
  rw [parse, cut_append_behind hhash] at h
  dsimp only at h
  split at h
  · cases h
  · rename_i u₀ hbefore
    split at h
    · cases h
    · rename_i f w hfragment
      obtain rfl := Except.ok.inj h
      obtain ⟨p, rfl, rfl, hp⟩ := exists_parts_beforeFragment hbefore hhash hscheme hhost hpath hstar fragment
      exact ⟨p, rfl, hp f w hfragment⟩

/-! ### The parts of a text -/

def pathText (s : Bytes) : Bytes := s.takeWhile fun c => c != byte '?' && c != byte '#'

def queryText? (s : Bytes) : Option Bytes := (cut (byte '?') (cut (byte '#') s).1).2

def fragmentText (s : Bytes) : Bytes := (cut (byte '#') s).2.getD []

namespace Parts.Legible

lemma pathText_text (h : p.Legible) : pathText p.text = p.front ++ p.path := by
  have hall : ∀ c ∈ p.front ++ p.path, (c != byte '?' && c != byte '#') = true := by
    intro c hc
    rw [Bool.and_eq_true, bne_iff_ne, bne_iff_ne]
    constructor
    · rintro rfl
      exact h.question_notMem hc
    · rintro rfl
      exact h.hash_notMem (List.mem_append_left _ hc)
  rw [pathText, text, Parts.beforeFragment, List.append_assoc, List.takeWhile_append_of_pos hall]
  cases p.query with
  | some q => simp [behind]
  | none => cases p.fragment <;> simp [behind]

lemma queryText?_text (h : p.Legible) : queryText? p.text = p.query := by
  rw [queryText?, text, cut_append_behind h.hash_notMem, Parts.beforeFragment, cut_append_behind h.question_notMem]

lemma fragmentText_text (h : p.Legible) : fragmentText p.text = p.fragment.getD [] := by
  rw [fragmentText, text, cut_append_behind h.hash_notMem]

end Parts.Legible

end MarkdownTidy.Url
