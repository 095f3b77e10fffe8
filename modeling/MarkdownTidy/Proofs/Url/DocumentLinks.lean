import MarkdownTidy.Proofs.Url.Parts
import MarkdownTidy.Url.DocumentLink

/-! Links to documents, pointed at pages. The path is printed anew from what it says; an escaped slash in it becomes one
that ends a segment, everything else says what it said before. -/

namespace MarkdownTidy

open Url

/-! ### Extensions -/

section Extension

variable {s ext : Bytes}

lemma pathExtension_append {e : Bytes} (hslash : byte '/' ∉ e) (hdot : byte '.' ∉ e) (s : Bytes) :
    pathExtension (s ++ byte '.' :: e) = byte '.' :: e := by
  have hall : ∀ c ∈ (byte '.' :: e).reverse, (c != byte '/') = true := by
    intro c hc
    rw [bne_iff_ne]
    rintro rfl
    rcases List.mem_cons.mp (List.mem_reverse.mp hc) with hc | hc
    · exact absurd hc (by decide)
    · exact hslash hc
  rw [pathExtension, List.reverse_append, List.takeWhile_append_of_pos hall, List.reverse_append, List.reverse_reverse,
    Bytes.lastIndexOf?_append hdot]
  exact List.drop_left

lemma exists_stem (s : Bytes) : ∃ stem, s = stem ++ pathExtension s := by
  have hlast : (s.reverse.takeWhile (· != byte '/')).reverse <:+ s := by
    rw [← List.reverse_prefix, List.reverse_reverse]
    exact List.takeWhile_prefix _
  have hsuffix : pathExtension s <:+ (s.reverse.takeWhile (· != byte '/')).reverse := by
    rw [pathExtension]
    split
    · exact List.drop_suffix _ _
    · exact List.nil_suffix
  obtain ⟨stem, hstem⟩ := hsuffix.trans hlast
  exact ⟨stem, hstem.symm⟩

lemma lowerAscii_of_equalFold (h : Text.equalFold ext (utf8 ".md") = true) : Bytes.lowerAscii ext = utf8 ".md" := by
  have hcodes : (Utf8.codePoints (utf8 ".md")).map (fun r => Text.simpleFold r.code) = [0x2E, 0x6D, 0x64] := by decide
  rw [Text.equalFold, hcodes, beq_iff_eq] at h
  exact Text.lowerAscii_of_map_simpleFold (by decide) h

end Extension

/-! ### What is written -/

section Written

variable {p : Parts} {u : Url} {stem ext : Bytes}

def dotSegment (user : Option Bytes) (path : Bytes) : Bytes :=
  if user.isNone && (cut (byte '/') path).1.contains (byte ':') then utf8 "./" else []

def printedParts (p : Parts) (u : Url) (path : Bytes) : Parts where
  user := u.user.map printUser
  path := dotSegment (u.user.map printUser) (UrlPart.path.escape path) ++ UrlPart.path.escape path
  query := p.query
  fragment := if u.fragment.isEmpty then none else some (printPart .fragment u.fragment u.writtenFragment)

lemma printPath_eq (h : p.Reads u) {path : Bytes} (hpath : path ≠ u.path) (hstar : path ≠ utf8 "*") :
    printPath { u with path := path } = UrlPart.path.escape path := by
  obtain ⟨hspells, hwritten⟩ := (readPart_eq_ok_iff rfl).mp h.path
  have hread : UrlPart.path.unescape? p.path = .ok u.path := (UrlPart.unescape?_eq_ok_iff rfl).mpr hspells
  have hbeq : (u.path == path) = false := beq_false_of_ne hpath.symm
  rw [printPath, if_neg (by simpa using hstar), printPart]
  dsimp only
  rw [hwritten]
  split <;> simp [hread, hbeq]

lemma printRelative_eq (h : p.Reads u) {path : Bytes} (hpath : path ≠ u.path) (hstar : path ≠ utf8 "*") :
    printRelative { u with path := path } = (printedParts p u path).text := by
  have hquery : (if u.emptyQuery || !u.query.isEmpty then byte '?' :: u.query else []) = behind (byte '?') p.query := by
    rw [h.emptyQuery, h.query]
    cases p.query with
    | none => rfl
    | some q => cases q <;> rfl
  rw [printRelative, printPath_eq h hpath hstar]
  dsimp only
  rw [hquery, Parts.text, Parts.beforeFragment, Parts.front, printedParts, dotSegment]
  cases u.user with
  | none => cases u.fragment.isEmpty <;> simp [behind]
  | some x =>
    have hslashes : utf8 "//" = [47, 47] := rfl
    have hat : utf8 "@" = [byte '@'] := rfl
    cases u.fragment.isEmpty <;> simp [behind, hslashes, hat]

lemma isPrintable_escape {s : Bytes} : ∀ c ∈ UrlPart.path.escape s, isPrintable c = true ∧ c ≠ byte '?' := by
  have hplain : UrlPart.unescaped.all (fun c => UrlPart.path.escapes c || (isPrintable c && c != byte '?')) = true := by
    decide
  intro c hc
  rcases UrlPart.mem_escape (by decide) hc with rfl | hc | ⟨-, hc⟩
  · decide
  · exact isPrintable_of_isAlphanumeric (Bytes.isAlphanumeric_of_isHexDigit hc)
  · refine (UrlPart.escapes_cases rfl hc).elim isPrintable_of_isAlphanumeric fun hmem => ?_
    simpa [hc] using List.all_eq_true.mp hplain c hmem

lemma dotSegment_cases (user : Option Bytes) (path : Bytes) :
    dotSegment user path = utf8 "./" ∧ user = none ∨ dotSegment user path = [] := by
  rw [dotSegment]
  split
  · rename_i h
    rw [Bool.and_eq_true, Option.isNone_iff_eq_none] at h
    exact .inl ⟨rfl, h.1⟩
  · exact .inr rfl

lemma spells_printPart {part : UrlPart} (hp : part.inHost = false) (hq : part ≠ .query) (resolved written : Bytes) :
    UrlPart.Spells resolved (printPart part resolved written) := by
  cases hread : part.unescape? written with
  | error e =>
    simp only [printPart, hread, Bool.and_false, Bool.false_eq_true, if_false]
    exact UrlPart.spells_escape hp hq resolved
  | ok s =>
    simp only [printPart, hread]
    split
    · rename_i h
      rw [Bool.and_eq_true, beq_iff_eq] at h
      exact (UrlPart.unescape?_eq_ok_iff hp).mp (h.2 ▸ hread)
    · exact UrlPart.spells_escape hp hq resolved

lemma spells_fragment (p : Parts) (u : Url) (path : Bytes) :
    UrlPart.Spells u.fragment ((printedParts p u path).fragment.getD []) := by
  rw [printedParts]
  dsimp only
  split
  · rename_i h
    rw [List.isEmpty_iff.mp h]
    exact .nil
  · exact spells_printPart rfl (by decide) _ _

def printedPath (u : Url) (path : Bytes) : Bytes :=
  dotSegment (u.user.map printUser) (UrlPart.path.escape path) ++ path

lemma escape_dotSegment (user : Option Bytes) (path : Bytes) :
    UrlPart.path.escape (dotSegment user path) = dotSegment user path := by
  rcases dotSegment_cases user path with ⟨h, -⟩ | h
  · rw [h]
    decide
  · rw [h]
    rfl

lemma printedParts_path (p : Parts) (u : Url) (path : Bytes) :
    (printedParts p u path).path = UrlPart.path.escape (printedPath u path) := by
  rw [printedPath, UrlPart.escape_append, escape_dotSegment, printedParts]

lemma escape_slash_cons (s : Bytes) : UrlPart.path.escape (byte '/' :: s) = byte '/' :: UrlPart.path.escape s :=
  UrlPart.escape_append .path [byte '/'] s

lemma opens_printed {path : Bytes} (hauthority : u.user = none → hasAuthority (printedParts p u path).path = false)
    (hslash : u.user ≠ none → path.head? = some (byte '/')) :
    Parts.Opens (printedParts p u path).path (printedParts p u path).user u.user := by
  cases hu : u.user with
  | none =>
    have hauthority := hauthority hu
    simp only [printedParts, hu, Option.map_none] at hauthority ⊢
    refine .path hauthority (.inr ?_)
    rw [dotSegment]
    split
    · have hcut : cut (byte '/') (utf8 "./" ++ UrlPart.path.escape path) = _ :=
        cut_append_behind (s := utf8 ".") (by decide) (some (UrlPart.path.escape path))
      rw [hcut]
      show byte ':' ∉ utf8 "."
      decide
    · rename_i hcolon
      simpa using hcolon
  | some x =>
    obtain ⟨t, rfl⟩ := List.head?_eq_some_iff.mp (hslash (by rw [hu]; exact Option.some_ne_none x))
    simp only [printedParts, hu, Option.map_some, dotSegment, Option.isNone_some, Bool.false_and, Bool.false_eq_true,
      if_false, List.nil_append]
    exact .user (readUser_printUser x) (by rw [escape_slash_cons]; rfl)

lemma legible_printed (h : p.Reads u) (path : Bytes) : (printedParts p u path).Legible := by
  refine ⟨?_, ?_, h.legible.query⟩
  · intro w hw
    obtain ⟨x, -, rfl⟩ := Option.map_eq_some_iff.mp hw
    exact ⟨x, readUser_printUser x⟩
  · rw [printedParts_path]
    exact isPrintable_escape

lemma reads_printed (h : p.Reads u) {path : Bytes}
    (hauthority : u.user = none → hasAuthority (printedParts p u path).path = false)
    (hslash : u.user ≠ none → path.head? = some (byte '/')) :
    ∃ w, (printedParts p u path).Reads
      { u with path := printedPath u path, writtenPath := [], writtenFragment := w } := by
  have hpart : UrlPart.fragment.inHost = false := rfl
  have hfragment := (readPart_eq_ok_iff hpart).mpr ⟨spells_fragment p u path, rfl⟩
  refine ⟨_, legible_printed h path, h.scheme, h.rootless, h.host, opens_printed hauthority hslash, ?_, h.query,
    h.emptyQuery, hfragment⟩
  rw [printedParts_path]
  exact (readPart_eq_ok_iff rfl).mpr ⟨UrlPart.spells_escape rfl (by decide) _, by rw [beq_self_eq_true]; rfl⟩

end Written

/-! ### Segments -/

def linkSegments? (s : Bytes) : Except UrlError (List Bytes) := UrlPart.segments? (pathText s)

/-- Whether two destinations have the same segments, dot segments aside, but for the extension of a document in the last
of one and the extension of a page in the last of the other. -/
def OnlyExtension (d r : Bytes) : Prop :=
  ∃ before after stem ext, linkSegments? d = .ok (before ++ [stem ++ ext]) ∧
    linkSegments? r = .ok (after ++ [stem ++ utf8 ".html"]) ∧ Bytes.lowerAscii ext = utf8 ".md" ∧
    after.filter (· != utf8 ".") = before.filter (· != utf8 ".")

def EscapesSlash (d : Bytes) : Prop :=
  ∃ ss, linkSegments? d = .ok ss ∧ ∃ s ∈ ss.drop (if hasAuthority (pathText d) then 3 else 0), byte '/' ∈ s

section Segments

variable {d r stem ext : Bytes} {pre ss dots : List Bytes}

lemma slash_notMem_of_lowerAscii (h : Bytes.lowerAscii ext = utf8 ".md") : byte '/' ∉ ext := by
  intro hmem
  have hlower : byte '/' ∈ Bytes.lowerAscii ext := by
    have hbyte : Bytes.lowerByte (byte '/') = byte '/' := rfl
    exact hbyte ▸ List.mem_map_of_mem hmem
  rw [h] at hlower
  exact absurd hlower (by decide)

/-- A path that is printed anew has the segments it had, if none of them has a slash. -/
lemma onlyExtension_iff (hd : linkSegments? d = .ok (pre ++ ss))
    (hr : linkSegments? r = .ok (pre ++ (dots ++ Bytes.split (byte '/') (stem ++ utf8 ".html"))))
    (hdots : ∀ s ∈ dots, s = utf8 ".") (hne : ss ≠ []) (hjoin : Bytes.join [byte '/'] ss = stem ++ ext)
    (hext : Bytes.lowerAscii ext = utf8 ".md") : OnlyExtension d r ↔ ∀ s ∈ ss, byte '/' ∉ s := by
  have hslash := Bytes.sep_notMem_of_mem_split (byte '/') (stem ++ utf8 ".html")
  obtain ⟨front, last, hsplit⟩ := UrlPart.exists_split_append stem
  have hpage := hsplit (utf8 ".html") (by decide)
  rw [hpage] at hr hslash
  have hnodots : dots.filter (· != utf8 ".") = [] := by
    rw [List.filter_eq_nil_iff]
    intro s hs
    simp [hdots s hs]
  constructor
  · rintro ⟨before, after, stem', ext', hbefore, hafter, hext', hfilter⟩
    rcases List.eq_nil_or_concat' ss with rfl | ⟨ss, x, rfl⟩
    · contradiction
    have hd' : (pre ++ ss) ++ [x] = before ++ [stem' ++ ext'] := by
      rw [List.append_assoc]
      exact Except.ok.inj (hd.symm.trans hbefore)
    have hr' : (pre ++ (dots ++ front)) ++ [last ++ utf8 ".html"] = after ++ [stem' ++ utf8 ".html"] := by
      rw [List.append_assoc, List.append_assoc]
      exact Except.ok.inj (hr.symm.trans hafter)
    obtain ⟨rfl, hx⟩ := List.append_inj' hd' rfl
    obtain ⟨rfl, hlast⟩ := List.append_inj' hr' rfl
    obtain rfl : last = stem' := List.append_cancel_right (List.singleton_injective hlast)
    rw [List.filter_append, List.filter_append, List.filter_append, hnodots, List.nil_append,
      List.append_cancel_left_eq] at hfilter
    rw [List.forall_mem_append, List.forall_mem_singleton] at hslash ⊢
    constructor
    · intro s hs hmem
      have hkept : s ∈ ss.filter (· != utf8 ".") := by
        rw [List.mem_filter, bne_iff_ne]
        refine ⟨hs, ?_⟩
        rintro rfl
        exact absurd hmem (by decide)
      rw [← hfilter] at hkept
      exact hslash.1 s (List.mem_of_mem_filter hkept) hmem
    · rw [List.singleton_injective hx, List.mem_append, not_or]
      exact ⟨fun h => hslash.2 (List.mem_append_left _ h), slash_notMem_of_lowerAscii hext'⟩
  · intro hss
    have hdoc := hsplit ext (slash_notMem_of_lowerAscii hext)
    rw [← hjoin, Bytes.split_join hne hss] at hdoc
    subst hdoc
    refine ⟨pre ++ front, pre ++ (dots ++ front), last, ext, ?_, ?_, hext, ?_⟩
    · rw [hd, List.append_assoc]
    · rw [hr]
      simp
    · rw [List.filter_append, List.filter_append, List.filter_append, hnodots, List.nil_append]

variable {p : Parts} {u : Url}

lemma exists_of_escape_slash {s t : Bytes} (h : UrlPart.path.escape s = byte '/' :: t) :
    ∃ s', s = byte '/' :: s' ∧ t = UrlPart.path.escape s' := by
  cases s with
  | nil => cases h
  | cons c s =>
    by_cases hc : c = byte '/'
    · subst hc
      rw [escape_slash_cons, List.cons.injEq] at h
      exact ⟨s, rfl, h.2.symm⟩
    · exfalso
      rw [UrlPart.escape, List.flatMap_cons, if_neg (by simp)] at h
      split at h
      · exact absurd (List.cons.inj h).1 (by decide)
      · exact hc (List.cons.inj h).1

lemma exists_of_append_eq_slash {s t x : Bytes} (hx : byte '/' ∉ x) (h : s ++ x = byte '/' :: t) :
    ∃ s', s = byte '/' :: s' ∧ t = s' ++ x := by
  cases s with
  | nil =>
    rw [List.nil_append] at h
    rw [h] at hx
    exact absurd List.mem_cons_self hx
  | cons c s =>
    obtain ⟨rfl, rfl⟩ := List.cons.inj h
    exact ⟨s, rfl, rfl⟩

lemma hasAuthority_printed (hspells : UrlPart.Spells (stem ++ ext) p.path) (hext : byte '/' ∉ ext)
    (hauthority : hasAuthority p.path = false) (hsegments : UrlPart.segments? p.path = .ok ss)
    (hss : ∀ s ∈ ss, byte '/' ∉ s) : hasAuthority (printedParts p u (stem ++ utf8 ".html")).path = false := by
  by_contra h
  rw [Bool.not_eq_false] at h
  obtain ⟨t, ht, hhead⟩ := exists_of_hasAuthority h
  rw [printedParts] at ht
  rcases dotSegment_cases (u.user.map printUser) (UrlPart.path.escape (stem ++ utf8 ".html")) with ⟨hdot, -⟩ | hdot
  · rw [hdot] at ht
    exact absurd (List.cons.inj ht).1 (by decide)
  · rw [hdot] at ht
    obtain ⟨y, hy, ht⟩ := exists_of_escape_slash (t := byte '/' :: t) ht
    obtain ⟨z, rfl, rfl⟩ := exists_of_escape_slash ht.symm
    have hpage : byte '/' ∉ utf8 ".html" := by decide
    obtain ⟨stem, rfl, hrest⟩ := exists_of_append_eq_slash hpage hy
    obtain ⟨stem, rfl, rfl⟩ := exists_of_append_eq_slash hpage hrest.symm
    obtain ⟨v, ss, hv, hspells, hsegments, hss⟩ := UrlPart.exists_of_spells_slash hspells hsegments hss
    obtain ⟨w, ss, rfl, hspells, -⟩ := UrlPart.exists_of_spells_slash hspells hsegments hss
    -- the path has the same two slashes in front, so there is a third one
    have hthird : w.head? = some (byte '/') := by
      by_contra hw
      have htwo : hasAuthority (byte '/' :: byte '/' :: w) = true := hasAuthority_of_head? hw
      rw [hv, htwo] at hauthority
      cases hauthority
    obtain ⟨w, rfl⟩ := List.head?_eq_some_iff.mp hthird
    obtain ⟨x, hx, -⟩ := hspells.exists_of_cons (by decide)
    obtain ⟨stem, rfl, -⟩ := exists_of_append_eq_slash hext hx
    exact hhead (by rw [List.cons_append, escape_slash_cons]; rfl)

lemma segments?_printed (u : Url) (path : Bytes) : ∃ dots : List Bytes, (∀ s ∈ dots, s = utf8 ".") ∧
    UrlPart.segments? (UrlPart.path.escape (printedPath u path)) = .ok (dots ++ Bytes.split (byte '/') path) := by
  rw [UrlPart.segments?_escape, printedPath]
  rcases dotSegment_cases (u.user.map printUser) (UrlPart.path.escape path) with ⟨hdot, -⟩ | hdot
  · refine ⟨[utf8 "."], by simp, ?_⟩
    rw [hdot]
    exact congrArg Except.ok (Bytes.split_append_sep (l := utf8 ".") (by decide) path)
  · exact ⟨[], by simp, by rw [hdot]; rfl⟩

lemma segments?_user {w t : Bytes} {x : UrlUser} (hw : readUser w = .ok x) (ht : UrlPart.segments? t = .ok ss) :
    UrlPart.segments? (utf8 "//" ++ (w ++ [byte '@']) ++ byte '/' :: t) =
      .ok ([[], [], userText x ++ [byte '@']] ++ ss) := by
  have hslash : byte '/' ∉ w ++ [byte '@'] := by
    rw [List.mem_append, not_or]
    exact ⟨fun h => absurd (isUserByte_of_readUser hw _ h) (by decide), by decide⟩
  have hspells := (spells_of_readUser hw).append (.byte (c := byte '@') (by decide) .nil)
  have huser := UrlPart.segments?_slash hslash hspells ht
  have hone := UrlPart.segments?_slash (t := []) List.not_mem_nil .nil huser
  exact UrlPart.segments?_slash (t := []) List.not_mem_nil .nil hone

lemma exists_linkSegments (h : p.Reads u) (hpath : u.path = stem ++ ext) (hext : byte '/' ∉ ext) :
    ∃ pre ss dots stem', linkSegments? p.text = .ok (pre ++ ss) ∧
      linkSegments? (printedParts p u (stem ++ utf8 ".html")).text =
        .ok (pre ++ (dots ++ Bytes.split (byte '/') (stem' ++ utf8 ".html"))) ∧
      (∀ s ∈ dots, s = utf8 ".") ∧ ss ≠ [] ∧ Bytes.join [byte '/'] ss = stem' ++ ext ∧
      pre.length = (if hasAuthority (pathText p.text) then 3 else 0) ∧
      ((∀ s ∈ ss, byte '/' ∉ s) → u.user = none →
        hasAuthority (printedParts p u (stem ++ utf8 ".html")).path = false) := by
  have hspells := h.spells
  have hopens := h.opens
  have hprinted := legible_printed h (stem ++ utf8 ".html")
  rw [linkSegments?, linkSegments?, h.legible.pathText_text, hprinted.pathText_text, printedParts_path]
  rw [hpath] at hspells
  generalize hp : p.user = user, hu : u.user = user' at hopens
  cases hopens with
  | path hauthority =>
    have hfront : p.front = [] := by rw [Parts.front, hp]; rfl
    have hfront' : (printedParts p u (stem ++ utf8 ".html")).front = [] := by rw [Parts.front, printedParts, hu]; rfl
    obtain ⟨ss, hss, hne, hjoin, -⟩ := UrlPart.exists_segments hspells
    obtain ⟨dots, hdots, hsegments⟩ := segments?_printed u (stem ++ utf8 ".html")
    rw [hfront, hfront', List.nil_append, List.nil_append]
    refine ⟨[], ss, dots, stem, hss, hsegments, hdots, hne, hjoin, ?_, ?_⟩
    · rw [hauthority]
      rfl
    · rw [← printedParts_path p]
      exact fun hall _ => hasAuthority_printed hspells hext hauthority hss hall
  | @user w x hw hslash =>
    have hfront : p.front = utf8 "//" ++ (w ++ [byte '@']) := by rw [Parts.front, hp]; rfl
    have hfront' : (printedParts p u (stem ++ utf8 ".html")).front = utf8 "//" ++ (printUser x ++ [byte '@']) := by
      rw [Parts.front, printedParts, hu]
      rfl
    have hprintedPath : printedPath u (stem ++ utf8 ".html") = stem ++ utf8 ".html" := by rw [printedPath, hu]; rfl
    have hlength := (hasAuthority_append hw hslash).1
    obtain ⟨t, ht⟩ := List.head?_eq_some_iff.mp hslash
    rw [ht] at hspells hlength
    obtain ⟨s, hs, hspells⟩ := hspells.exists_of_cons (by decide)
    obtain ⟨stem, rfl, rfl⟩ := exists_of_append_eq_slash hext hs
    obtain ⟨ss, hss, hne, hjoin, -⟩ := UrlPart.exists_segments hspells
    rw [hfront, hfront', hprintedPath, ht, List.cons_append, escape_slash_cons]
    refine ⟨_, ss, [], stem, segments?_user hw hss,
      segments?_user (readUser_printUser x) (UrlPart.segments?_escape _), by simp, hne, hjoin, ?_, ?_⟩
    · rw [hlength]
      rfl
    · exact fun _ hnone => absurd hnone (Option.some_ne_none x)

end Segments

lemma page_ne_star (stem : Bytes) : stem ++ utf8 ".html" ≠ utf8 "*" := by
  intro h
  have hlength := congrArg List.length h
  rw [List.length_append, show (utf8 ".html").length = 5 from rfl, show (utf8 "*").length = 1 from rfl] at hlength
  omega

lemma rewriteDocumentLink_page {r stem : Bytes} {u : Url} (h : parse r = .ok u)
    (hpath : u.path = stem ++ utf8 ".html") : rewriteDocumentLink r = .ok r := by
  have hextension : pathExtension u.path = utf8 ".html" :=
    hpath ▸ pathExtension_append (e := utf8 "html") (by decide) (by decide) stem
  have hfold : Text.equalFold (utf8 ".html") (utf8 ".md") = false := by decide
  rw [rewriteDocumentLink, h]
  dsimp only
  rw [if_pos (by rw [hextension, hfold]; simp)]

lemma exists_of_rewriteDocumentLink {d r : Bytes} (h : rewriteDocumentLink d = .ok r) (hne : r ≠ d) :
    ∃ (p : Parts) (u : Url) (stem ext : Bytes), d = p.text ∧ p.Reads u ∧ u.path = stem ++ ext ∧
      Bytes.lowerAscii ext = utf8 ".md" ∧ r = (printedParts p u (stem ++ utf8 ".html")).text := by
  rw [rewriteDocumentLink] at h
  split at h
  · cases h
  · rename_i u hparse
    dsimp only at h
    split at h
    · exact absurd (Except.ok.inj h).symm hne
    · rename_i hcondition
      simp only [Bool.or_eq_true, not_or, Bool.not_eq_true', Bool.not_eq_false, List.isEmpty_iff]
        at hcondition
      obtain ⟨⟨⟨hscheme, hhost⟩, hempty⟩, hfold⟩ := hcondition
      obtain ⟨stem, hstem⟩ := exists_stem u.path
      have hext := lowerAscii_of_equalFold hfold
      have hstar : u.path ≠ utf8 "*" := by
        intro hstar
        rw [hstar] at hext
        exact absurd hext (by decide)
      have hthree : (pathExtension u.path).length = 3 := (List.length_map _).symm.trans (congrArg List.length hext)
      have htake : u.path.take (u.path.length - (pathExtension u.path).length) = stem := by
        generalize u.path = path, pathExtension u.path = ext at hstem
        rw [hstem, List.length_append, Nat.add_sub_cancel, List.take_left]
      have hne' : stem ++ utf8 ".html" ≠ u.path := by
        intro he
        have hlength := congrArg List.length (he.trans hstem)
        rw [List.length_append, List.length_append, hthree] at hlength
        exact absurd (Nat.add_left_cancel hlength) (by decide)
      obtain ⟨p, rfl, hp⟩ :=
        exists_parts hparse (by simpa using hscheme) (by simpa using hhost) (by simpa using hempty) hstar
      refine ⟨p, u, stem, pathExtension u.path, rfl, hp, hstem, hext, ?_⟩
      rw [← Except.ok.inj h, htake]
      exact printRelative_eq hp hne' (page_ne_star stem)

/-- The destination of a link to a document says, after it is pointed at the page, what it said before: the query and
the fragment are the same, and the segments of the path are, up to dot segments and the extension, exactly when no
slash in the path is written as an escape. Then it is not rewritten any more. -/
theorem rewriteDocumentLink_onlyExtension_iff {d r : Bytes} (h : rewriteDocumentLink d = .ok r) (hne : r ≠ d) :
    queryText? r = queryText? d ∧
      (∃ f, UrlPart.fragment.unescape? (fragmentText d) = .ok f ∧ UrlPart.fragment.unescape? (fragmentText r) = .ok f) ∧
      (OnlyExtension d r ↔ ¬ EscapesSlash d) ∧ (¬ EscapesSlash d → rewriteDocumentLink r = .ok r) := by
  obtain ⟨p, u, stem, ext, rfl, hp, hpath, hext, rfl⟩ := exists_of_rewriteDocumentLink h hne
  have hslash := slash_notMem_of_lowerAscii hext
  have hlegible := hp.legible
  have hprinted := legible_printed hp (stem ++ utf8 ".html")
  obtain ⟨pre, ss, dots, stem', hd, hr, hdots, hnil, hjoin, hlength, hauthority⟩ :=
    exists_linkSegments hp hpath hslash
  have hescapes : ¬ EscapesSlash p.text ↔ ∀ s ∈ ss, byte '/' ∉ s := by
    have hdrop : (pre ++ ss).drop (if hasAuthority (pathText p.text) then 3 else 0) = ss := by
      rw [← hlength, List.drop_left]
    constructor
    · intro h s hs hmem
      exact h ⟨pre ++ ss, hd, s, by rwa [hdrop], hmem⟩
    · rintro hss ⟨ss', hd', s, hs, hmem⟩
      obtain rfl := Except.ok.inj (hd.symm.trans hd')
      exact hss s (by rwa [hdrop] at hs) hmem
  refine ⟨?_, ⟨u.fragment, ?_, ?_⟩, ?_, ?_⟩
  · rw [hlegible.queryText?_text, hprinted.queryText?_text]
    rfl
  · rw [hlegible.fragmentText_text, UrlPart.unescape?_eq_ok_iff rfl]
    exact ((readPart_eq_ok_iff rfl).mp hp.fragment).1
  · rw [hprinted.fragmentText_text, UrlPart.unescape?_eq_ok_iff rfl]
    exact spells_fragment p u _
  · rw [hescapes]
    exact onlyExtension_iff hd hr hdots hnil hjoin hext
  · intro hplain
    have hfront : u.user ≠ none → (stem ++ utf8 ".html").head? = some (byte '/') := by
      intro huser
      obtain ⟨t, ht⟩ := List.head?_eq_some_iff.mp (hp.opens.slash huser)
      have hspells := hp.spells
      rw [ht, hpath] at hspells
      obtain ⟨s, hs, -⟩ := hspells.exists_of_cons (by decide)
      obtain ⟨stem, rfl, -⟩ := exists_of_append_eq_slash hslash hs
      rfl
    obtain ⟨w, hreads⟩ := reads_printed hp (hauthority (hescapes.mp hplain)) hfront
    rw [printedPath, ← List.append_assoc] at hreads
    have hpage := parse_text hreads (List.append_ne_nil_of_right_ne_nil _ (by decide)) (page_ne_star _)
    exact rewriteDocumentLink_page hpage rfl

/-- A colon that was escaped is printed as it is, behind a dot segment. -/
theorem rewriteDocumentLink_onlyExtension_iff_colon :
    let d := utf8 "a%3Ab.Md?x=1#s"
    let r := utf8 "./a:b.html?x=1#s"
    (rewriteDocumentLink d = .ok r ∧ r ≠ d) ∧ OnlyExtension d r ∧ rewriteDocumentLink r = .ok r := by
  intro d r
  have h : rewriteDocumentLink d = .ok r := by decide
  have hne : r ≠ d := by decide
  have hplain : ¬ EscapesSlash d := by
    rintro ⟨ss, hss, s, hs, hmem⟩
    have hd : linkSegments? d = .ok [utf8 "a:b.Md"] := by decide
    obtain rfl := Except.ok.inj (hd.symm.trans hss)
    have hnone : ∀ s ∈ [utf8 "a:b.Md"].drop (if hasAuthority (pathText d) then 3 else 0), byte '/' ∉ s := by decide
    exact hnone s hs hmem
  obtain ⟨-, -, honly, hagain⟩ := rewriteDocumentLink_onlyExtension_iff h hne
  exact ⟨⟨h, hne⟩, honly.mpr hplain, hagain hplain⟩

/-- A slash that was escaped becomes one that ends a segment, and the link points into another directory. -/
theorem rewriteDocumentLink_escaped_slash :
    let d := utf8 "docs/a%2Fb.md"
    let r := utf8 "docs/a/b.html"
    rewriteDocumentLink d = .ok r ∧ ¬ OnlyExtension d r := by
  intro d r
  have hd : linkSegments? d = .ok ([utf8 "docs"] ++ [utf8 "a/b.md"]) := by decide
  have hr : linkSegments? r = .ok ([utf8 "docs", utf8 "a"] ++ [utf8 "b.html"]) := by decide
  refine ⟨by decide, ?_⟩
  rintro ⟨before, after, stem, ext, hbefore, hafter, -, hfilter⟩
  obtain ⟨rfl, -⟩ := List.append_inj' (Except.ok.inj (hd.symm.trans hbefore)) rfl
  obtain ⟨rfl, -⟩ := List.append_inj' (Except.ok.inj (hr.symm.trans hafter)) rfl
  revert hfilter
  decide

end MarkdownTidy
