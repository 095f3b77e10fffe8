import MarkdownTidy.Proofs.Shortcode.AttributeList
import MarkdownTidy.Proofs.Text.Trimming

/-! Shortcodes written and read again. A printed shortcode is recognized in front of any text, and
nothing but line ends in its values is lost. Which recognized shortcodes survive being written is
settled exactly: a value may hold neither a carriage return nor the closing delimiter, and the first
name may not begin with white space. -/

namespace MarkdownTidy.Shortcode

open Html

def Reader.ofWritten (tidy : Bytes → Bytes) : Reader := .new writtenOpening writtenClosing tidy

/-- What stands between the delimiters of a printed shortcode, the spaces around it aside. -/
def body (sc : Shortcode) : Bytes :=
  if sc.attributes = [] then sc.identifier
  else sc.identifier ++ 32 :: Text.trimSpace (printAttributes sc.attributes)

def withLineFeeds (attrs : Attributes) : Attributes :=
  attrs.map fun a => ⟨a.name, convertNewlines a.value⟩

/-! ### Trimmed lists -/

lemma trimSpace_printAttributes_cons (value : Bytes) (attrs : Attributes) :
    ∃ s, ∀ name, printAttributes (⟨name, value⟩ :: attrs) = name ++ 61 :: (s ++ [34]) ∧
      Text.trimSpace (printAttributes (⟨name, value⟩ :: attrs)) =
        Text.trimStart name ++ 61 :: (s ++ [34]) := by
  obtain ⟨s, hs⟩ := printAttributes_cons value attrs
  refine ⟨s, fun name => ⟨hs name, ?_⟩⟩
  rw [hs, ← List.cons_append, ← List.append_assoc, Text.trimSpace_append (by decide) (by decide),
    Text.trimStart_append (by decide) (by decide), List.append_assoc, List.cons_append]

lemma trimSpace_printAttributes_eq_append {attrs : Attributes} (h : attrs ≠ []) :
    ∃ s, Text.trimSpace (printAttributes attrs) = s ++ [34] := by
  obtain ⟨s, hs⟩ := printAttributes_eq_append h
  exact ⟨_, by rw [hs, Text.trimSpace_append (by decide) (by decide)]⟩

lemma trimSpace_printAttributes {attrs : Attributes}
    (h : ∀ a, attrs.head? = some a → Text.startsBlank a.name = false) :
    Text.trimSpace (printAttributes attrs) = printAttributes attrs := by
  cases attrs with
  | nil => decide
  | cons a attrs =>
    obtain ⟨s, hs⟩ := trimSpace_printAttributes_cons a.value attrs
    rw [(hs a.name).2, (hs a.name).1, Text.trimStart_eq_self (h a rfl)]

/-! ### Reading the body -/

lemma splitName_unspaced {s : Bytes} (h : Text.Unspaced s) :
    splitName (Utf8.codePoints s) = (s, none) := by
  have hp : ∀ r ∈ Utf8.codePoints s, (!Text.isBlank r.code) = true := fun r hr => by simp [h r hr]
  have hd : (Utf8.codePoints s).dropWhile (fun r => !Text.isBlank r.code) = [] := by
    simpa using hp
  have ht : (Utf8.codePoints s).takeWhile (fun r => !Text.isBlank r.code) = Utf8.codePoints s := by
    simpa [Text.Unspaced] using h
  simp [splitName, hd, ht]

lemma splitName_append {s : Bytes} (h : Text.Unspaced s) (t : Bytes) :
    splitName (Utf8.codePoints (s ++ 32 :: t)) = (s, some t) := by
  have hp : ∀ r ∈ Utf8.codePoints s, (!Text.isBlank r.code) = true := fun r hr => by simp [h r hr]
  have hb : Text.isBlank 32 = true := by decide
  rw [Utf8.codePoints_append_ascii (by decide)]
  simp [splitName, List.takeWhile_append_of_pos hp, List.dropWhile_append_of_pos hp, hb]

variable {sc : Shortcode}

lemma startsBlank_body (hid : sc.identifier ≠ []) (hsp : Text.Unspaced sc.identifier) :
    Text.startsBlank sc.body = false := by
  rw [body]
  split
  · exact hsp.startsBlank_eq_false
  · have hf := hsp.startsBlank_eq_false
    obtain ⟨b, s, hs⟩ := List.exists_cons_of_ne_nil hid
    rw [hs] at hf ⊢
    rw [Text.startsBlank, Utf8.codePoints_append_ascii (by decide), Utf8.codePoints_cons,
      List.cons_append, List.head?_cons]
    rw [Text.startsBlank, Utf8.codePoints_cons, List.head?_cons] at hf
    exact hf

lemma isBlank_last_body (hsp : Text.Unspaced sc.identifier) :
    ∀ r, (Utf8.codePoints sc.body).getLast? = some r → Text.isBlank r.code = false := by
  intro r hr
  rw [body] at hr
  split at hr
  · exact hsp r (List.mem_of_getLast? hr)
  · rename_i hne
    obtain ⟨s, hs⟩ := trimSpace_printAttributes_eq_append hne
    rw [hs, ← List.cons_append, ← List.append_assoc, Utf8.codePoints_append_ascii (by decide)] at hr
    obtain rfl : ⟨34, [34]⟩ = r := by simpa using hr
    decide

lemma parse?_body (r : Reader) (m : MarkdownAttributes) (hid : sc.identifier ≠ [])
    (hsp : Text.Unspaced sc.identifier) :
    r.parse? m (32 :: (sc.body ++ [32])) =
      if sc.attributes = [] then (some ⟨sc.identifier, []⟩, m)
      else
        (((r.attributes? m (Text.trimSpace (printAttributes sc.attributes))).1.map
            fun attrs => ⟨sc.identifier, attrs⟩),
          (r.attributes? m (Text.trimSpace (printAttributes sc.attributes))).2) := by
  have hne : sc.body.isEmpty = false := by
    obtain ⟨b, s, hs⟩ := List.exists_cons_of_ne_nil hid
    rw [body]
    split <;> simp [hs]
  rw [Reader.parse?, Text.trimSpace_spaced (startsBlank_body hid hsp) (isBlank_last_body hsp)]
  simp only [hne, Bool.false_eq_true, if_false]
  by_cases ha : sc.attributes = []
  · rw [body, if_pos ha, if_pos ha, splitName_unspaced hsp]
  · rw [body, if_neg ha, if_neg ha, splitName_append hsp]
    simp only
    rcases r.attributes? m (Text.trimSpace (printAttributes sc.attributes)) with ⟨_ | attrs, m'⟩ <;> rfl

/-! ### Finding the delimiters -/

lemma print_eq (hid : sc.identifier ≠ []) (hsp : Text.Unspaced sc.identifier) :
    sc.print = writtenOpening ++ 32 :: (sc.body ++ 32 :: writtenClosing) := by
  have ho : Text.trimSpace writtenOpening = writtenOpening := by decide
  have hc : Text.trimSpace writtenClosing = writtenClosing := by decide
  have ho' : writtenOpening.isEmpty = false := rfl
  have hc' : writtenClosing.isEmpty = false := rfl
  have hi' : sc.identifier.isEmpty = false := by simpa using hid
  by_cases ha : sc.attributes = []
  · have ht : Text.trimSpace (printAttributes []) = [] := by decide
    simp [print, body, ha, ho, hc, ht, ho', hc', hi', hsp.trimSpace_eq, Bytes.join,
      List.intercalate_cons_cons, show utf8 " " = [32] from rfl]
  · obtain ⟨s, hs⟩ := trimSpace_printAttributes_eq_append ha
    have ht : (Text.trimSpace (printAttributes sc.attributes)).isEmpty = false := by simp [hs]
    simp only [print, body, if_neg ha, List.map_cons, List.map_nil, ho, hc, hsp.trimSpace_eq]
    simp [ho', hc', hi', ht, Bytes.join, List.intercalate_cons_cons, show utf8 " " = [32] from rfl]

lemma tokenize?_framed (tidy : Bytes → Bytes) (m : MarkdownAttributes) {s : Bytes}
    (hs : ¬ writtenClosing <:+: s) (rest : Bytes) :
    (Reader.ofWritten tidy).tokenize? m
        (writtenOpening ++ 32 :: (s ++ 32 :: writtenClosing) ++ rest) =
      ((((Reader.ofWritten tidy).parse? m (32 :: (s ++ [32]))).1.map
          fun sc => ((writtenOpening ++ 32 :: (s ++ 32 :: writtenClosing)).length, sc)),
        ((Reader.ofWritten tidy).parse? m (32 :: (s ++ [32]))).2) := by
  have hn : writtenClosing ≠ [] := by decide
  have hspace : (32 : UInt8) ∉ writtenClosing := by decide
  have hs' : ¬ writtenClosing <:+: 32 :: s := by
    rw [← List.nil_append (32 :: s), Bytes.infix_append_cons_iff hspace]
    simpa [hn] using hs
  have hfind : Bytes.find? writtenClosing (32 :: (s ++ 32 :: writtenClosing) ++ rest) =
      some (s.length + 2) := by
    rw [List.cons_append, List.append_assoc, List.cons_append, ← List.cons_append,
      Bytes.find?_append_cons hspace hs', Bytes.find?_self_append hn]
    simp
  have hopen : (Reader.ofWritten tidy).opening = writtenOpening := rfl
  have hclose : (Reader.ofWritten tidy).closing = writtenClosing := rfl
  have hprefix : writtenOpening.isPrefixOf
      (writtenOpening ++ (32 :: (s ++ 32 :: writtenClosing) ++ rest)) = true :=
    List.isPrefixOf_iff_prefix.mpr (List.prefix_append _ _)
  have htake : (32 :: (s ++ 32 :: writtenClosing) ++ rest).take (s.length + 2) = 32 :: (s ++ [32]) := by
    rw [show 32 :: (s ++ 32 :: writtenClosing) ++ rest = (32 :: (s ++ [32])) ++ (writtenClosing ++ rest) by
      simp]
    exact List.take_left' (by simp)
  rw [List.append_assoc, Reader.tokenize?, hopen, hclose, hprefix]
  simp only [Bool.not_true, Bool.false_eq_true, if_false, List.drop_left]
  rw [hfind]
  simp only [htake]
  rcases (Reader.ofWritten tidy).parse? m (32 :: (s ++ [32])) with ⟨_ | sc, m'⟩
  · rfl
  · simp [Nat.add_comm, Nat.add_left_comm, show writtenClosing.length = 3 from rfl,
      show writtenOpening.length = 3 from rfl]

/-! ### The round trip -/

lemma tokenize?_print_of_isKey (tidy : Bytes → Bytes) {m : MarkdownAttributes}
    (hid : sc.identifier ≠ []) (hsp : Text.Unspaced sc.identifier)
    (hk : ∀ a ∈ sc.attributes, IsKey a.name)
    (hf : ∀ a, sc.attributes.head? = some a → Text.startsBlank a.name = false)
    (hd : (sc.attributes.map fun a => Text.lower a.name).Nodup) (hm : m.spread = false)
    (hn : ∀ a ∈ sc.attributes, Text.lower a.name ∉ m.names)
    (hc : ¬ writtenClosing <:+: sc.body) (rest : Bytes) :
    (Reader.ofWritten tidy).tokenize? m (sc.print ++ rest) =
      (some (sc.print.length, ⟨sc.identifier, withLineFeeds sc.attributes⟩), m) := by
  have hkeep : (Reader.ofWritten tidy).keep m []
      (sc.attributes.map fun a => (a.name, convertNewlines a.value)) =
        (withLineFeeds sc.attributes, m) := by
    rw [keep_eq _ hm (by simpa using hn) (by simpa [Function.comp_def] using hd) (by simp)]
    simp [withLineFeeds, Function.comp_def]
  rw [print_eq hid hsp, tokenize?_framed tidy m hc, parse?_body _ _ hid hsp,
    trimSpace_printAttributes hf, attributes?_printAttributes _ hk, hkeep]
  by_cases ha : sc.attributes = []
  · simp [ha, withLineFeeds]
  · simp [ha]

lemma isKey_of_unspaced {name : Bytes} (hne : name ≠ []) (hsp : Text.Unspaced name)
    (hb : ∀ b ∈ name, b ≠ byte '/' ∧ b ≠ byte '=' ∧ b ≠ byte '>') : IsKey name := by
  have hspace : ∀ b ∈ name, isTagSpace b = false := by
    intro b hm
    by_contra hs
    simp only [isTagSpace, Bool.not_eq_false, Bool.or_eq_true, beq_iff_eq] at hs
    rcases hs with (((rfl | rfl) | rfl) | rfl) | rfl <;>
      exact absurd (hsp.isBlank_eq_false hm (by decide)) (by decide)
  obtain ⟨b, rest, rfl⟩ := List.exists_cons_of_ne_nil hne
  have h := hb b List.mem_cons_self
  refine ⟨b, rest, rfl, hspace b List.mem_cons_self, h.1, h.2.2, ?_⟩
  intro c hc
  have h := hb c (List.mem_cons_of_mem _ hc)
  simp only [endsKey, hspace c (List.mem_cons_of_mem _ hc), Bool.false_or, Bool.or_eq_false_iff,
    beq_eq_false_iff_ne]
  exact ⟨⟨h.1, h.2.2⟩, h.2.1⟩

lemma withLineFeeds_eq_self_iff {attrs : Attributes} :
    withLineFeeds attrs = attrs ↔ ∀ a ∈ attrs, byte '\r' ∉ a.value := by
  induction attrs with
  | nil => simp [withLineFeeds]
  | cons a attrs ih =>
    rw [withLineFeeds, List.map_cons, List.cons.injEq, ← withLineFeeds, ih, List.forall_mem_cons]
    refine and_congr_left fun _ => ?_
    rw [show byte '\r' = 13 from rfl, ← convertNewlines_eq_self_iff]
    cases a
    simp

/-- A shortcode with spaceless identifier and names, whose printed form has the closing delimiter at
its end only, is read back from any text that begins with that form. -/
theorem tokenize?_print_append (tidy : Bytes → Bytes) (m : MarkdownAttributes) (sc : Shortcode)
    (rest : Bytes) (hid : sc.identifier ≠ [] ∧ Text.Unspaced sc.identifier)
    (hnames : ∀ a ∈ sc.attributes, a.name ≠ [] ∧ Text.Unspaced a.name ∧
      ∀ b ∈ a.name, b ≠ byte '/' ∧ b ≠ byte '=' ∧ b ≠ byte '>')
    (hdistinct : (sc.attributes.map fun a => Text.lower a.name).Nodup)
    (hvalues : ∀ a ∈ sc.attributes, byte '\r' ∉ a.value)
    (hclosing : ¬ writtenClosing <:+: sc.print.dropLast) (hfixed : m.spread = false)
    (hunheld : ∀ a ∈ sc.attributes, Text.lower a.name ∉ m.names) :
    (Reader.new (utf8 "\x7b\x7b<") (utf8 ">\x7d\x7d") tidy).tokenize? m (sc.print ++ rest) =
      (some (sc.print.length, sc), m) := by
  have hc : ¬ writtenClosing <:+: sc.body := by
    intro h
    have hend : (32 :: writtenClosing).dropLast = [32, 62, 125] := by decide
    refine hclosing (h.trans ⟨writtenOpening ++ [32], [32, 62, 125], ?_⟩)
    rw [print_eq hid.1 hid.2, List.dropLast_append_of_ne_nil (by simp),
      List.dropLast_cons_of_ne_nil (by simp), List.dropLast_append_of_ne_nil (by simp), hend]
    simp
  have hf : ∀ a, sc.attributes.head? = some a → Text.startsBlank a.name = false := fun a ha =>
    (hnames a (List.mem_of_head? ha)).2.1.startsBlank_eq_false
  have hk : ∀ a ∈ sc.attributes, IsKey a.name := fun a ha =>
    isKey_of_unspaced (hnames a ha).1 (hnames a ha).2.1 (hnames a ha).2.2
  have h := tokenize?_print_of_isKey tidy hid.1 hid.2 hk hf hdistinct hfixed hunheld hc rest
  rw [withLineFeeds_eq_self_iff.mpr hvalues] at h
  exact h

/-- Quotes, references, angle brackets and no-break spaces in values, capitals in names, and text
after the shortcode. -/
theorem tokenize?_print_append_figure :
    let sc : Shortcode := ⟨utf8 "Figure", [⟨utf8 "altText", utf8 "\"&lt;\" & <b> \u00a0"⟩, ⟨utf8 "K", []⟩]⟩
    let m : MarkdownAttributes := ⟨false, [utf8 "title"]⟩
    (Reader.new (utf8 "\x7b\x7b<") (utf8 ">\x7d\x7d") id).tokenize? m (sc.print ++ utf8 ">\x7d\x7d x") =
      (some (sc.print.length, sc), m) :=
  tokenize?_print_append id _ _ _ (by decide) (by decide +kernel) (by decide) (by decide) (by decide) rfl
    (by decide)

/-! ### Shortcodes that were recognized -/

lemma parse?_spec {r : Reader} {m : MarkdownAttributes} {inner : Bytes}
    (h : (r.parse? m inner).1 = some sc) :
    sc.identifier ≠ [] ∧ Text.Unspaced sc.identifier ∧ sc.identifier <:+: inner ∧
      (sc.attributes = [] ∨ ∃ raw, (r.attributes? m raw).1 = some sc.attributes) := by
  rw [Reader.parse?] at h
  split at h
  · simp at h
  rename_i hne
  have hs := Text.startsBlank_trimSpace inner
  have hi := Text.trimSpace_infix inner
  generalize Text.trimSpace inner = t at h hne hs hi
  have hsplit : Utf8.codePoints t = (Utf8.codePoints t).takeWhile (fun r => !Text.isBlank r.code) ++
      (Utf8.codePoints t).dropWhile fun r => !Text.isBlank r.code :=
    List.takeWhile_append_dropWhile.symm
  have hname : (splitName (Utf8.codePoints t)).1 =
      ((Utf8.codePoints t).takeWhile fun r => !Text.isBlank r.code).flatMap (·.bytes) := rfl
  have hunspaced : Text.Unspaced (splitName (Utf8.codePoints t)).1 := by
    intro x hx
    rw [hname, Utf8.codePoints_isPrefix hsplit] at hx
    simpa using List.mem_takeWhile_imp hx
  have hnonempty : (splitName (Utf8.codePoints t)).1 ≠ [] := by
    obtain ⟨c, u, rfl⟩ := List.exists_cons_of_ne_nil (fun he : t = [] => hne (by simp [he]))
    have hc := Utf8.codePoints_cons c u
    have hb : Text.isBlank (Utf8.decode (c :: u)).1 = false := by
      simpa [Text.startsBlank, hc] using hs
    have hp := Utf8.decode_size_pos c u
    rw [hname, hc, List.takeWhile_cons, hb]
    simp
    omega
  have hinfix : (splitName (Utf8.codePoints t)).1 <:+: inner := by
    refine List.IsInfix.trans ?_ hi
    rw [hname]
    refine ⟨[], ((Utf8.codePoints t).dropWhile fun r => !Text.isBlank r.code).flatMap (·.bytes), ?_⟩
    rw [List.nil_append, ← List.flatMap_append, ← hsplit, Utf8.flatMap_bytes_codePoints]
  rcases hp : splitName (Utf8.codePoints t) with ⟨name, _ | rest⟩
  · rw [hp] at h hunspaced hnonempty hinfix
    obtain rfl : ⟨name, []⟩ = sc := by simpa using h
    exact ⟨hnonempty, hunspaced, hinfix, Or.inl rfl⟩
  · rw [hp] at h hunspaced hnonempty hinfix
    simp only at h
    split at h
    · simp at h
    · rename_i attrs m' hattrs
      obtain rfl : ⟨name, attrs⟩ = sc := by simpa using h
      exact ⟨hnonempty, hunspaced, hinfix, Or.inr ⟨rest, by rw [hattrs]⟩⟩

lemma tokenize?_spec {r : Reader} {m : MarkdownAttributes} {value : Bytes} {n : Nat}
    (h : (r.tokenize? m value).1 = some (n, sc)) :
    ∃ k, Bytes.find? r.closing (value.drop r.opening.length) = some k ∧
      n = r.opening.length + k + r.closing.length ∧
      (r.parse? m ((value.drop r.opening.length).take k)).1 = some sc := by
  rw [Reader.tokenize?] at h
  split at h
  · simp at h
  simp only at h
  split at h
  · simp at h
  · rename_i k hk
    split at h
    · simp at h
    · rename_i sc' m' hparse
      simp only [Option.some.injEq, Prod.mk.injEq] at h
      obtain ⟨rfl, rfl⟩ := h
      exact ⟨k, hk, rfl, by rw [hparse]⟩

lemma tokenize?_eq_append {r : Reader} {m : MarkdownAttributes} {value : Bytes} {n : Nat}
    (h : (r.tokenize? m value).1 = some (n, sc)) :
    r.closing ≠ [] ∧ ∃ u t, value = u ++ r.closing ++ t ∧ n = (u ++ r.closing).length := by
  obtain ⟨k, hk, rfl, hparse⟩ := tokenize?_spec h
  obtain ⟨hid, -, hinfix, -⟩ := parse?_spec hparse
  have hopening : r.opening <+: value := by
    rw [Reader.tokenize?] at h
    split at h
    · simp at h
    · rename_i hp
      simpa using hp
  obtain ⟨body, rfl⟩ := hopening
  rw [List.drop_left] at hk hinfix
  have hclosing : r.closing ≠ [] := by
    intro hc
    have hzero : k = 0 := by
      rw [hc] at hk
      cases body <;> simpa [Bytes.find?] using hk.symm
    exact hid (by simpa [hzero] using hinfix)
  obtain ⟨t, ht⟩ := Bytes.eq_append_of_find? hk
  have hle : k ≤ body.length := by
    have hlen := congrArg List.length ht
    have hpos := List.length_pos_iff.mpr hclosing
    simp only [List.length_append, List.length_take] at hlen
    omega
  refine ⟨hclosing, r.opening ++ body.take k, t, ?_, ?_⟩
  · conv_lhs => rw [ht]
    simp
  · simp [hle, Nat.add_assoc]

lemma attributes_of_parse? {r : Reader} {m : MarkdownAttributes} {inner : Bytes}
    (h : (r.parse? m inner).1 = some sc) : (∀ a ∈ sc.attributes, IsKey a.name) ∧
      (sc.attributes.map fun a => Text.lower a.name).Nodup := by
  obtain ⟨-, -, -, ha | ⟨raw, hraw⟩⟩ := parse?_spec h
  · simp [ha]
  · exact ⟨fun a ha => isKey_of_mem_attributes? r hraw ha, nodup_attributes? r hraw⟩

/-! ### Which shortcodes survive -/

lemma head?_name_of_equals {r : Reader} {m : MarkdownAttributes} {t : Bytes} {a : Attribute}
    {attrs : Attributes} (h : (r.attributes? m (61 :: t)).1 = some (a :: attrs)) :
    a.name.head? = some 61 := by
  have he : isTagSpace 61 = false := by decide
  have hkey : ∀ u, takeKey (61 :: u) = (61 :: u.takeWhile (!endsKey ·), u.dropWhile (!endsKey ·)) :=
    fun u => by simp [takeKey, byte]
  have hwritten : ∃ w ws, writtenNames (61 :: t) = (61 :: w) :: ws := by
    rw [writtenNames, writtenNamesUpTo, List.dropWhile_cons, he]
    exact ⟨_, _, rfl⟩
  obtain ⟨w, ws, hw⟩ := hwritten
  rw [Reader.attributes?] at h
  split at h
  · simp at h
  · rename_i parsed hparsed
    obtain ⟨⟨l, u⟩, hl, rfl⟩ := Option.map_eq_some_iff.mp hparsed
    have hfirst : ∃ k v ps, l = (61 :: k, v) :: ps := by
      rw [List.cons_append, tagAttributesUpTo, List.dropWhile_cons, he] at hl
      simp only [Bool.false_eq_true, if_false, hkey] at hl
      split at hl
      · simp [byte] at *
      split at hl
      · simp at hl
      split at hl
      · simp at hl
      · simp only [List.isEmpty_cons, Bool.false_eq_true, if_false, Option.some.injEq,
          Prod.mk.injEq] at hl
        exact ⟨_, _, _, hl.1.symm⟩
    obtain ⟨k, v, ps, rfl⟩ := hfirst
    simp only [hw, Option.some.injEq] at h
    obtain ⟨q, hq, he⟩ := head?_keep r (a := a) (by rw [h]; rfl)
    rw [← he]
    rcases head?_respell hq with hn | hn <;> rw [hn] <;> rfl

lemma isKey_trimStart {name : Bytes} (hk : IsKey name) (hb : Text.startsBlank name = true)
    (hne : Text.trimStart name ≠ []) : IsKey (Text.trimStart name) := by
  have hdiff : Text.trimStart name ≠ name := fun he => by
    rw [← he, Text.startsBlank_trimStart] at hb
    contradiction
  have hsuffix := Text.trimStart_suffix name
  obtain ⟨b, rest, rfl, -, -, -, hrest⟩ := hk
  rcases List.suffix_cons_iff.mp hsuffix with he | hs
  · exact absurd he hdiff
  · obtain ⟨c, u, hu⟩ := List.exists_cons_of_ne_nil hne
    rw [hu] at hs ⊢
    have hends : ∀ d ∈ c :: u, endsKey d = false := fun d hd => hrest d (hs.subset hd)
    have hc := hends c List.mem_cons_self
    simp only [endsKey_eq, Bool.or_eq_false_iff, beq_eq_false_iff_ne] at hc
    exact ⟨c, u, rfl, hc.1.1.1, hc.1.1.2, hc.1.2, fun d hd => hends d (List.mem_cons_of_mem _ hd)⟩

lemma startsBlank_of_reread {r : Reader} {m : MarkdownAttributes} {a : Attribute} {attrs : Attributes}
    (hk : ∀ b ∈ a :: attrs, IsKey b.name)
    (h : (r.attributes? m (Text.trimSpace (printAttributes (a :: attrs)))).1 = some (a :: attrs)) :
    Text.startsBlank a.name = false := by
  by_contra hb
  rw [Bool.not_eq_false] at hb
  obtain ⟨s, hs⟩ := trimSpace_printAttributes_cons a.value attrs
  rw [(hs a.name).2] at h
  by_cases hne : Text.trimStart a.name = []
  · rw [hne, List.nil_append] at h
    obtain ⟨u, hu⟩ := List.head?_eq_some_iff.mp (head?_name_of_equals h)
    have hequals : Text.isBlank 61 = false := by decide
    rw [hu, Text.startsBlank, Utf8.codePoints_ascii_cons (by decide)] at hb
    simp [hequals] at hb
  · have hkey : ∀ b ∈ (⟨Text.trimStart a.name, a.value⟩ : Attribute) :: attrs, IsKey b.name := by
      intro b hb'
      rcases List.mem_cons.mp hb' with rfl | hb'
      · exact isKey_trimStart (hk a List.mem_cons_self) hb hne
      · exact hk b (List.mem_cons_of_mem _ hb')
    rw [← (hs (Text.trimStart a.name)).1, attributes?_printAttributes r hkey, Option.some.injEq] at h
    obtain ⟨q, hq, he⟩ := head?_keep r (a := a) (by rw [h]; rfl)
    rw [List.map_cons, List.head?_cons, Option.some.injEq] at hq
    subst hq
    have hname : Text.trimStart a.name = a.name := he
    rw [← hname, Text.startsBlank_trimStart] at hb
    contradiction

lemma not_infix_body {tidy : Bytes → Bytes} {m : MarkdownAttributes} {sc' : Shortcode}
    (hid : sc.identifier ≠ []) (hsp : Text.Unspaced sc.identifier)
    (h : ((Reader.ofWritten tidy).tokenize? m sc.print).1 = some (sc.print.length, sc')) :
    ¬ writtenClosing <:+: sc.body := by
  obtain ⟨k, hk, hn, -⟩ := tokenize?_spec h
  have hopen : (Reader.ofWritten tidy).opening = writtenOpening := rfl
  have hclose : (Reader.ofWritten tidy).closing = writtenClosing := rfl
  rw [hopen, hclose, print_eq hid hsp] at hn hk
  rw [List.drop_left] at hk
  have hlen : k = sc.body.length + 2 := by
    simp only [List.length_append, List.length_cons] at hn
    omega
  have hnot := Bytes.not_infix_take_of_find? (by decide) hk
  intro hb
  refine hnot (hb.trans ⟨[32], [32], ?_⟩)
  rw [hlen, show 32 :: (sc.body ++ 32 :: writtenClosing) = (32 :: (sc.body ++ [32])) ++ writtenClosing by
    simp]
  rw [List.take_left' (by simp)]
  simp

lemma infix_printAttribute {a : Attribute} (hk : IsKey a.name) :
    writtenClosing <:+: printAttribute a ↔ writtenClosing <:+: a.value := by
  have hgt : 62 ∉ a.name := by
    obtain ⟨b, rest, hn, -, -, hgt, hrest⟩ := hk
    rw [hn, List.mem_cons, not_or]
    refine ⟨hgt.symm, fun hm => ?_⟩
    have he := hrest 62 hm
    revert he
    decide
  have hname : ¬ writtenClosing <:+: a.name := fun h => hgt (h.subset (by decide))
  have hall : referenceBytes.all (!writtenClosing.contains ·) = true := rfl
  have hdisjoint : ∀ c ∈ referenceBytes, c ∉ writtenClosing := by
    simpa using List.all_eq_true.mp hall
  rw [printAttribute_eq, quotedPair, show a.name ++ [61, 34] ++ escapeValue a.value ++ [34] =
    a.name ++ 61 :: ([] ++ 34 :: (escapeValue a.value ++ 34 :: [])) by simp]
  rw [Bytes.infix_append_cons_iff (by decide), Bytes.infix_append_cons_iff (by decide),
    Bytes.infix_append_cons_iff (by decide), infix_escapeValue_iff (by decide) hdisjoint]
  simp [hname, show writtenClosing ≠ [] by decide]

lemma infix_printAttributes {attrs : Attributes} (hk : ∀ a ∈ attrs, IsKey a.name) :
    writtenClosing <:+: printAttributes attrs ↔ ∃ a ∈ attrs, writtenClosing <:+: a.value := by
  induction attrs with
  | nil => simp [printAttributes, Bytes.join, show writtenClosing ≠ [] by decide]
  | cons a attrs ih =>
    have ha := infix_printAttribute (hk a List.mem_cons_self)
    have hi := ih fun b hb => hk b (List.mem_cons_of_mem _ hb)
    cases attrs with
    | nil => simp [printAttributes_singleton, ha]
    | cons b attrs =>
      rw [printAttributes_cons_cons, Bytes.infix_append_cons_iff (by decide), ha, hi]
      simp

lemma infix_body (hk : ∀ a ∈ sc.attributes, IsKey a.name)
    (hf : ∀ a, sc.attributes.head? = some a → Text.startsBlank a.name = false)
    (hid : ¬ writtenClosing <:+: sc.identifier) :
    writtenClosing <:+: sc.body ↔ ∃ a ∈ sc.attributes, writtenClosing <:+: a.value := by
  rw [body, trimSpace_printAttributes hf]
  split
  · rename_i ha
    simp [ha, hid]
  · rw [Bytes.infix_append_cons_iff (by decide), infix_printAttributes hk]
    simp [hid]

lemma attributes?_of_tokenize?_print {tidy : Bytes → Bytes} {m : MarkdownAttributes}
    (hid : sc.identifier ≠ []) (hsp : Text.Unspaced sc.identifier)
    (hbody : ¬ writtenClosing <:+: sc.body) (hne : sc.attributes ≠ [])
    (h : ((Reader.ofWritten tidy).tokenize? m sc.print).1 = some (sc.print.length, sc)) :
    ((Reader.ofWritten tidy).attributes? m (Text.trimSpace (printAttributes sc.attributes))).1 =
      some sc.attributes := by
  have hread := tokenize?_framed tidy m hbody []
  rw [← print_eq hid hsp, List.append_nil, parse?_body _ _ hid hsp, if_neg hne] at hread
  rw [hread] at h
  simp only [Option.map_map, Option.map_eq_some_iff, Function.comp_apply, Prod.mk.injEq,
    true_and] at h
  obtain ⟨attrs, ha, he⟩ := h
  rw [ha, show attrs = sc.attributes from congrArg Shortcode.attributes he]

/-- A recognized shortcode survives being written exactly when no value holds a carriage return or the
closing delimiter and the first name does not begin with white space. -/
theorem tokenize?_print_iff (tidy : Bytes → Bytes) (value : Bytes) (n : Nat) (sc : Shortcode)
    (h : ((Reader.new (utf8 "\x7b\x7b<") (utf8 ">\x7d\x7d") tidy).tokenize? ⟨false, []⟩ value).1 =
      some (n, sc)) :
    ((Reader.new (utf8 "\x7b\x7b<") (utf8 ">\x7d\x7d") tidy).tokenize? ⟨false, []⟩ sc.print).1 =
        some (sc.print.length, sc) ↔
      (∀ a ∈ sc.attributes, byte '\r' ∉ a.value ∧ ¬ utf8 ">\x7d\x7d" <:+: a.value) ∧
        ∀ a, sc.attributes.head? = some a → Text.startsBlank a.name = false := by
  change ((Reader.ofWritten tidy).tokenize? _ _).1 = _ at h
  change ((Reader.ofWritten tidy).tokenize? _ _).1 = _ ↔ (∀ a ∈ _, _ ∧ ¬ writtenClosing <:+: _) ∧ _
  obtain ⟨k, hfind, -, hparse⟩ := tokenize?_spec h
  obtain ⟨hid, hsp, hinfix, -⟩ := parse?_spec hparse
  obtain ⟨hk, hd⟩ := attributes_of_parse? hparse
  have hidc : ¬ writtenClosing <:+: sc.identifier := fun hc =>
    Bytes.not_infix_take_of_find? (show writtenClosing ≠ [] by decide) hfind (hc.trans hinfix)
  constructor
  · intro hagain
    by_cases hne : sc.attributes = []
    · simp [hne]
    have hbody := not_infix_body hid hsp hagain
    have hsame := attributes?_of_tokenize?_print hid hsp hbody hne hagain
    have hf : ∀ a, sc.attributes.head? = some a → Text.startsBlank a.name = false := by
      intro a ha
      obtain ⟨attrs, hattrs⟩ := List.head?_eq_some_iff.mp ha
      rw [hattrs] at hsame hk
      exact startsBlank_of_reread hk hsame
    rw [trimSpace_printAttributes hf, attributes?_printAttributes _ hk,
      keep_eq _ rfl (by simp) (by simpa [Function.comp_def] using hd) (by simp)] at hsame
    have hfeeds : withLineFeeds sc.attributes = sc.attributes := by
      simpa [withLineFeeds, Function.comp_def] using hsame
    rw [infix_body hk hf hidc] at hbody
    exact ⟨fun a ha => ⟨withLineFeeds_eq_self_iff.mp hfeeds a ha, fun hc => hbody ⟨a, ha, hc⟩⟩, hf⟩
  · rintro ⟨hvalues, hf⟩
    have hbody : ¬ writtenClosing <:+: sc.body := by
      rw [infix_body hk hf hidc]
      rintro ⟨a, ha, hc⟩
      exact (hvalues a ha).2 hc
    have hread := tokenize?_print_of_isKey tidy hid hsp hk hf hd (m := ⟨false, []⟩) rfl (by simp)
      hbody []
    rw [List.append_nil, withLineFeeds_eq_self_iff.mpr fun a ha => (hvalues a ha).1] at hread
    rw [hread]

/-- Entities, a name in capitals, a bare value and a name without a value: written and read again. -/
theorem tokenize?_print_iff_survives :
    let r := Reader.new (utf8 "\x7b\x7b<") (utf8 ">\x7d\x7d") id
    let sc : Shortcode := ⟨utf8 "x", [⟨utf8 "A", utf8 "<\"&"⟩, ⟨utf8 "b", utf8 "c"⟩, ⟨utf8 "d", []⟩]⟩
    (r.tokenize? ⟨false, []⟩ sc.print).1 = some (sc.print.length, sc) :=
  (tokenize?_print_iff id (utf8 "\x7b\x7b<x A='<&quot;&amp;' b=c d>\x7d\x7d...") 30 _
    (by decide +kernel)).mpr (by decide)

/-- A reference to a greater-than sign hides the closing delimiter while a shortcode is read, but not
after it was written. -/
theorem tokenize?_print_hidden_closing :
    let r := Reader.new (utf8 "\x7b\x7b<") (utf8 ">\x7d\x7d") id
    let sc : Shortcode := ⟨utf8 "x", [⟨utf8 "a", utf8 ">\x7d\x7d"⟩]⟩
    (r.tokenize? ⟨false, []⟩ (utf8 "\x7b\x7b< x a=\"&gt;\x7d\x7d\" >\x7d\x7d")).1 = some (20, sc) ∧
      (r.tokenize? ⟨false, []⟩ sc.print).1 = none := by
  decide +kernel

end MarkdownTidy.Shortcode
