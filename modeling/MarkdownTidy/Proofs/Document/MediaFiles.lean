import Mathlib.Data.List.Basic
import MarkdownTidy.Document.Transform

/-! Players for media files. They stand where images of media files stood, or paragraphs with nothing else in them, and
nothing else in a document moves. -/

namespace MarkdownTidy

/-- The node at a place, which tells child by child how to get there. -/
def Node.at? : Node → List Nat → Option Node
  | n, [] => some n
  | n, i :: place => n.children[i]?.bind fun c => c.at? place

mutual

def Node.inOrder (above : List Node) : Node → List (List Node × Node)
  | .mk info children => (above, .mk info children) :: inOrderIn (.mk info children :: above) children

def Node.inOrderIn (above : List Node) : List Node → List (List Node × Node)
  | [] => []
  | n :: ns => n.inOrder above ++ inOrderIn above ns

/-- The places of all images, in document order. -/
def Node.imagePlaces : Node → List (List Nat)
  | .mk info children =>
    (match info.kind with
      | .image .. => [[]]
      | _ => []) ++ imagePlacesIn 0 children

def Node.imagePlacesIn (i : Nat) : List Node → List (List Nat)
  | [] => []
  | n :: ns => n.imagePlaces.map (i :: ·) ++ imagePlacesIn (i + 1) ns

end

namespace Transform

def showsMedia (n : Node) : Bool := (player? n.kind).isSome

/-- What takes the place of a node, if anything does. -/
def successor? (n : Node) : Option Node :=
  match player? n.kind with
  | some p => some p
  | none =>
    match n.kind, n.children with
    | .paragraph, [c] => player? c.kind
    | _, _ => none

/-- Replaces the image at a place if it shows a media file, or else the paragraph that has only this image. A place that
is gone is left alone. -/
def replaceAt : Node → List Nat → Node
  | n, [] => n
  | n, [i] =>
    match n.children[i]?.bind fun c => player? c.kind with
    | none => n
    | some p => if n.kind = .paragraph ∧ n.children.length = 1 then p else n.withChildren (n.children.set i p)
  | n, i :: j :: place => n.withChildren (n.children.modify i fun c => replaceAt c (j :: place))

def Kept (doc : Node) (place : List Nat) : Prop :=
  ∀ way i rest n, place = way ++ i :: rest → doc.at? way = some n → successor? n = none

def isPlayer : Kind → Bool
  | .media .. => true
  | _ => false

def played? (k : Kind) : Option Kind :=
  match k with
  | .media .. => some k
  | _ => (player? k).map (·.kind)

variable {n m p c doc : Node} {k : Kind} {place : List Nat}

/-! ### One node -/

lemma exists_of_player? (h : player? k = some p) :
    ∃ d title extension m,
      k = .image d title ∧ medium? d = some (extension, m) ∧ p = .leaf (.media d extension m) [] := by
  cases k with
  | image d title =>
    rw [player?, Option.map_eq_some_iff] at h
    obtain ⟨⟨extension, m⟩, hm, rfl⟩ := h
    exact ⟨d, title, extension, m, rfl, hm, rfl⟩
  | _ => cases h

lemma isPlayer_of_player? (h : player? k = some p) : isPlayer p.kind = true ∧ p.children = [] := by
  obtain ⟨d, title, extension, m, -, -, rfl⟩ := exists_of_player? h
  exact ⟨rfl, rfl⟩

lemma player?_eq_none_of_isPlayer (h : isPlayer k = true) : player? k = none := by
  cases k with
  | media d extension m => rfl
  | _ => cases h

lemma successor?_eq_some_iff : successor? n = some p ↔
    player? n.kind = some p ∨ n.kind = .paragraph ∧ ∃ c, n.children = [c] ∧ player? c.kind = some p := by
  rw [successor?]
  constructor
  · intro h
    split at h
    · rename_i q hq
      exact .inl (hq.trans h)
    · split at h
      · rename_i c hk hc
        exact .inr ⟨hk, c, hc, h⟩
      · cases h
  · rintro (h | ⟨hk, c, hc, h⟩)
    · rw [h]
    · rw [hk, hc]
      exact h

lemma isPlayer_of_successor? (h : successor? n = some p) : isPlayer p.kind = true ∧ p.children = [] := by
  rcases successor?_eq_some_iff.mp h with h | ⟨-, c, -, h⟩
  · exact isPlayer_of_player? h
  · exact isPlayer_of_player? h

lemma player?_eq_none_of_successor? (h : successor? n = none) : player? n.kind = none := by
  cases hp : player? n.kind with
  | none => rfl
  | some p => rw [successor?_eq_some_iff.mpr (.inl hp)] at h; cases h

lemma embedMediaIn_eq_map (ns : List Node) : embedMediaIn ns = ns.map embedMedia := by
  induction ns with
  | nil => rfl
  | cons n ns ih => rw [embedMediaIn, ih, List.map_cons]

lemma embedMedia_of_some (h : successor? n = some p) : embedMedia n = p := by
  obtain ⟨info, children⟩ := n
  rw [embedMedia]
  rcases successor?_eq_some_iff.mp h with h | ⟨hk, c, hc, h⟩
  · rw [show player? info.kind = some p from h]
  · have hk : info.kind = .paragraph := hk
    have hc : children = [c] := hc
    rw [hk, hc, List.map_cons, List.map_nil, h]
    rfl

lemma embedMedia_of_none (h : successor? n = none) : embedMedia n = .mk n.info (n.children.map embedMedia) := by
  have hn := player?_eq_none_of_successor? h
  obtain ⟨info, children⟩ := n
  rw [embedMedia, show player? info.kind = none from hn, embedMediaIn_eq_map]
  dsimp only
  split
  · rename_i p hk hp
    exfalso
    obtain ⟨c, hc, hcp⟩ := List.map_eq_singleton_iff.mp hp
    have hsome : successor? (.mk info children) = some p := successor?_eq_some_iff.mpr (.inr ⟨hk, c, hc, hcp⟩)
    rw [hsome] at h
    cases h
  · rfl

lemma player?_embedMedia (n : Node) : player? (embedMedia n).kind = none := by
  cases h : successor? n with
  | some p =>
    rw [embedMedia_of_some h]
    exact player?_eq_none_of_isPlayer (isPlayer_of_successor? h).1
  | none =>
    rw [embedMedia_of_none h]
    exact player?_eq_none_of_successor? (n := n) h

/-! ### Places -/

lemma kept_nil (doc : Node) : Kept doc [] := by
  intro way i rest n h
  simp at h

lemma kept_cons {i : Nat} :
    Kept doc (i :: place) ↔ successor? doc = none ∧ ∀ c, doc.children[i]? = some c → Kept c place := by
  constructor
  · intro h
    refine ⟨h [] i place doc rfl rfl, fun c hc way j rest n hplace hn => ?_⟩
    refine h (i :: way) j rest n (by rw [hplace]; rfl) ?_
    rw [Node.at?, hc]
    exact hn
  · rintro ⟨hdoc, h⟩ way j rest n hplace hn
    cases way with
    | nil =>
      obtain rfl : doc = n := Option.some.inj hn
      exact hdoc
    | cons k way =>
      rw [List.cons_append, List.cons.injEq] at hplace
      obtain ⟨rfl, hplace⟩ := hplace
      rw [Node.at?, Option.bind_eq_some_iff] at hn
      obtain ⟨c, hc, hn⟩ := hn
      exact h c hc way j rest n hplace hn

lemma at?_embedMedia : (embedMedia doc).at? place = some m ↔
    Kept doc place ∧ ∃ n, doc.at? place = some n ∧ embedMedia n = m := by
  induction place generalizing doc with
  | nil => simp [Node.at?, kept_nil]
  | cons i place ih =>
    rw [kept_cons]
    cases h : successor? doc with
    | some p => simp [embedMedia_of_some h, Node.at?, (isPlayer_of_successor? h).2]
    | none =>
      rw [embedMedia_of_none h, Node.at?, Node.at?, Node.children, List.getElem?_map]
      cases hc : doc.children[i]? with
      | none => simp
      | some c => simp [ih]

/-! ### Document order -/

mutual

lemma suffix_of_mem_inOrder {above : List Node} {x : List Node × Node} (n : Node) (h : x ∈ n.inOrder above) :
    above <:+ x.1 := by
  obtain ⟨info, children⟩ := n
  rw [Node.inOrder, List.mem_cons] at h
  rcases h with rfl | h
  · exact List.suffix_rfl
  · exact (List.suffix_cons _ _).trans (suffix_of_mem_inOrderIn children h)

lemma suffix_of_mem_inOrderIn {above : List Node} {x : List Node × Node} (ns : List Node)
    (h : x ∈ Node.inOrderIn above ns) : above <:+ x.1 := by
  cases ns with
  | nil => cases h
  | cons n ns =>
    rw [Node.inOrderIn, List.mem_append] at h
    rcases h with h | h
    · exact suffix_of_mem_inOrder n h
    · exact suffix_of_mem_inOrderIn ns h

end

def players (nodes : List (List Node × Node)) : List Kind := (nodes.map (·.2.kind)).filter isPlayer

def outermost (nodes : List (List Node × Node)) : List Kind :=
  (nodes.filter fun x => !x.1.any showsMedia).filterMap fun x => played? x.2.kind

section Order

variable {above a : List Node} {ns : List Node}

@[simp] lemma players_append (xs ys : List (List Node × Node)) : players (xs ++ ys) = players xs ++ players ys := by
  rw [players, List.map_append, List.filter_append]
  rfl

@[simp] lemma outermost_append (xs ys : List (List Node × Node)) :
    outermost (xs ++ ys) = outermost xs ++ outermost ys := by
  rw [outermost, List.filter_append, List.filterMap_append]
  rfl

lemma outermost_inOrderIn_eq_nil (h : above.any showsMedia = true) (ns : List Node) :
    outermost (Node.inOrderIn above ns) = [] := by
  rw [outermost, List.filter_eq_nil_iff.mpr, List.filterMap_nil]
  intro x hx
  obtain ⟨t, ht⟩ := suffix_of_mem_inOrderIn ns hx
  rw [← ht, List.any_append, h, Bool.or_true]
  exact Bool.false_ne_true

lemma played?_of_player?_eq_none (h : player? k = none) : played? k = if isPlayer k then some k else none := by
  cases k with
  | image d title =>
    show (player? (.image d title)).map (·.kind) = none
    rw [h, Option.map_none]
  | _ => rfl

lemma outermost_inOrder_of_some (habove : above.any showsMedia = false) (h : player? n.kind = some p) :
    outermost (n.inOrder above) = [p.kind] := by
  have hplayed : played? n.kind = some p.kind := by
    obtain ⟨d, title, extension, m, hk, -, -⟩ := exists_of_player? h
    rw [hk] at h ⊢
    show (player? (.image d title)).map (·.kind) = some p.kind
    rw [h, Option.map_some]
  have hn : showsMedia n = true := by rw [showsMedia, h]; rfl
  obtain ⟨info, children⟩ := n
  rw [Node.inOrder, ← List.singleton_append, outermost_append,
    outermost_inOrderIn_eq_nil (by rw [List.any_cons, hn]; rfl), outermost]
  simp [habove, hplayed]

lemma any_showsMedia_cons (habove : above.any showsMedia = false) (h : player? n.kind = none) :
    (n :: above).any showsMedia = false := by
  rw [List.any_cons, habove, showsMedia, h]
  rfl

lemma outermost_inOrder_of_none (habove : above.any showsMedia = false) (h : player? n.kind = none) :
    outermost (n.inOrder above) =
      (if isPlayer n.kind then [n.kind] else []) ++ outermost (Node.inOrderIn (n :: above) n.children) := by
  have hplayed := played?_of_player?_eq_none h
  obtain ⟨info, children⟩ := n
  rw [Node.inOrder, ← List.singleton_append, outermost_append]
  congr 1
  rw [outermost]
  split <;> simp_all

lemma players_of_isPlayer (h : isPlayer p.kind = true ∧ p.children = []) : players (p.inOrder a) = [p.kind] := by
  obtain ⟨info, children⟩ := p
  obtain ⟨hk, rfl⟩ := h
  rw [Node.inOrder, Node.inOrderIn, players]
  simpa using hk

mutual

lemma players_embedMedia {above a : List Node} (habove : above.any showsMedia = false) (n : Node) :
    players ((embedMedia n).inOrder a) = outermost (n.inOrder above) := by
  obtain ⟨info, children⟩ := n
  cases h : successor? (.mk info children) with
  | some p =>
    rw [embedMedia_of_some h, players_of_isPlayer (isPlayer_of_successor? h)]
    rcases successor?_eq_some_iff.mp h with hp | ⟨hk, c, hc, hp⟩
    · rw [outermost_inOrder_of_some habove hp]
    · have hn : player? (Node.mk info children).kind = none := by rw [hk]; rfl
      rw [outermost_inOrder_of_none habove hn, hk, hc, Node.inOrderIn, Node.inOrderIn, List.append_nil,
        outermost_inOrder_of_some (any_showsMedia_cons habove hn) hp]
      rfl
  | none =>
    have hn := player?_eq_none_of_successor? h
    rw [embedMedia_of_none h, outermost_inOrder_of_none habove hn, Node.inOrder, ← List.singleton_append,
      players_append]
    refine congrArg₂ (· ++ ·) ?_ (players_embedMediaIn (any_showsMedia_cons habove hn) children)
    cases hk : isPlayer info.kind <;> simp [players, Node.kind, Node.info, hk]

lemma players_embedMediaIn {above a : List Node} (habove : above.any showsMedia = false) (ns : List Node) :
    players (Node.inOrderIn a (ns.map embedMedia)) = outermost (Node.inOrderIn above ns) := by
  cases ns with
  | nil => rfl
  | cons n ns =>
    rw [List.map_cons, Node.inOrderIn, Node.inOrderIn, players_append, outermost_append, players_embedMedia habove n,
      players_embedMediaIn habove ns]

end

end Order

/-! ### One image after the other -/

section Edits

variable {info : Info} {ns : List Node} {places : List (List Nat)}

lemma ne_nil_of_mem_imagePlacesIn {i : Nat} (h : place ∈ Node.imagePlacesIn i ns) : place ≠ [] := by
  induction ns generalizing i with
  | nil => cases h
  | cons n ns ih =>
    rw [Node.imagePlacesIn, List.mem_append, List.mem_map] at h
    rcases h with ⟨q, -, rfl⟩ | h
    · exact List.cons_ne_nil _ _
    · exact ih h

lemma foldl_replaceAt_of_children (h : n.children = []) (places : List (List Nat)) : places.foldl replaceAt n = n := by
  induction places with
  | nil => rfl
  | cons place places ih =>
    have hstep : replaceAt n place = n := by
      obtain ⟨info, children⟩ := n
      obtain rfl : children = [] := h
      match place with
      | [] => rfl
      | [i] => simp [replaceAt, Node.children]
      | i :: j :: rest => simp [replaceAt, Node.withChildren, Node.children, Node.info]
    rw [List.foldl_cons, hstep, ih]

lemma modify_append_cons (f : Node → Node) (before after : List Node) (c : Node) :
    (before ++ c :: after).modify before.length f = before ++ f c :: after := by
  induction before with
  | nil => rfl
  | cons b before ih => simpa using ih

lemma foldl_replaceAt_below (h : ∀ place ∈ places, place ≠ []) (before after : List Node) (c : Node) :
    (places.map (before.length :: ·)).foldl replaceAt (.mk info (before ++ c :: after)) =
      .mk info (before ++ places.foldl replaceAt c :: after) := by
  induction places generalizing c with
  | nil => rfl
  | cons place places ih =>
    rw [List.forall_mem_cons] at h
    obtain ⟨j, rest, rfl⟩ := List.exists_cons_of_ne_nil h.1
    have hstep : replaceAt (.mk info (before ++ c :: after)) (before.length :: j :: rest) =
        .mk info (before ++ replaceAt c (j :: rest) :: after) := by
      rw [replaceAt, Node.withChildren, Node.children, modify_append_cons]
      rfl
    rw [List.map_cons, List.foldl_cons, hstep, List.foldl_cons, ih h.2]

lemma imagePlaces_eq (n : Node) : n.imagePlaces = Node.imagePlacesIn 0 n.children ∨
    n.imagePlaces = [] :: Node.imagePlacesIn 0 n.children := by
  obtain ⟨info, children⟩ := n
  rw [Node.imagePlaces]
  split
  · exact .inr rfl
  · exact .inl rfl

lemma imagePlaces_of_some (h : player? n.kind = some p) : n.imagePlaces = [] :: Node.imagePlacesIn 0 n.children := by
  obtain ⟨d, title, extension, m, hk, -, -⟩ := exists_of_player? h
  obtain ⟨info, children⟩ := n
  rw [Node.imagePlaces, show info.kind = .image d title from hk]
  rfl

lemma foldl_imagePlaces (n : Node) :
    n.imagePlaces.foldl replaceAt n = (Node.imagePlacesIn 0 n.children).foldl replaceAt n := by
  rcases imagePlaces_eq n with h | h
  · rw [h]
  · rw [h, List.foldl_cons, replaceAt]

lemma foldl_child {before after : List Node} {c : Node}
    (hc : player? c.kind = none → c.imagePlaces.foldl replaceAt c = embedMedia c)
    (halone : info.kind = .paragraph → (before ++ c :: after).length = 1 → player? c.kind = none) :
    (c.imagePlaces.map (before.length :: ·)).foldl replaceAt (.mk info (before ++ c :: after)) =
      .mk info (before ++ embedMedia c :: after) := by
  have hinner : ∀ place ∈ Node.imagePlacesIn 0 c.children, place ≠ [] := fun _ => ne_nil_of_mem_imagePlacesIn
  have hchild : (before ++ c :: after)[before.length]? = some c := by simp
  cases h : player? c.kind with
  | some p =>
    have hfirst : replaceAt (.mk info (before ++ c :: after)) [before.length] = .mk info (before ++ p :: after) := by
      rw [replaceAt, Node.children, hchild, Option.bind_some, h]
      dsimp only
      rw [if_neg]
      · simp [Node.withChildren, Node.info]
      · rintro ⟨hk, hl⟩
        rw [halone hk hl] at h
        cases h
    -- its own place comes first, and the places inside of it are gone by then
    have hembed : embedMedia c = p := embedMedia_of_some (successor?_eq_some_iff.mpr (.inl h))
    rw [imagePlaces_of_some h, List.map_cons, List.foldl_cons, hfirst, foldl_replaceAt_below hinner,
      foldl_replaceAt_of_children (isPlayer_of_player? h).2, hembed]
  | none =>
    have hfirst : replaceAt (.mk info (before ++ c :: after)) [before.length] = .mk info (before ++ c :: after) := by
      rw [replaceAt, Node.children, hchild, Option.bind_some, h]
    have hfold := hc h
    -- an image that shows no media file has a place too, where nothing happens
    rw [foldl_imagePlaces] at hfold
    rcases imagePlaces_eq c with hp | hp
    · rw [hp, foldl_replaceAt_below hinner, hfold]
    · rw [hp, List.map_cons, List.foldl_cons, hfirst, foldl_replaceAt_below hinner, hfold]

mutual

lemma foldl_replaceAt (n : Node) (h : player? n.kind = none) : n.imagePlaces.foldl replaceAt n = embedMedia n := by
  obtain ⟨info, children⟩ := n
  rw [foldl_imagePlaces]
  cases hs : successor? (.mk info children) with
  | some p =>
    obtain ⟨hk, c, hc, hp⟩ :=
      (successor?_eq_some_iff.mp hs).resolve_left (by rw [h]; exact Option.some_ne_none p ∘ Eq.symm)
    obtain rfl : children = [c] := hc
    have hfirst : replaceAt (.mk info [c]) [0] = p := by
      rw [replaceAt, Node.children, List.getElem?_cons_zero, Option.bind_some, hp]
      exact if_pos ⟨hk, rfl⟩
    rw [Node.children, Node.imagePlacesIn, Node.imagePlacesIn, List.append_nil, imagePlaces_of_some hp, List.map_cons,
      List.foldl_cons, hfirst, foldl_replaceAt_of_children (isPlayer_of_player? hp).2, embedMedia_of_some hs]
  | none =>
    have halone : info.kind = .paragraph → ([] ++ children).length = 1 → ∀ c ∈ children, player? c.kind = none := by
      intro hk hl c hc
      obtain ⟨d, rfl⟩ := List.length_eq_one_iff.mp hl
      obtain rfl := List.mem_singleton.mp hc
      by_contra hne
      obtain ⟨p, hp⟩ := Option.ne_none_iff_exists'.mp hne
      have hsome : successor? (.mk info [c]) = some p := successor?_eq_some_iff.mpr (.inr ⟨hk, c, rfl, hp⟩)
      rw [hsome] at hs
      cases hs
    rw [embedMedia_of_none hs]
    exact foldl_replaceAt_children info [] children halone

lemma foldl_replaceAt_children (info : Info) (before ns : List Node)
    (halone : info.kind = .paragraph → (before ++ ns).length = 1 → ∀ c ∈ ns, player? c.kind = none) :
    (Node.imagePlacesIn before.length ns).foldl replaceAt (.mk info (before ++ ns)) =
      .mk info (before ++ ns.map embedMedia) := by
  cases ns with
  | nil => simp [Node.imagePlacesIn]
  | cons c ns =>
    have hrest := foldl_replaceAt_children info (before ++ [embedMedia c]) ns (by
      intro hk hl d hd
      exact halone hk (by simpa using hl) d (List.mem_cons_of_mem _ hd))
    rw [Node.imagePlacesIn, List.foldl_append, foldl_child (fun h => foldl_replaceAt c h) fun hk hl =>
      halone hk hl c List.mem_cons_self]
    simpa using hrest

end

end Edits

/-- Players for media files. All images are found first and replaced in document order, whatever earlier replacements
took out of the tree. No image of a media file is left; the players are, in document order, those for the images that
are in no other such image; a place keeps its node unless it is the place of such an image, of a paragraph with nothing
else in it, or inside of one; and such a paragraph, no other, gives its place to the player. -/
theorem embedMedia_frame (hdoc : doc.kind = .document) :
    doc.imagePlaces.foldl replaceAt doc = embedMedia doc ∧
      (∀ place m d title, (embedMedia doc).at? place = some m → m.kind = .image d title → medium? d = none) ∧
      players ((embedMedia doc).inOrder []) = outermost (doc.inOrder []) ∧
      (∀ place n, Kept doc place → doc.at? place = some n →
        (∀ p, successor? n = some p → (embedMedia doc).at? place = some p) ∧
        (successor? n = none →
          ∃ m, (embedMedia doc).at? place = some m ∧ m.info = n.info ∧ m.children.length = n.children.length) ∧
        (n.kind = .paragraph → ∀ p, p.kind ≠ .paragraph →
          ((embedMedia doc).at? place = some p ↔ ∃ c, n.children = [c] ∧ player? c.kind = some p))) ∧
      ∀ place m, (embedMedia doc).at? place = some m → Kept doc place ∧ (doc.at? place).isSome = true := by
  have hroot : player? doc.kind = none := by rw [hdoc]; rfl
  refine ⟨foldl_replaceAt doc hroot, ?_, players_embedMedia rfl doc, ?_, ?_⟩
  · intro place m d title hm hk
    obtain ⟨-, n, -, rfl⟩ := at?_embedMedia.mp hm
    have hnone := player?_embedMedia n
    rw [hk, player?, Option.map_eq_none_iff] at hnone
    exact hnone
  · intro place n hkept hn
    have hat : (embedMedia doc).at? place = some (embedMedia n) := at?_embedMedia.mpr ⟨hkept, n, hn, rfl⟩
    refine ⟨fun p hp => embedMedia_of_some hp ▸ hat, fun hnone => ⟨_, hat, ?_, ?_⟩, fun hk p hpk => ?_⟩
    · rw [embedMedia_of_none hnone]
      rfl
    · rw [embedMedia_of_none hnone]
      exact List.length_map _
    · rw [hat, Option.some.injEq]
      constructor
      · rintro rfl
        cases hs : successor? n with
        | some p =>
          rw [embedMedia_of_some hs]
          exact ((successor?_eq_some_iff.mp hs).resolve_left (by rw [hk]; exact nofun)).2
        | none =>
          rw [embedMedia_of_none hs] at hpk
          exact absurd hk hpk
      · rintro ⟨c, hc, hp⟩
        exact embedMedia_of_some (successor?_eq_some_iff.mpr (.inr ⟨hk, c, hc, hp⟩))
  · intro place m hm
    obtain ⟨hkept, n, hn, -⟩ := at?_embedMedia.mp hm
    exact ⟨hkept, by rw [hn]; rfl⟩

/-- An image inside of the text of another that is alone in its paragraph, and one beside other text. -/
theorem embedMedia_frame_nested :
    let image (d : String) (inside : List Node) : Node := .leaf (.image (utf8 d) none) inside
    let doc : Node := .leaf .document [.leaf .paragraph [image "a.MP3" [image "b.mp4" []]],
      .leaf .paragraph [image "c.png" [image "d.ogv" []], .leaf .codeSpan []]]
    doc.kind = .document ∧
      players ((embedMedia doc).inOrder []) =
        [.media (utf8 "a.MP3") (utf8 "mp3") .audio, .media (utf8 "d.ogv") (utf8 "ogv") .video] := by
  intro image doc
  have hdoc : doc.kind = .document := rfl
  refine ⟨hdoc, (embedMedia_frame hdoc).2.2.1.trans ?_⟩
  decide

end Transform

end MarkdownTidy
