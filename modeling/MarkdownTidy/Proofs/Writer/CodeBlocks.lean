import MarkdownTidy.Pipeline.Plugin
import MarkdownTidy.Proofs.Document.TreeKinds
import MarkdownTidy.Proofs.Text.Trimming
import MarkdownTidy.Proofs.Writer.Fencing

/-! The code blocks of a document. Their info strings stand on one line, so the lines between the written fences are
those of the content. -/

namespace MarkdownTidy.Writer

/-- The info string of a code block. -/
def infoString (source : Bytes) : Kind → Bytes
  | .fencedCode info => (info.map fun s => Text.trimSpace (s.value source)).getD []
  | _ => []

lemma newline_notMem_infoString {g : Grammar} {source : Bytes} {k : Kind} (h : k.Read g source) :
    Bytes.newline ∉ infoString source k := by
  cases k
  case fencedCode info =>
    cases info with
    | none => exact List.not_mem_nil
    | some s => exact fun hmem => h s rfl ((Text.trimSpace_infix _).subset hmem)
  all_goals exact List.not_mem_nil

lemma usual_codeBlock {env : Environment} {at_ : Setting} {n : Node} {children : List Written}
    (hk : n.kind = .codeBlock ∨ ∃ info, n.kind = .fencedCode info) :
    usual env at_ n children = .ok (codeBlock (linesValue env.source n.info.lines) (infoString env.source n.kind)) := by
  rcases hk with hk | ⟨info, hk⟩ <;> rw [usual, hk] <;> rfl

/-- A fence is at least three marks long and closed by no line of the content. So the code blocks of a document are
written on lines of which the first opens a fence, the last is the only one to close it, and those between are the
content; backticks are the marks unless the info string has one. -/
theorem codeBlock_enclosed :
    (∀ content mark, mark = byte '`' ∨ mark = byte '~' → ∃ k, 3 ≤ k ∧ fence content mark = List.replicate k mark ∧
      ∀ l ∈ Bytes.split Bytes.newline content, ¬ ClosesFence mark k l) ∧
    ∀ (g : Grammar) names source, ∀ n ∈ (parseDocument g names source).1.children,
      (n.kind = .codeBlock ∨ ∃ info, n.kind = .fencedCode info) →
      ∀ (env : Environment) at_ children, env.source = source →
      let content := linesValue source n.info.lines
      let info := infoString source n.kind
      ∃ mark k body out, (mark = byte '`' ∧ byte '`' ∉ info ∨ mark = byte '~') ∧
        3 ≤ k ∧ fence content mark = List.replicate k mark ∧
        usual env at_ n children = .ok out ∧
        Bytes.split Bytes.newline out = (List.replicate k mark ++ info) :: (body ++ [List.replicate k mark]) ∧
        Bytes.unlines body = endedContent content ∧
        (∀ l ∈ body, ¬ ClosesFence mark k l) ∧ ClosesFence mark k (List.replicate k mark) := by
  have hmarks : ∀ mark, mark = byte '`' ∨ mark = byte '~' → mark ≠ byte ' ' ∧ mark ≠ Bytes.newline := by
    rintro _ (rfl | rfl) <;> decide
  refine ⟨fun content mark hm => fence_spec content (hmarks mark hm).1, ?_⟩
  rintro g names _ n hn hk env at_ children rfl content info
  have hinfo : Bytes.newline ∉ info := newline_notMem_infoString ((parseDocument_read g names env.source).inner n hn).own
  obtain ⟨mark, hmark, hchoice⟩ : ∃ mark, (mark = if info.contains (byte '`') then byte '~' else byte '`') ∧
      (mark = byte '`' ∧ byte '`' ∉ info ∨ mark = byte '~') := by
    refine ⟨_, rfl, ?_⟩
    split
    · exact .inr rfl
    · rename_i h
      exact .inl ⟨rfl, by simpa using h⟩
  obtain ⟨hspace, hnewline⟩ := hmarks mark (hchoice.imp_left And.left)
  obtain ⟨k, hthree, hfence, hopen⟩ := fence_spec content hspace
  obtain ⟨body, hbody, hbreaks, hlines⟩ := exists_unlines_endedContent content
  exact ⟨mark, k, body, _, hchoice, hthree, hfence, usual_codeBlock hk,
    split_codeBlock hinfo hnewline hmark hfence hbody hbreaks, hbody, fun l hl => hopen l (hlines l hl),
    closesFence_replicate mark k⟩

/-- Tildes around a backtick in the info string and a run of four tildes in the content. -/
theorem codeBlock_enclosed_tildes :
    let source := utf8 "~~~ a`b\n```\n  ~~~~ x\n~~~"
    let out := utf8 "~~~~~a`b\n```\n  ~~~~ x\n~~~~~"
    ∃ p n, Pipeline.new {} [] = .ok p ∧ n ∈ (p.parse .initial source).1.children ∧
      (∃ info, n.kind = .fencedCode info) ∧
      usual ⟨{}, [], source, []⟩ ⟨.document, [], none⟩ n [] = .ok out ∧
      ∃ mark k body, Bytes.split Bytes.newline out =
          (List.replicate k mark ++ infoString source n.kind) :: (body ++ [List.replicate k mark]) ∧
        Bytes.unlines body = endedContent (linesValue source n.info.lines) ∧ ∀ l ∈ body, ¬ ClosesFence mark k l := by
  intro source out
  obtain ⟨p, hp, hparse⟩ : ∃ p, Pipeline.new {} [] = .ok p ∧ (p.parse .initial source).1.children.map
      (fun n => (n.kind, usual ⟨{}, [], source, []⟩ ⟨.document, [], none⟩ n [])) =
        [(.fencedCode (some ⟨4, 7, 0⟩), .ok out)] :=
    ⟨_, rfl, by decide +kernel⟩
  obtain ⟨n, hn, hpair⟩ := List.map_eq_singleton_iff.mp hparse
  obtain ⟨hk, hwritten⟩ := Prod.mk.inj hpair
  have hmem : n ∈ (p.parse .initial source).1.children := hn ▸ List.mem_singleton_self n
  obtain ⟨mark, k, body, t, -, -, -, hout, hlines, hbody, hopen, -⟩ := codeBlock_enclosed.2 p.grammar .initial source n hmem
    (.inr ⟨_, hk⟩) ⟨{}, [], source, []⟩ ⟨.document, [], none⟩ [] rfl
  obtain rfl : t = out := Except.ok.inj (hout.symm.trans hwritten)
  exact ⟨p, n, hp, hmem, ⟨_, hk⟩, hwritten, mark, k, body, hlines, hbody, hopen⟩

end MarkdownTidy.Writer
