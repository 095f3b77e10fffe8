import MarkdownTidy.Cli.Run
import MarkdownTidy.Proofs.Cli.TreeFiles
import MarkdownTidy.Proofs.Formatter.History

/-! Formatting several documents with one command. It does what one command for each document does, one
after another, and a document is the only thing a command for it may change. -/

namespace MarkdownTidy

namespace Flag

end Flag

namespace Cli

/-! ### The command line -/

structure Report.Alike (R : MarkdownAttributes → MarkdownAttributes → Prop) (r r' : Report) : Prop where
  failure : r.failure = r'.failure
  stdout : r.stdout = r'.stdout
  log : r.log = r'.log
  names : R r.names r'.names

variable {input : Bytes} {o : Options} {range : Option LineRange}

/-- A command that prints what the given commands print. -/
structure Exit.Prints (e : Exit) (es : List Exit) : Prop where
  stdout : e.stdout = es.flatMap (·.stdout)
  stderr : e.stderr = es.flatMap (·.stderr)
  log : e.log = es.flatMap (·.log)

/-- A command that ends as the given commands together: it prints what they print, and fails when one of
them does. -/
structure Exit.Gathers (e : Exit) (es : List Exit) : Prop extends e.Prints es where
  code : e.code = if ∃ x ∈ es, x.code = 1 then 1 else 0

section Gathering

variable {R : MarkdownAttributes → MarkdownAttributes → Prop} {r r' : Report} {e : Exit} {es : List Exit}

lemma Report.Alike.overrun? (h : r.Alike R r') : r.overrun? = r'.overrun? := by
  rw [Report.overrun?, h.failure, Report.overrun?]

lemma Report.Alike.prints (h : r.Alike R r') : r.exit.Prints [r'.exit] := by
  refine ⟨?_, ?_, ?_⟩ <;> simp only [Report.exit, List.flatMap_singleton]
  · exact h.stdout
  · rw [h.overrun?, h.failure]
  · exact h.log

lemma Exit.Prints.cons (h : e.Prints es) (hr : r.Alike R r') (names : MarkdownAttributes) (code : Nat)
    (o : Option Overrun) :
    Exit.Prints ⟨code, r.stdout ++ e.stdout, r.exit.stderr ++ e.stderr, r.log ++ e.log, names, o⟩
      (r'.exit :: es) := by
  have hone := hr.prints
  refine ⟨?_, ?_, ?_⟩
  · simpa [h.stdout, Report.exit] using hr.stdout
  · simpa [h.stderr] using hone.stderr
  · simpa [h.log, Report.exit] using hr.log

lemma Exit.Gathers.cons (h : e.Gathers es) (hr : r.Alike R r') (hgoes : r.overrun? = none)
    (names : MarkdownAttributes) (o : Option Overrun) :
    Exit.Gathers ⟨if r.failure.isSome then 1 else e.code, r.stdout ++ e.stdout, r.exit.stderr ++ e.stderr,
      r.log ++ e.log, names, o⟩ (r'.exit :: es) := by
  refine ⟨h.toPrints.cons hr names _ o, ?_⟩
  have hcode : r'.exit.code = 1 ↔ r'.failure.isSome = true := by
    simp [Report.exit, ← hr.overrun?, hgoes, Option.isSome_iff_ne_none]
  rw [hr.failure, h.code]
  by_cases hfailed : r'.failure.isSome = true
  · rw [if_pos hfailed, if_pos ⟨_, List.mem_cons_self, hcode.mpr hfailed⟩]
  · rw [if_neg hfailed]
    simp [hcode, hfailed]

variable {flags : List Bytes} {carry : MarkdownAttributes → MarkdownAttributes} {files : List Bytes}
  {m n : MarkdownAttributes}

end Gathering

end Cli

end MarkdownTidy
