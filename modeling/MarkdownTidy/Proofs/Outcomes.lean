import Mathlib.Data.List.Basic

/-! Computations that may fail. One that succeeds did so step by step. -/

namespace MarkdownTidy

variable {α β ε : Type} {r : Except ε α} {b : β}

lemma exists_of_map_eq_ok {f : α → β} (h : r.map f = .ok b) : ∃ a, r = .ok a ∧ f a = b := by
  cases r with
  | error e => cases h
  | ok a => exact ⟨a, rfl, Except.ok.inj h⟩

lemma exists_of_bind_eq_ok {f : α → Except ε β} (h : r.bind f = .ok b) : ∃ a, r = .ok a ∧ f a = .ok b := by
  cases r with
  | error e => cases h
  | ok a => exact ⟨a, rfl, h⟩

lemma eq_ok_of_mapError {ε' : Type} {g : ε → ε'} {a : α} (h : r.mapError g = .ok a) : r = .ok a := by
  cases r with
  | error e => cases h
  | ok b => exact congrArg _ (Except.ok.inj h)

end MarkdownTidy
