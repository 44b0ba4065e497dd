import RayScene.Collected
import Mathlib.Init

/-!
# Successful outcomes

A computation that succeeds went through its steps: each step succeeded too. Collected results
succeed if and only if all their parts do.
-/

namespace RayScene

namespace Outcome

variable {ε δ α β : Type}

theorem bind_ok {x : Except ε α} {next : α → Except ε β} {b : β} (h : x >>= next = .ok b) :
    ∃ a, x = .ok a ∧ next a = .ok b := by
  cases x with
  | error e => cases h
  | ok a => exact ⟨a, rfl, h⟩

theorem map_ok {x : Except ε α} {f : α → β} {b : β} (h : x.map f = .ok b) :
    ∃ a, x = .ok a ∧ f a = b := by
  cases x with
  | error e => cases h
  | ok a => exact ⟨a, rfl, Except.ok.inj h⟩

theorem mapError_ok {x : Except ε α} {f : ε → δ} {a : α} (h : x.mapError f = .ok a) :
    x = .ok a := by
  cases x with
  | error e => cases h
  | ok b => exact congrArg _ (Except.ok.inj h)

theorem forM_ok {f : α → Except ε Unit} {xs : List α} (h : xs.forM f = .ok ()) :
    ∀ x ∈ xs, f x = .ok () := by
  induction xs with
  | nil => exact fun x member => absurd member List.not_mem_nil
  | cons x rest ih =>
    obtain ⟨⟨⟩, first, later⟩ := bind_ok h
    intro y member
    rcases List.mem_cons.mp member with rfl | member
    · exact first
    · exact ih later y member

end Outcome

namespace Collected

variable {ε δ α β : Type}

theorem app_ok {f : Collected ε (α → β)} {a : Collected ε α} {b : β} (h : f.app a = .ok b) :
    ∃ g x, g x = b ∧ f = .ok g ∧ a = .ok x := by
  cases f with
  | error es => cases h
  | ok g =>
    cases a with
    | error es => cases h
    | ok x => exact ⟨g, x, Except.ok.inj h, rfl, rfl⟩

theorem rejecting_ok {before : Bool} {a : Collected ε α} {es : List ε} {x : α}
    (h : a.rejecting before es = .ok x) : a = .ok x := by
  cases a with
  | error more => cases h
  | ok y =>
    cases es with
    | nil => exact h
    | cons e es => cases h

theorem relabel_ok {f : ε → δ} {a : Collected ε α} {x : α} (h : a.relabel f = .ok x) :
    a = .ok x := by
  cases a with
  | error es => cases h
  | ok y => exact congrArg _ (Except.ok.inj h)

end Collected

end RayScene
