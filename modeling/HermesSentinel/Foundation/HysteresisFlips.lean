import HermesSentinel.Foundation.Hysteresis

namespace Foundation

/-!
# What a latch flips on

A latch that goes over from one side to the other has just seen the whole run
of observations that this takes.
-/

namespace Hysteresis

variable {α : Type} (machine : Hysteresis α)

/-- A latch that was released and is held has just tripped. -/
theorem window_of_held {history : List α} {newest : α} {before after : Nat}
    (released : machine.run history = .released before)
    (held : machine.run (history ++ [newest]) = .held after) :
    exists window, window <:+ history ++ [newest] ∧ window.length = machine.tripAfter ∧
      forall o, o ∈ window -> machine.trips o = true := by
  have earlier := machine.latched_run history
  have now := machine.latched_run (history ++ [newest])
  rw [released] at earlier
  rw [held] at now
  apply (le_trailingRun_iff machine.trips _ _).mp
  rcases machine.tripped_concat now.1 with tripped | enough
  · exact absurd tripped earlier.1
  · exact enough

/-- A latch that was held and is released has just been cleared. -/
theorem window_of_released {history : List α} {newest : α} {before after : Nat}
    (held : machine.run history = .held before)
    (released : machine.run (history ++ [newest]) = .released after) :
    exists window, window <:+ history ++ [newest] ∧ window.length = machine.clearAfter ∧
      forall o, o ∈ window -> machine.clears o = true := by
  have earlier := machine.latched_run history
  have now := machine.latched_run (history ++ [newest])
  rw [held] at earlier
  rw [released] at now
  apply (le_trailingRun_iff machine.clears _ _).mp
  by_contra few
  exact now.1 (earlier.1.concat (Nat.lt_of_not_le few))

end Hysteresis

end Foundation
