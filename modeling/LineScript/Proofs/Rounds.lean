import LineScript.Execution.Block

namespace LineScript

open Exec

/-- The state in which a loop over integers starts the round with the given number. -/
def State.startRound (s : State) (i : Int) : State :=
  { s with vars := s.vars.set s.blocks.forLoop.variableName (.int i) }

/-- From a state in which a loop over integers has come to a number, one of its rounds starts in
another state. -/
inductive ForRound (m : Machine) (bound : Nat) (last : Int) : Int → State → State → Prop
  | here {i : Int} {s : State} (hle : i ≤ last) : ForRound m bound last i s (s.startRound i)
  | later {i : Int} {s t u : State} (hle : i ≤ last)
      (hround : Execution.runRound m bound s.blocks.forLoop.body (s.startRound i) = .ok true t)
      (hrest : ForRound m bound last (i + 1) t u) : ForRound m bound last i s u

/-- From a state in which a loop comes to its condition, one of its rounds starts in another
state. -/
inductive WhileRound (m : Machine) (bound : Nat) (id : BodyId) : State → State → Prop
  | here {s t : State}
      (hcondition : Execution.loopCondition m s.blocks.whileLoop.condition s = .ok true t) :
      WhileRound m bound id s t
  | later {s t u v : State}
      (hcondition : Execution.loopCondition m s.blocks.whileLoop.condition s = .ok true t)
      (hround : Execution.runRound m bound id t = .ok true u)
      (hrest : WhileRound m bound id u v) : WhileRound m bound id s v

theorem ForRound.le {m : Machine} {bound : Nat} {i last : Int} {s u : State}
    (h : ForRound m bound last i s u) : i ≤ last := by
  cases h with
  | here hle => exact hle
  | later hle _ _ => exact hle

theorem WhileRound.first {m : Machine} {bound : Nat} {id : BodyId} {s u : State}
    (h : WhileRound m bound id s u) :
    ∃ t, Execution.loopCondition m s.blocks.whileLoop.condition s = .ok true t := by
  cases h with
  | here hcondition => exact ⟨_, hcondition⟩
  | later hcondition _ _ => exact ⟨_, hcondition⟩

namespace Execution

/-- Executes lines one after the other, and says whether it has come to their end without one that
returns a value. -/
def passes (m : Machine) : List Text → Exec Bool
  | [] => pure true
  | line :: rest =>
      match returned? line with
      | some _ => pure false
      | none => do
          m.line line none
          passes m rest

theorem not_passes_of_returned {m : Machine} {lines : List Text}
    (h : ∃ line ∈ lines, returned? line ≠ none) (s t : State) : passes m lines s ≠ .ok true t := by
  intro hpasses
  induction lines generalizing s with
  | nil =>
      obtain ⟨line, hline, -⟩ := h
      exact absurd hline List.not_mem_nil
  | cons line rest ih =>
      rw [passes] at hpasses
      cases hreturned : returned? line with
      | some source =>
          rw [hreturned] at hpasses
          cases hpasses
      | none =>
          rw [hreturned] at hpasses
          obtain ⟨_, u, -, hrest⟩ := exists_of_bind_ok hpasses
          refine ih ?_ u hrest
          obtain ⟨other, hother, hvalue⟩ := h
          rcases List.mem_cons.mp hother with rfl | hmem
          · exact absurd hreturned hvalue
          · exact ⟨other, hmem, hvalue⟩

end Execution

end LineScript
