import LineScript.Proofs.Orderly

/-!
What is executed while a block is open. Every line of a function or a body is then added to the open
body and does nothing else, so evaluations and calls neither print nor write variables.
-/

namespace LineScript

open Exec

namespace Execution

variable {m : Machine} {bound : Nat} {self : Option Address} {s : State}

theorem line_of_stored {line : Text} (hline : Statement.IsStored line) {id : BodyId}
    (hopen : s.blocks.openBody? = some id) (hunlimited : s.allowance = none) :
    Execution.line m bound line self s = appendLine id line s := by
  rw [line_eq, hline.strip_eq, hline.not_silent, if_neg Bool.false_ne_true, if_neg hline.ne_brace,
    bind_of_ok (spend_of_unlimited hunlimited)]
  exact capture_of_open hopen line self

theorem line_closeBrace (hunlimited : s.allowance = none) :
    Execution.line m bound [Text.closeBrace] self s = close m bound s :=
  bind_of_ok (spend_of_unlimited hunlimited) fun _ => close m bound

end Execution

/-- Since another state nothing has been opened, closed or printed. -/
def State.IsCapturing (before s : State) : Prop :=
  s.IsOrderly (fun _ => True) ∧ s.blocks = before.blocks ∧ s.output = before.output

/-- The variables that are written when a block is closed: that of the loop, or that of the handler
if it is the final block. -/
def Blocks.Binds (blocks : Blocks BodyId) (name : Name) : Prop :=
  blocks.forLoop.isOpen = true ∧ name = blocks.forLoop.variableName ∨
    blocks.final.isOpen = true ∧ name = blocks.handler.variableName

/-- Since another state nothing has been printed, and no variable has been written but those that
its blocks bind. -/
def State.IsConfined (before s : State) : Prop :=
  s.output = before.output ∧
    ∀ name, ¬before.blocks.Binds name → s.vars.get? name = before.vars.get? name

namespace Comparison

/-- Both executions run while the blocks of a state are open. -/
def capturing (before : State) : Comparison :=
  keeping (State.IsCapturing before) (fun _ => True) Statement.IsStored

/-- Besides, only the variables that the blocks bind are written. -/
def confined (before : State) : Comparison :=
  keeping (fun s => before.IsCapturing s ∧ before.IsConfined s) (fun _ => True) Statement.IsStored

variable {before : State}

theorem keptByCalls_capturing : (capturing before).KeptByCalls where
  self_none := trivial
  agrees := by rintro s _ ⟨rfl, _⟩; exact .refl s
  lists := by rintro s _ items - ⟨rfl, h⟩; exact ⟨rfl, h⟩
  dicts := by rintro s _ entries - ⟨rfl, h⟩; exact ⟨rfl, h⟩
  vars := by rintro s _ own ⟨rfl, h⟩; exact ⟨rfl, h⟩
  object := by
    rintro s _ s' _ name methods ⟨rfl, h⟩ hclass ⟨rfl, h'⟩
    exact ⟨rfl, h'.1.pushObject (h.1.class_empty _ (Table.mem_of_get? hclass)), h'.2⟩
  routine := by
    rintro s _ name routine ⟨rfl, h⟩ hroutine
    exact h.1.function_stored _ (Table.mem_of_get? hroutine)
  method h hmethod := absurd hmethod (h.2.1.no_method _ _ _)
  spent h hn := absurd hn (h.2.1.no_allowance _)
  body_lines := by
    rintro s _ id line ⟨rfl, h⟩ hline
    exact h.1.body_stored id line hline

theorem keptByRounds_confined : (confined before).KeptByRounds where
  self_none := trivial
  agrees := by rintro s _ ⟨rfl, _⟩; exact .refl s
  lists := by rintro s _ items - ⟨rfl, h⟩; exact ⟨rfl, h⟩
  dicts := by rintro s _ entries - ⟨rfl, h⟩; exact ⟨rfl, h⟩
  faultCount := by rintro s _ n ⟨rfl, h⟩; exact ⟨rfl, h⟩
  object h hclass h' := by
    have hnew : (capturing before).rel _ _ :=
      keptByCalls_capturing.object ⟨h.1, h.2.1⟩ hclass ⟨h'.1, h'.2.1⟩
    exact ⟨hnew.1, hnew.2, h'.2.2⟩
  routine h := keptByCalls_capturing.routine (c := capturing before) ⟨h.1, h.2.1⟩
  method h := keptByCalls_capturing.method (c := capturing before) ⟨h.1, h.2.1⟩
  spent h hn := absurd hn (h.2.1.1.no_allowance _)
  body_lines h := keptByCalls_capturing.body_lines (c := capturing before) ⟨h.1, h.2.1⟩

variable {id : BodyId} (hopen : before.blocks.openBody? = some id)

include hopen

theorem goesOver_capturing (disk : Disk) : (capturing before).GoesOver disk := by
  intro m m' bound hm
  refine ⟨hm.evaluates_next keptByCalls_capturing.keptByRoutines disk bound bound, ?_⟩
  rintro source self hline - s _ ⟨rfl, hs⟩
  have hbody : s.blocks.openBody? = some id := by rw [hs.2.1, hopen]
  change Matches _ (Execution.line m bound source self s) (Execution.line m' bound source self s)
  rw [Execution.line_of_stored hline hbody hs.1.unlimited,
    Execution.line_of_stored hline hbody hs.1.unlimited]
  exact .ok () ⟨rfl, hs.1.appendLine id hline, hs.2⟩

theorem runsAlike_confined (disk : Disk) (n : Nat) :
    (Machine.ofBound disk n).RunsAlike (confined before) (Machine.ofBound disk n) := by
  induction n with
  | zero => exact Machine.idle_runsAlike
  | succ n ih =>
      have hcapturing := Machine.ofBound_runsAlike_self (goesOver_capturing hopen disk) (n + 1)
      refine ⟨⟨?_, ?_⟩, ?_⟩
      · intro source locals self hself
        exact keptByRounds_confined.eval ih.toEvaluatesAlike disk source locals hself
      · -- The callee has variables of its own; those of the caller are there again after it.
        rintro lines own self hlines hself s _ ⟨rfl, hs⟩
        have hcall := ((hcapturing.call lines own self hlines hself).eq_of_keeping hs.1).2
        have hvars : (after ((Machine.ofBound disk (n + 1)).call lines own self) s).vars = s.vars :=
          vars_withVariables _ _ s
        refine .keeping rfl ⟨hcall, ?_, ?_⟩
        · exact hcall.2.2
        · rw [hvars]
          exact hs.2.2
      · rintro source self hline hself s _ ⟨rfl, hs⟩
        have hbody : s.blocks.openBody? = some id := by rw [hs.1.2.1, hopen]
        rw [Machine.ofBound_succ]
        change Matches _ (Execution.line _ n source self s) (Execution.line _ n source self s)
        rw [Execution.line_of_stored hline hbody hs.1.1.unlimited]
        exact .ok () ⟨rfl, ⟨hs.1.1.appendLine id hline, hs.1.2⟩, hs.2⟩

end Comparison

/-- A line that is asked for is only added to the body of the open block. -/
def Event.IsCaptured : Event → State → Prop
  | .line source self, s =>
      ∃ id, s.blocks.openBody? = some id ∧
        ∀ m bound, Execution.line m bound source self s = appendLine id source s
  | _, _ => True

theorem State.IsCapturing.isCaptured {before s : State} {id : BodyId}
    (hopen : before.blocks.openBody? = some id) (hs : before.IsCapturing s) {e : Event}
    (he : (Comparison.capturing before).Admits e) : e.IsCaptured s := by
  have hbody : s.blocks.openBody? = some id := by rw [hs.2.1, hopen]
  cases e with
  | line source self =>
      exact ⟨id, hbody, fun m bound => Execution.line_of_stored he.1 hbody hs.1.unlimited⟩
  | eval source locals self => trivial
  | call lines own self => trivial

end LineScript
