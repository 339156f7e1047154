import LineScript.Proofs.Form
import LineScript.Proofs.Observer
import LineScript.Proofs.Relevance
import LineScript.Proofs.Routines
import LineScript.Proofs.Stripping

/-!
The header of a branch. It opens the branch before it evaluates the condition, so the statements of
the functions that the condition calls are captured into the new body, and none of them is executed.
Where the condition needs none of them, the header gives it the value that it has elsewhere.
-/

namespace LineScript

open Exec

/-- The blocks of a state and the bodies that they refer to. -/
abbrev Layout := Blocks BodyId × Array (Array Text)

def State.rearrange (change : Layout → Layout) (s : State) : State :=
  { s with
    blocks := (change (s.blocks, s.bodies)).1
    bodies := (change (s.blocks, s.bodies)).2 }

namespace Comparison

/-- The second state has other blocks and bodies. The lines of routines are restricted, and nothing
is counted. -/
def rearranged (change : Layout → Layout) (lines : Text → Prop) (slack : Prop) : Comparison where
  rel s t := t = s.rearrange change ∧ s.EveryRoutine lines ∧ s.allowance = none
  slack := slack
  lines := lines

theorem keptByRoutines_rearranged (change : Layout → Layout) (lines : Text → Prop) (slack : Prop) :
    (rearranged change lines slack).KeptByRoutines where
  heap := by rintro s _ ⟨rfl, _⟩; rfl
  lists := by rintro s _ items - ⟨rfl, h⟩; exact ⟨rfl, h⟩
  dicts := by rintro s _ entries - ⟨rfl, h⟩; exact ⟨rfl, h⟩
  functions := by rintro s _ ⟨rfl, _⟩; rfl
  classes := by rintro s _ ⟨rfl, _⟩; rfl
  object := by
    rintro s _ s' _ name methods ⟨rfl, h⟩ hclass ⟨rfl, hroutines, hunlimited⟩
    have hlines := h.1.class_lines _ (Table.mem_of_get? hclass)
    exact ⟨rfl, hroutines.pushObject hlines, hunlimited⟩
  routine := by
    rintro s _ name routine ⟨rfl, h⟩ hroutine
    exact h.1.of_function hroutine
  method := by
    rintro s _ address name routine ⟨rfl, h⟩ hroutine
    exact ⟨trivial, h.1.of_method hroutine⟩
  self_none := trivial
  vars_eq := by rintro s _ ⟨rfl, _⟩; rfl
  consts_eq := by rintro s _ ⟨rfl, _⟩; rfl
  allowance_eq := by rintro s _ ⟨rfl, _⟩; rfl
  spent := by
    rintro s _ n ⟨rfl, h⟩ hspent
    rw [h.2] at hspent
    cases hspent
  vars := by rintro s _ own ⟨rfl, h⟩; exact ⟨rfl, h⟩

end Comparison

/-- Cuts an execution off at the first line that says something. -/
def stopAtWords : Observer
  | .line source _, s =>
      if Statement.isSilent (Text.strip source) then s else { s with allowance := some 0 }
  | _, s => s

namespace Machine

/-- The machine of the given bound that executes no line that says something. -/
def wordless (disk : Disk) (n : Nat) : Machine := observed disk stopAtWords n

/-- The machine of the given bound that adds lines to a body in place of executing them. -/
def noting (disk : Disk) (id : BodyId) : Nat → Machine
  | 0 => idle
  | n + 1 =>
      { next disk (noting disk id n) n with
        line := fun source _ =>
          if Statement.isSilent (Text.strip source) then pure ()
          else appendLine id (Text.strip source) }

end Machine

namespace Execution

variable {m : Machine} {bound : Nat} {source : Text} {self : Option Address} {s : State}

theorem line_of_silent (hsilent : Statement.isSilent (Text.strip source) = true)
    (hunlimited : s.allowance = none) : Execution.line m bound source self s = .ok () s := by
  rw [line_eq, hsilent, bind_of_ok (spend_of_unlimited hunlimited)]
  rfl

end Execution

/-- A machine without words does what the plain one does beside other blocks and bodies, or is cut
off. -/
theorem Machine.wordless_runsAlike (change : Layout → Layout) (disk : Disk) (n : Nat) :
    (wordless disk n).RunsAlike (.rearranged change (fun _ => True) True) (ofBound disk n) := by
  have hc := Comparison.keptByRoutines_rearranged change (fun _ => True) True
  induction n with
  | zero => exact idle_runsAlike
  | succ n ih =>
      have hnext := ih.evaluates_next hc disk n n
      refine ⟨⟨hnext.eval, hnext.call⟩, ?_⟩
      rintro source self - - s _ ⟨rfl, h⟩
      change Matches _ (Execution.line (wordless disk n) n source self
        (stopAtWords (.line source self) s)) (Execution.line _ n source self _)
      cases hsilent : Statement.isSilent (Text.strip source) with
      | true =>
          have hstop : stopAtWords (.line source self) s = s := by
            rw [stopAtWords, hsilent]
            rfl
          rw [hstop, Execution.line_of_silent hsilent h.2,
            Execution.line_of_silent (s := s.rearrange change) hsilent h.2]
          exact .ok () ⟨rfl, h⟩
      | false =>
          have hstop : stopAtWords (.line source self) s = { s with allowance := some 0 } := by
            rw [stopAtWords, hsilent]
            rfl
          rw [hstop]
          exact .cut _ _ trivial

def Blocks.openBranch (id : BodyId) (blocks : Blocks BodyId) : Blocks BodyId :=
  { blocks with branch.isOpen := true, branch.body := id }

def State.openBranch (id : BodyId) (s : State) : State :=
  { s with blocks := s.blocks.openBranch id }

/-- In the second state the branch is open with the given body, and no routine closes it. -/
def Comparison.branchOpened (id : BodyId) : Comparison :=
  rearranged (fun layout => (layout.1.openBranch id, layout.2)) Statement.NoBrace False

theorem Comparison.keptByRoutines_branchOpened (id : BodyId) : (branchOpened id).KeptByRoutines :=
  keptByRoutines_rearranged _ _ _

theorem Machine.noting_runsAlike (disk : Disk) (id : BodyId) (n : Nat) :
    (noting disk id n).RunsAlike (.branchOpened id) (ofBound disk n) := by
  have hc := Comparison.keptByRoutines_branchOpened id
  induction n with
  | zero => exact idle_runsAlike
  | succ n ih =>
      have hnext := ih.evaluates_next hc disk n n
      refine ⟨⟨hnext.eval, hnext.call⟩, ?_⟩
      rintro source self hsource - s _ ⟨rfl, h⟩
      change Matches _ ((if Statement.isSilent (Text.strip source) = true then pure ()
        else appendLine id (Text.strip source) : Exec Unit) s)
        (Execution.line _ n source self (s.openBranch id))
      cases hsilent : Statement.isSilent (Text.strip source) with
      | true =>
          rw [Execution.line_of_silent (s := s.openBranch id) hsilent h.2]
          exact .ok () ⟨rfl, h⟩
      | false =>
          have hspend : spend (s.openBranch id) = .ok () (s.openBranch id) :=
            spend_of_unlimited h.2
          rw [Execution.line_eq, hsilent, if_neg hsource, bind_of_ok hspend]
          exact .ok () ⟨rfl, h⟩

def branchHeader (condition : Text) : Text :=
  ("BILHETE_NADA" : Text) ++ ' ' :: (condition ++ [' ', Text.openBrace])

theorem branchHeader_eq (condition : Text) :
    branchHeader condition =
      ("BILHETE_NADA" : Text) ++ ([' '] ++ (condition ++ [' ']) ++ [Text.openBrace]) := by
  have hrest : ' ' :: (condition ++ [' ', Text.openBrace]) =
      [' '] ++ (condition ++ [' ']) ++ [Text.openBrace] := by simp
  exact congrArg (("BILHETE_NADA" : Text) ++ ·) hrest

theorem strip_branchHeader (condition : Text) :
    Text.strip (branchHeader condition) = branchHeader condition := by
  have hlast : branchHeader condition =
      (("BILHETE_NADA" : Text) ++ ([' '] ++ (condition ++ [' ']))) ++ [Text.openBrace] := by
    rw [branchHeader_eq]
    exact (List.append_assoc _ _ _).symm
  exact Text.strip_eq_self (rfl : branchHeader condition = 'B' :: _) (by decide) hlast (by decide)

theorem ofLine_branchHeader (condition : Text) :
    Statement.ofLine (branchHeader condition) = .openBranch (Text.strip condition) := by
  have hblank : ∀ d ∈ [' '], Text.isBlank d = true := List.forall_mem_singleton.mpr (by decide)
  have hdrop : (branchHeader condition).drop ("BILHETE_NADA" : Text).length =
      [' '] ++ (condition ++ [' ']) ++ [Text.openBrace] := by
    rw [branchHeader_eq, List.drop_left]
  have hends : Text.endsWithChar Text.openBrace (branchHeader condition) = true := by
    rw [branchHeader_eq, Text.endsWithChar, ← List.append_assoc, List.getLast?_concat]
    rfl
  have hcondition : Statement.condition? "BILHETE_NADA" (branchHeader condition) =
      some (Text.strip condition) := by
    rw [Statement.condition?, if_pos hends, hdrop, List.dropLast_concat,
      Text.strip_append_left hblank, Text.strip_append_right hblank]
  have hheader : Statement.header? (branchHeader condition) =
      some (.openBranch (Text.strip condition)) := by
    change some _ = _
    rw [hcondition]
  rw [Statement.ofLine, hheader]

theorem Machine.condition_strip (disk : Disk) (n : Nat) (condition : Text) :
    Evaluation.condition (ofBound disk n) (Text.strip condition) =
      Evaluation.condition (ofBound disk n) condition := by
  rw [Evaluation.condition, Evaluation.condition, eval_strip]

theorem Machine.line_branchHeader {s : State} (hnone : s.blocks.openCount = 0)
    (hunlimited : s.allowance = none) (disk : Disk) (n : Nat) (condition : Text)
    (self : Option Address) :
    (ofBound disk (n + 1)).line (branchHeader condition) self s =
      (do
        let isActive ← Evaluation.condition (ofBound disk n) condition
        modifyBlocks fun b => { b with branch.isActive := isActive } : Exec Unit)
        (State.openBranch s.bodies.size { s with bodies := s.bodies.push #[] }) := by
  have hbrace : branchHeader condition ≠ [Text.closeBrace] := by
    intro h
    have hfirst : some 'B' = some Text.closeBrace := congrArg List.head? h
    exact absurd hfirst (by decide)
  have hsilent : Statement.isSilent (branchHeader condition) = false := rfl
  rw [← strip_branchHeader] at hbrace hsilent
  change Execution.line _ n _ self s = _
  rw [Execution.line_of_none hsilent hbrace hnone hunlimited, strip_branchHeader,
    ofLine_branchHeader, ← condition_strip]
  rfl

theorem Exec.Matches.eq_mapState {α : Type} {change : Layout → Layout} {lines : Text → Prop}
    {slack : Prop} {x : Exec α} {s : State} {o : EStateM.Result Halt State α}
    (h : Matches (.rearranged change lines slack) (x s) o) (hfin : slack → finishes x s = true) :
    o = mapState (State.rearrange change) (x s) := by
  unfold finishes at hfin
  generalize x s = p at h hfin
  cases h with
  | ok a h => rw [h.1, mapState]
  | error halt h => rw [h.1, mapState]
  | cut t o hslack => exact absurd (hfin hslack) Bool.false_ne_true

theorem Machine.condition_rearrange {disk : Disk} {n : Nat} {condition : Text} {s : State}
    (hunlimited : s.allowance = none)
    (hfin : finishes (Evaluation.condition (wordless disk n) condition) s = true)
    (change : Layout → Layout) :
    Evaluation.condition (ofBound disk n) condition (s.rearrange change) =
      mapState (State.rearrange change) (Evaluation.condition (wordless disk n) condition s) := by
  have hc := Comparison.keptByRoutines_rearranged change (fun _ => True) True
  have hroutines : s.EveryRoutine fun _ => True := by
    constructor <;> (intros; trivial)
  have halike := hc.condition (wordless_runsAlike change disk n).toEvaluatesAlike condition
    (⟨rfl, hroutines, hunlimited⟩ : s.rearrange change = _ ∧ _)
  exact halike.eq_mapState fun _ => hfin

theorem Machine.condition_of_wordless {disk : Disk} {n : Nat} {condition : Text} {s t : State}
    (hunlimited : s.allowance = none) {isActive : Bool}
    (hcondition : Evaluation.condition (ofBound disk n) condition s = .ok isActive t)
    (hfin : finishes (Evaluation.condition (wordless disk n) condition) s = true)
    (change : Layout → Layout) :
    Evaluation.condition (ofBound disk n) condition (s.rearrange change) =
      .ok isActive (t.rearrange change) := by
  have hsame := condition_rearrange hunlimited hfin id
  have hother := condition_rearrange hunlimited hfin change
  change Evaluation.condition (ofBound disk n) condition s = _ at hsame
  rw [hcondition] at hsame
  cases ho : Evaluation.condition (wordless disk n) condition s with
  | ok b u =>
      rw [ho] at hsame hother
      cases hsame
      exact hother
  | error halt u =>
      rw [ho] at hsame
      cases hsame

/-- Where no block is open, the header of a branch gives the condition the value that it has there,
and the branch an empty body, if no statement has to be executed for that value. In general, if no
line of a routine closes a block, the header evaluates the condition with each statement noted in
that body in place of being executed. -/
theorem branch_header_notes_statements {s : State} (hnone : true ∉ s.blocks.flags)
    (hunlimited : s.allowance = none) (disk : Disk) (n : Nat) (condition : Text)
    (self : Option Address) :
    (∀ isActive t, Evaluation.condition (.ofBound disk n) condition s = .ok isActive t →
      finishes (Evaluation.condition (.wordless disk n) condition) s = true →
      (Machine.ofBound disk (n + 1)).line (branchHeader condition) self s =
        .ok () { t with
          bodies := t.bodies.push #[]
          blocks := { t.blocks with branch := ⟨true, isActive, t.bodies.size⟩ } }) ∧
      (s.EveryRoutine Statement.NoBrace →
        (Machine.ofBound disk (n + 1)).line (branchHeader condition) self s =
          mapState (State.openBranch s.bodies.size)
            ((do
              let isActive ← Evaluation.condition (.noting disk s.bodies.size n) condition
              modifyBlocks fun b => { b with branch.isActive := isActive } : Exec Unit)
              { s with bodies := s.bodies.push #[] })) := by
  have hcount : s.blocks.openCount = 0 := List.count_eq_zero.mpr hnone
  rw [Machine.line_branchHeader hcount hunlimited]
  constructor
  · intro isActive t hcondition hfin
    have hopened := Machine.condition_of_wordless hunlimited hcondition hfin fun layout =>
      (layout.1.openBranch layout.2.size, layout.2.push #[])
    exact bind_of_ok hopened _
  · intro hroutines
    have hc := Comparison.keptByRoutines_branchOpened s.bodies.size
    have hm := Machine.noting_runsAlike disk s.bodies.size n
    have hactive (isActive : Bool) : Alike (.branchOpened s.bodies.size)
        (modifyBlocks fun b => { b with branch.isActive := isActive })
        (modifyBlocks fun b => { b with branch.isActive := isActive }) := by
      refine Alike.modify ?_
      rintro u _ ⟨rfl, hu⟩
      exact ⟨rfl, hu⟩
    have hstart : (Comparison.branchOpened s.bodies.size).rel
        { s with bodies := s.bodies.push #[] }
        (State.openBranch s.bodies.size { s with bodies := s.bodies.push #[] }) :=
      ⟨rfl, hroutines, hunlimited⟩
    have hheader := ((hc.condition hm.toEvaluatesAlike condition).bind hactive) hstart
    exact hheader.eq_mapState False.elim

/-- A function that returns what another one returns, with an argument added to it. -/
def callerOfConstant : State :=
  State.initial.afterLines .empty 9
    ["func g() \x7b", "return_object 2", "\x7d", "func f(p) \x7b", "return_object g() + p", "\x7d"]

theorem branch_header_notes_statements_nested :
    true ∉ callerOfConstant.blocks.flags ∧
      finishes (Evaluation.condition (.wordless .empty 9) "f(1) == 3") callerOfConstant = true ∧
      ∃ t, Evaluation.condition (.ofBound .empty 9) "f(1) == 3" callerOfConstant = .ok true t ∧
        (Machine.ofBound .empty 10).line (branchHeader "f(1) == 3") none callerOfConstant =
          .ok () { t with
            bodies := t.bodies.push #[]
            blocks := { t.blocks with branch := ⟨true, true, t.bodies.size⟩ } } := by
  have hnone : true ∉ callerOfConstant.blocks.flags := by decide +kernel
  have hfin : finishes (Evaluation.condition (.wordless .empty 9) "f(1) == 3") callerOfConstant =
    true := by decide +kernel
  have hvalue : value? (Evaluation.condition (.ofBound .empty 9) "f(1) == 3") callerOfConstant =
    some true := by decide +kernel
  have hcondition := eq_ok_of_value? hvalue
  refine ⟨hnone, hfin, _, hcondition, ?_⟩
  exact (branch_header_notes_statements hnone (by decide +kernel) .empty 9 "f(1) == 3" none).1
    true _ hcondition hfin

/-- A function that returns a variable which it assigns. -/
def callerOfAssignment : State :=
  State.initial.afterLines .empty 9
    ["func f() \x7b", "tyrt x = 1", "return_object x", "\x7d"]

/-- The condition is true, but not in the header: there the assignment is captured and the variable
undefined. -/
theorem branch_header_fails_on_true_condition :
    true ∉ callerOfAssignment.blocks.flags ∧
      value? (Evaluation.condition (.ofBound .empty 9) "f()") callerOfAssignment = some true ∧
      halt? ((Machine.ofBound .empty 10).line (branchHeader "f()") none) callerOfAssignment =
        some (.fault (.undefinedExpression "x")) ∧
      (after ((Machine.ofBound .empty 10).line (branchHeader "f()") none) callerOfAssignment).body
        callerOfAssignment.bodies.size = #["tyrt x = 1".toList] := by
  decide +kernel

end LineScript
