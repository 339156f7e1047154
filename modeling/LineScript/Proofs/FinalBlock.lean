import LineScript.Proofs.Closing

namespace LineScript

open Exec

namespace Exec

theorem finishes_of_halt? {α : Type} {x : Exec α} {s : State} {fault? : Option Fault}
    (h : halt? x s = fault?.map .fault) : finishes x s = true := by
  unfold halt? at h
  unfold finishes
  cases hx : x s with
  | ok a t => rfl
  | error halt t =>
      rw [hx] at h
      obtain ⟨cause, -, rfl⟩ := Option.map_eq_some_iff.mp h.symm
      rfl

theorem exists_ok_of_halt? {α : Type} {x : Exec α} {s : State} (h : halt? x s = none) :
    ∃ a, x s = .ok a (after x s) := by
  unfold halt? at h
  unfold after
  cases hx : x s with
  | ok a t => exact ⟨a, rfl⟩
  | error halt t => simp [hx] at h

end Exec

/-- The body with the given number, run from a state, comes to its end in another one: by a fault,
or without. -/
def State.BodyEnds (disk : Disk) (s : State) (id : BodyId) (fault? : Option Fault) (t : State) :
    Prop :=
  ∃ n, halt? (Execution.runBody (.ofBound disk n) n id) s = fault?.map .fault ∧
    after (Execution.runBody (.ofBound disk n) n id) s = t

namespace State.BodyEnds

variable {disk : Disk} {s t : State} {id : BodyId}

theorem eventually {fault? : Option Fault} (h : s.BodyEnds disk id fault? t) :
    ∃ least, ∀ n, least ≤ n →
      halt? (Execution.runBody (.ofBound disk n) n id) s = fault?.map .fault ∧
        after (Execution.runBody (.ofBound disk n) n id) s = t := by
  obtain ⟨least, hhalt, hafter⟩ := h
  refine ⟨least, ?_⟩
  intro n hn
  have heq := Machine.runBody_eq_of_finishes disk hn (finishes_of_halt? hhalt)
  exact ⟨(halt?_eq_of_eq heq).trans hhalt, (after_eq_of_eq heq).trans hafter⟩

theorem eventually_ok (h : s.BodyEnds disk id none t) :
    ∃ least, ∀ n, least ≤ n →
      ∃ value, Execution.runBody (.ofBound disk n) n id s = .ok value t := by
  obtain ⟨least, hends⟩ := h.eventually
  refine ⟨least, ?_⟩
  intro n hn
  obtain ⟨hhalt, hafter⟩ := hends n hn
  rw [← hafter]
  exact exists_ok_of_halt? hhalt

theorem eventually_error {cause : Fault} (h : s.BodyEnds disk id (some cause) t) :
    ∃ least, ∀ n, least ≤ n →
      Execution.runBody (.ofBound disk n) n id s = .error (.fault cause) t := by
  obtain ⟨least, hends⟩ := h.eventually
  refine ⟨least, ?_⟩
  intro n hn
  obtain ⟨hhalt, hafter⟩ := hends n hn
  rw [← hafter]
  exact eq_error_of_halt? hhalt

end State.BodyEnds

/-- Lines are added to bodies and never taken from them. -/
theorem Comparison.keptByExecution_hasLines (id : BodyId) :
    (keeping fun s => s.body id ≠ #[]).KeptByExecution := by
  have hpush {bodies : Array (Array Text)} (h : bodies[id]?.getD #[] ≠ #[]) :
      (bodies.push #[])[id]?.getD #[] ≠ #[] := by
    rw [Array.getElem?_push]
    split
    · rename_i heq
      simp [heq] at h
    · exact h
  have happend {bodies : Array (Array Text)} (h : bodies[id]?.getD #[] ≠ #[]) (other : BodyId)
      (line : Text) : (bodies.modify other (·.push line))[id]?.getD #[] ≠ #[] := by
    rw [Array.getElem?_modify]
    split
    · cases hbody : bodies[id]? with
      | none => simp [hbody] at h
      | some body => simp
    · exact h
  exact
    { self_none := trivial
      agrees := by rintro s _ ⟨rfl, _⟩; exact .refl s
      lists := by rintro s _ items - ⟨rfl, h⟩; exact ⟨rfl, h⟩
      dicts := by rintro s _ entries - ⟨rfl, h⟩; exact ⟨rfl, h⟩
      object := by rintro _ _ s _ name methods _ _ ⟨rfl, h⟩; exact ⟨rfl, h⟩
      routine := fun _ _ _ _ => trivial
      method := fun _ _ => ⟨trivial, fun _ _ => trivial⟩
      spent := by rintro s _ n ⟨rfl, h⟩ _; exact ⟨rfl, h⟩
      body_lines := fun _ _ => trivial
      vars := by rintro s _ own ⟨rfl, h⟩; exact ⟨rfl, h⟩
      faultCount := by rintro s _ n ⟨rfl, h⟩; exact ⟨rfl, h⟩
      output := by rintro s _ o ⟨rfl, h⟩; exact ⟨rfl, h⟩
      body := by rintro s _ ⟨rfl, h⟩; exact ⟨rfl, hpush h⟩
      named := fun _ => trivial
      blocks := by rintro s _ blocks ⟨rfl, h⟩ _ _; exact ⟨rfl, h⟩
      stored := by rintro s _ other line ⟨rfl, h⟩ _ _ _; exact .ok () ⟨rfl, happend h other _⟩
      field := by rintro s _ address field value ⟨rfl, h⟩ _; exact .ok () ⟨rfl, h⟩
      function := by rintro s _ ⟨rfl, h⟩ _; exact .ok () ⟨rfl, hpush h⟩
      classDef := by rintro s _ ⟨rfl, h⟩ _; exact .ok () ⟨rfl, h⟩
      classMethod := by rintro s _ ⟨rfl, h⟩ _ _; exact .ok () ⟨rfl, hpush h⟩ }

theorem State.BodyEnds.hasLines {disk : Disk} {s t : State} {id other : BodyId}
    {fault? : Option Fault} (h : s.BodyEnds disk id fault? t) (hlines : s.body other ≠ #[]) :
    t.body other ≠ #[] := by
  obtain ⟨n, -, rfl⟩ := h
  have hkept := Comparison.keptByExecution_hasLines other
  have hm := Machine.ofBound_runsAlike_self (hkept.goesOver disk) n
  exact ((hkept.toKeptByRounds.runBody hm id (.inl rfl)).eq_of_keeping hlines).2

/-- The state in which a handler starts: the failure is bound to its name. -/
def State.catching (cause : Fault) (s : State) : State :=
  { s with
    faultCount := s.faultCount + 1
    vars := s.vars.set s.blocks.handler.variableName (.fault s.faultCount cause) }

/-- How an attempt ends together with its handler, which is entered if it has lines and the attempt
ends by a failure. -/
inductive State.AttemptEnds (disk : Disk) (s : State) : Option Fault → State → Prop
  | succeeded {t : State} (hbody : s.BodyEnds disk s.blocks.attempt.body none t) :
      AttemptEnds disk s none t
  | unhandled {t : State} {cause : Fault}
      (hbody : s.BodyEnds disk s.blocks.attempt.body (some cause) t)
      (hfailure : cause.isFailure = true) (hempty : t.body s.blocks.handler.body = #[]) :
      AttemptEnds disk s none t
  | handled {t u : State} {cause : Fault} {fault? : Option Fault}
      (hbody : s.BodyEnds disk s.blocks.attempt.body (some cause) t)
      (hfailure : cause.isFailure = true) (hlines : t.body s.blocks.handler.body ≠ #[])
      (hhandler : (t.catching cause).BodyEnds disk s.blocks.handler.body fault? u) :
      AttemptEnds disk s fault? u
  | left {t : State} {cause : Fault}
      (hbody : s.BodyEnds disk s.blocks.attempt.body (some cause) t)
      (hfailure : cause.isFailure = false) : AttemptEnds disk s (some cause) t

namespace Execution

variable {m : Machine} {bound : Nat} {s t : State} {cause : Fault}

theorem failureOf_of_ok {id : BodyId} {value : Value} (h : runBody m bound id s = .ok value t) :
    failureOf m bound id s = .ok none t :=
  rescue_of_ok (bind_of_ok h fun _ => pure none) _

theorem failureOf_of_fault {id : BodyId} (h : runBody m bound id s = .error (.fault cause) t) :
    failureOf m bound id s =
      (if cause.isFailure then pure (some cause) else fail cause : Exec (Option Fault)) t := by
  rw [failureOf, rescue, bind_of_error h]

theorem runIfAny_of_lines {id : BodyId} (h : t.body id ≠ #[]) :
    runIfAny m bound id t = (do let _ ← runBody m bound id; pure ()) t := by
  rw [runIfAny, get_bind, if_pos]
  simpa using h

theorem runAttempt_of_no_failure (h : failureOf m bound s.blocks.attempt.body s = .ok none t) :
    runAttempt m bound s = (do runIfAny m bound s.blocks.final.body; resetAttempt) t := by
  rw [runAttempt, get_bind, bind_of_ok h]

theorem runAttempt_of_unhandled
    (h : failureOf m bound s.blocks.attempt.body s = .ok (some cause) t)
    (hempty : t.body s.blocks.handler.body = #[]) :
    runAttempt m bound s = (do runIfAny m bound s.blocks.final.body; resetAttempt) t := by
  rw [runAttempt, get_bind, bind_of_ok h]
  dsimp only
  rw [get_bind, hempty]
  rfl

theorem runAttempt_of_handled
    (h : failureOf m bound s.blocks.attempt.body s = .ok (some cause) t)
    (hlines : t.body s.blocks.handler.body ≠ #[]) :
    runAttempt m bound s =
      (do
        let _ ← runBody m bound s.blocks.handler.body
        runIfAny m bound s.blocks.final.body
        resetAttempt) (t.catching cause) := by
  rw [runAttempt, get_bind, bind_of_ok h]
  dsimp only
  rw [get_bind, if_pos]
  · rfl
  · simpa using hlines

theorem runAttempt_of_error {halt : Halt}
    (h : failureOf m bound s.blocks.attempt.body s = .error halt t) :
    runAttempt m bound s = .error halt t := by
  rw [runAttempt, get_bind, bind_of_error h]

theorem runFinal_of_lines (h : t.body s.blocks.final.body ≠ #[]) :
    (do runIfAny m bound s.blocks.final.body; resetAttempt : Exec Unit) t =
      (do let _ ← runBody m bound s.blocks.final.body; resetAttempt : Exec Unit) t := by
  rw [bind_eq_of_eq (runIfAny_of_lines h), bind_assoc]
  simp only [pure_bind]

end Execution

namespace State.AttemptEnds

variable {disk : Disk} {s t : State}

theorem eventually_error {cause : Fault} (h : s.AttemptEnds disk (some cause) t) :
    ∃ least, ∀ n, least ≤ n →
      Execution.runAttempt (.ofBound disk n) n s = .error (.fault cause) t := by
  cases h with
  | left hbody hfailure =>
      obtain ⟨least, hrun⟩ := hbody.eventually_error
      refine ⟨least, ?_⟩
      intro n hn
      apply Execution.runAttempt_of_error
      rw [Execution.failureOf_of_fault (hrun n hn), hfailure]
      rfl
  | handled hbody hfailure hlines hhandler =>
      obtain ⟨least, hrun⟩ := hbody.eventually_error
      obtain ⟨least', hrun'⟩ := hhandler.eventually_error
      refine ⟨max least least', ?_⟩
      intro n hn
      have hcaught := Execution.failureOf_of_fault (hrun n (Nat.le_trans (Nat.le_max_left _ _) hn))
      rw [hfailure, if_pos rfl] at hcaught
      rw [Execution.runAttempt_of_handled hcaught hlines]
      exact bind_of_error (hrun' n (Nat.le_trans (Nat.le_max_right _ _) hn)) _

theorem eventually_final (h : s.AttemptEnds disk none t)
    (hfinal : s.body s.blocks.final.body ≠ #[]) :
    ∃ least, ∀ n, least ≤ n →
      Execution.runAttempt (.ofBound disk n) n s =
        (do
          let _ ← Execution.runBody (.ofBound disk n) n s.blocks.final.body
          Execution.resetAttempt) t := by
  cases h with
  | succeeded hbody =>
      obtain ⟨least, hrun⟩ := hbody.eventually_ok
      refine ⟨least, ?_⟩
      intro n hn
      obtain ⟨value, hvalue⟩ := hrun n hn
      rw [Execution.runAttempt_of_no_failure (Execution.failureOf_of_ok hvalue)]
      exact Execution.runFinal_of_lines (hbody.hasLines hfinal)
  | unhandled hbody hfailure hempty =>
      obtain ⟨least, hrun⟩ := hbody.eventually_error
      refine ⟨least, ?_⟩
      intro n hn
      have hcaught := Execution.failureOf_of_fault (hrun n hn)
      rw [hfailure, if_pos rfl] at hcaught
      rw [Execution.runAttempt_of_unhandled hcaught hempty]
      exact Execution.runFinal_of_lines (hbody.hasLines hfinal)
  | @handled failed _ cause _ hbody hfailure hlines hhandler =>
      obtain ⟨least, hrun⟩ := hbody.eventually_error
      obtain ⟨least', hrun'⟩ := hhandler.eventually_ok
      refine ⟨max least least', ?_⟩
      intro n hn
      have hcaught := Execution.failureOf_of_fault (hrun n (Nat.le_trans (Nat.le_max_left _ _) hn))
      rw [hfailure, if_pos rfl] at hcaught
      obtain ⟨value, hvalue⟩ := hrun' n (Nat.le_trans (Nat.le_max_right _ _) hn)
      rw [Execution.runAttempt_of_handled hcaught hlines, bind_of_ok hvalue]
      have hstart : (failed.catching cause).body s.blocks.final.body ≠ #[] := hbody.hasLines hfinal
      exact Execution.runFinal_of_lines (hhandler.hasLines hstart)

end State.AttemptEnds

/-- The attempt, its handler and the final block have no lines. -/
structure State.AttemptIsEmpty (s : State) : Prop where
  attempt : s.body s.blocks.attempt.body = #[]
  handler : s.body s.blocks.handler.body = #[]
  final : s.body s.blocks.final.body = #[]

theorem Execution.attemptIsEmpty_of_runAttempt {m : Machine} {bound : Nat} {s t : State}
    (h : runAttempt m bound s = .ok () t) : t.AttemptIsEmpty := by
  rw [runAttempt_eq] at h
  cases hparts : runParts m bound s with
  | error halt u =>
      rw [bind_of_error hparts] at h
      cases h
  | ok _ u =>
      rw [bind_of_ok hparts] at h
      cases h
      -- Three bodies without lines are added one after the other.
      have hnew (bodies : Array (Array Text)) : bodies[bodies.size]?.getD #[] = #[] := by
        rw [Array.getElem?_eq_none (Nat.le_refl _)]
        rfl
      have hpush {bodies : Array (Array Text)} {id : BodyId} (h : bodies[id]?.getD #[] = #[]) :
          (bodies.push #[])[id]?.getD #[] = #[] := by
        rw [Array.getElem?_push]
        split
        · rfl
        · exact h
      constructor
      · exact hpush (hpush (hpush (hnew u.bodies)))
      · exact hpush (hpush (hnew (u.bodies.push #[])))
      · exact hpush (hnew ((u.bodies.push #[]).push #[]))

/-- If nothing is left to be raised when an attempt and the handler that it enters have ended, the
final block runs once, in the state that they leave, and its outcome is that of the whole. Otherwise
the whole ends where they end, and the final block does not run. If the whole ends without a fault,
the three bodies are empty. -/
theorem final_block_runs_unless_attempt_is_left {disk : Disk} {s t : State}
    {fault? : Option Fault} (hattempt : s.AttemptEnds disk fault? t)
    (hfinal : s.body s.blocks.final.body ≠ #[]) :
    ∃ least, ∀ n, least ≤ n →
      (fault? = none →
        Execution.runAttempt (.ofBound disk n) n s =
          (do
            let _ ← Execution.runBody (.ofBound disk n) n s.blocks.final.body
            Execution.resetAttempt) t) ∧
      (∀ cause, fault? = some cause →
        Execution.runAttempt (.ofBound disk n) n s = .error (.fault cause) t) ∧
      ∀ u, Execution.runAttempt (.ofBound disk n) n s = .ok () u → u.AttemptIsEmpty := by
  cases fault? with
  | none =>
      obtain ⟨least, hrun⟩ := hattempt.eventually_final hfinal
      refine ⟨least, fun n hn => ⟨fun _ => hrun n hn, nofun, fun u hu => ?_⟩⟩
      exact Execution.attemptIsEmpty_of_runAttempt hu
  | some cause =>
      obtain ⟨least, hrun⟩ := hattempt.eventually_error
      refine ⟨least, fun n hn => ⟨nofun, ?_, fun u hu => ?_⟩⟩
      · rintro _ ⟨rfl⟩
        exact hrun n hn
      · exact Execution.attemptIsEmpty_of_runAttempt hu

/-- An attempt, a handler and a final block with the given lines, where no block is open. -/
def attemptOf (attempt handler final : List Text) : State :=
  { State.initial with
    bodies := #[#[], #[], #[], #[], attempt.toArray, handler.toArray, final.toArray] }

/-- An attempt whose failure is handled. -/
def handledAttempt : State := attemptOf ["tyrt x = zz"] ["tyrt y = 5"] ["print|[y]"]

theorem final_block_runs_unless_attempt_is_left_handled :
    ∃ t, handledAttempt.AttemptEnds .empty none t ∧
      (after (Execution.runBody (.ofBound .empty 8) 8 6) t).output = "5\n" ∧
      ∃ least, ∀ n, least ≤ n →
        Execution.runAttempt (.ofBound .empty n) n handledAttempt =
          (do
            let _ ← Execution.runBody (.ofBound .empty n) n 6
            Execution.resetAttempt) t := by
  have hbody : handledAttempt.BodyEnds .empty 4 (some (.undefinedExpression "zz")) _ :=
    ⟨8, by decide +kernel, rfl⟩
  have hattempt : handledAttempt.AttemptEnds .empty none _ :=
    .handled hbody rfl (by decide +kernel) ⟨8, by decide +kernel, rfl⟩
  obtain ⟨least, hrun⟩ := final_block_runs_unless_attempt_is_left hattempt (by decide +kernel)
  exact ⟨_, hattempt, by decide +kernel, least, fun n hn => (hrun n hn).1 rfl⟩

/-- An attempt that is left by a signal to a loop. -/
def brokenAttempt : State := attemptOf ["loop.break"] [] ["print|[1]"]

/-- The signal ends the whole as soon as it leaves the attempt: the final block, which would print,
does not run, and nothing is given up. -/
theorem final_block_skipped_after_break :
    brokenAttempt.blocks.openCount = 0 ∧
      brokenAttempt.BodyEnds .empty 4 (some .loopBreak) brokenAttempt ∧
      (after (Execution.runBody (.ofBound .empty 8) 8 6) brokenAttempt).output = "1\n" ∧
      (∃ least, ∀ n, least ≤ n →
        Execution.runAttempt (.ofBound .empty n) n brokenAttempt =
          .error (.fault .loopBreak) brokenAttempt) ∧
      brokenAttempt.output = "" ∧ ¬brokenAttempt.AttemptIsEmpty := by
  have hbody : brokenAttempt.BodyEnds .empty 4 (some .loopBreak) brokenAttempt :=
    ⟨8, by decide +kernel, rfl⟩
  have hattempt : brokenAttempt.AttemptEnds .empty (some .loopBreak) brokenAttempt :=
    .left hbody rfl
  refine ⟨by decide, hbody, by decide +kernel, hattempt.eventually_error, rfl, ?_⟩
  intro hempty
  exact absurd hempty.attempt (by decide)

end LineScript
