import LineScript.Proofs.Argument
import LineScript.Proofs.FinalBlock
import LineScript.Proofs.LocalNames

/-!
Faults on their way out of calls. Each body that a fault leaves turns it into a failure, unless it
is one already or a signal. So a fault is worded once, in the innermost body, and all calls around
it pass it on. One fault is not worded where it should be: a missing key that has too many digits to
be shown makes place for another fault, and only the next body around turns that one into a failure.
-/

namespace LineScript

open Exec

namespace Fault

variable {cause : Fault}

theorem leaveBlock_of_failure (h : cause.isFailure = true) : cause.leaveBlock = cause := by
  rw [leaveBlock, h]
  rfl

theorem leaveBlock_of_signal (h : cause.isSignal = true) : cause.leaveBlock = cause := by
  rw [leaveBlock, h, Bool.or_true]
  rfl

theorem worded_of_ne (h : cause ≠ keyMissing none) : cause.worded = cause := by
  unfold worded
  split
  · exact absurd rfl h
  · rfl

theorem leaveBlock_of_other (hfailure : cause.isFailure = false) (hsignal : cause.isSignal = false)
    (hkey : cause ≠ keyMissing none) : cause.leaveBlock = internal cause := by
  rw [leaveBlock, hfailure, hsignal, if_neg (by decide), if_pos (worded_of_ne hkey)]

theorem leaveBlock_cases (cause : Fault) :
    cause.leaveBlock.isFailure = true ∨ cause.leaveBlock.isSignal = true ∨
      cause = keyMissing none := by
  cases hfailure : cause.isFailure with
  | true => exact .inl (by rw [leaveBlock_of_failure hfailure, hfailure])
  | false =>
      cases hsignal : cause.isSignal with
      | true => exact .inr (.inl (by rw [leaveBlock_of_signal hsignal, hsignal]))
      | false =>
          by_cases hkey : cause = keyMissing none
          · exact .inr (.inr hkey)
          · exact .inl (by rw [leaveBlock_of_other hfailure hsignal hkey]; rfl)

theorem leaveBlock_ne_keyMissing (cause : Fault) : cause.leaveBlock ≠ keyMissing none := by
  intro h
  rcases leaveBlock_cases cause with hfailure | hsignal | rfl
  · rw [h] at hfailure
    cases hfailure
  · rw [h] at hsignal
    cases hsignal
  · cases h

theorem leaveBlock_leaveBlock (hkey : cause ≠ keyMissing none) :
    cause.leaveBlock.leaveBlock = cause.leaveBlock := by
  rcases leaveBlock_cases cause with hfailure | hsignal | hmissing
  · exact leaveBlock_of_failure hfailure
  · exact leaveBlock_of_signal hsignal
  · exact absurd hmissing hkey

theorem leaveBlock_leaveBlock_leaveBlock (cause : Fault) :
    cause.leaveBlock.leaveBlock.leaveBlock = cause.leaveBlock.leaveBlock := by
  by_cases hkey : cause = keyMissing none
  · rw [hkey]
    rfl
  · rw [leaveBlock_leaveBlock hkey, leaveBlock_leaveBlock hkey]

end Fault

namespace Exec

variable {α : Type} {x : Exec α} {s t : State}

theorem leavingBlock_of_ok {a : α} (h : x s = .ok a t) : leavingBlock x s = .ok a t :=
  rescue_of_ok h _

theorem leavingBlock_of_fault {cause : Fault} (h : x s = .error (.fault cause) t) :
    leavingBlock x s = .error (.fault cause.leaveBlock) t := by
  rw [leavingBlock, rescue, h]
  rfl

theorem leavingBlock_of_exhausted (h : x s = .error .exhausted t) :
    leavingBlock x s = .error .exhausted t := by
  rw [leavingBlock, rescue, h]

theorem leavingBlock_leavingBlock (hkey : halt? x s ≠ some (.fault (.keyMissing none))) :
    leavingBlock (leavingBlock x) s = leavingBlock x s := by
  cases hx : x s with
  | ok a t =>
      have hleft := leavingBlock_of_ok hx
      rw [leavingBlock_of_ok hleft, hleft]
  | error halt t =>
      cases halt with
      | exhausted =>
          have hleft := leavingBlock_of_exhausted hx
          rw [leavingBlock_of_exhausted hleft, hleft]
      | fault cause =>
          have hleft := leavingBlock_of_fault hx
          have hcause : cause ≠ .keyMissing none := by
            rintro rfl
            exact hkey (by rw [halt?, hx])
          rw [leavingBlock_of_fault hleft, hleft, Fault.leaveBlock_leaveBlock hcause]

theorem leavingBlock_leavingBlock_leavingBlock (x : Exec α) :
    leavingBlock (leavingBlock (leavingBlock x)) = leavingBlock (leavingBlock x) := by
  funext s
  cases hx : x s with
  | ok a t =>
      have hleft := leavingBlock_of_ok (leavingBlock_of_ok hx)
      rw [leavingBlock_of_ok hleft, hleft]
  | error halt t =>
      cases halt with
      | exhausted =>
          have hleft := leavingBlock_of_exhausted (leavingBlock_of_exhausted hx)
          rw [leavingBlock_of_exhausted hleft, hleft]
      | fault cause =>
          have hleft := leavingBlock_of_fault (leavingBlock_of_fault hx)
          rw [leavingBlock_of_fault hleft, hleft, Fault.leaveBlock_leaveBlock_leaveBlock]

theorem leavingBlock_congr {y : Exec α} (h : x s = y t) : leavingBlock x s = leavingBlock y t :=
  rescue_eq_of_eq h _

theorem withVariables_congr {y : Exec α} {own : Variables}
    (h : x { s with vars := own } = y { s with vars := own }) :
    withVariables own x s = withVariables own y s := by
  rw [withVariables, withVariables, h]

theorem withVariables_of_ok {own : Variables} {a : α} (h : x { s with vars := own } = .ok a t) :
    withVariables own x s = .ok a { t with vars := s.vars } := by
  rw [withVariables, h]

theorem withVariables_of_error {own : Variables} {halt : Halt}
    (h : x { s with vars := own } = .error halt t) :
    withVariables own x s = .error halt { t with vars := s.vars } := by
  rw [withVariables, h]

theorem withVariables_leavingBlock (own : Variables) (x : Exec α) :
    withVariables own (leavingBlock x) = leavingBlock (withVariables own x) := by
  funext s
  cases hx : x { s with vars := own } with
  | ok a t =>
      rw [withVariables_of_ok (leavingBlock_of_ok hx), leavingBlock_of_ok (withVariables_of_ok hx)]
  | error halt t =>
      have hown := withVariables_of_error hx
      cases halt with
      | exhausted =>
          rw [withVariables_of_error (leavingBlock_of_exhausted hx), leavingBlock_of_exhausted hown]
      | fault cause =>
          rw [withVariables_of_error (leavingBlock_of_fault hx), leavingBlock_of_fault hown]

theorem withVariables_withVariables (own : Variables) (x : Exec α) :
    withVariables own (withVariables own x) = withVariables own x := by
  funext s
  cases hx : x { s with vars := own } with
  | ok a t =>
      have hown : withVariables own x { s with vars := own } = _ := withVariables_of_ok hx
      rw [withVariables_of_ok hown, withVariables_of_ok hx]
  | error halt t =>
      have hown : withVariables own x { s with vars := own } = _ := withVariables_of_error hx
      rw [withVariables_of_error hown, withVariables_of_error hx]

theorem exists_of_leavingBlock_fault {x : Exec α} {s : State} {cause : Fault}
    (h : halt? (leavingBlock x) s = some (.fault cause)) :
    ∃ inner, halt? x s = some (.fault inner) ∧ cause = inner.leaveBlock := by
  cases hx : x s with
  | ok a t =>
      rw [halt?, leavingBlock_of_ok hx] at h
      cases h
  | error halt t =>
      cases halt with
      | exhausted =>
          rw [halt?, leavingBlock_of_exhausted hx] at h
          cases h
      | fault inner =>
          rw [halt?, leavingBlock_of_fault hx] at h
          cases h
          exact ⟨inner, by rw [halt?, hx], rfl⟩

end Exec

def returnCall (g : Word) : Text := ("return_object " : Text) ++ g.call []

theorem Execution.returned?_returnCall (g : Word) :
    returned? (returnCall g) = some (g.call []) := by
  have hblank : ∀ c ∈ [' '], Text.isBlank c = true := List.forall_mem_singleton.mpr (by decide)
  have hafter : Text.after? "return_object" (returnCall g) = some ([' '] ++ g.call []) :=
    Text.after?_eq_some_iff.mpr rfl
  rw [returned?, hafter, Option.map_some, Text.strip_append_left hblank, g.strip_call]

/-- The call of a function passes through the given number of functions that do nothing but return
what the next one returns, and comes to another function. -/
inductive State.LeadsTo (s : State) (last : Word) : Nat → Word → Prop
  | last : LeadsTo s last 0 last
  | next {k : Nat} {f g : Word} (hname : f.text ≠ "read_file")
      (hfunction : s.functions.get? (some f.text) = some ⟨[], [returnCall g]⟩)
      (hrest : LeadsTo s last k g) : LeadsTo s last (k + 1) f

theorem State.LeadsTo.withVars {s : State} {last f : Word} {k : Nat} (h : s.LeadsTo last k f)
    (vars : Variables) : { s with vars }.LeadsTo last k f := by
  induction h with
  | last => exact .last
  | next hname hfunction _ ih => exact .next hname hfunction ih

namespace Machine

variable {s : State} {f last : Word} {body : List Text}

/-- The lines of a function without parameters, in variables of their own. -/
def ownLines (m : Machine) (body : List Text) : Exec Value :=
  withVariables [] (Execution.runLines m none body)

theorem eval_call_of_lines (hunlimited : s.allowance = none) (hname : f.text ≠ "read_file")
    (hfunction : s.functions.get? (some f.text) = some ⟨[], body⟩) (disk : Disk) (n : Nat) :
    (ofBound disk (n + 2)).eval (f.call []) [] none s =
      leavingBlock ((ofBound disk n).ownLines body) s := by
  have hargs : Evaluation.arguments (ofBound disk (n + 1)) [] [] none s = .ok [] s := rfl
  have hblock : Execution.runBlock (ofBound disk n) body none { s with vars := [] } =
      leavingBlock (Execution.runLines (ofBound disk n) none body) { s with vars := [] } :=
    bind_of_ok (spend_of_unlimited (s := { s with vars := [] }) hunlimited) _
  change Evaluation.eval disk _ _ [] none s = _
  rw [Evaluation.eval_call hname List.not_mem_nil List.not_mem_nil hargs hfunction, ownLines,
    ← withVariables_leavingBlock]
  exact withVariables_congr hblock

theorem eval_call_of_returnCall {g : Word} {x : Exec Value} (hunlimited : s.allowance = none)
    (hname : f.text ≠ "read_file")
    (hfunction : s.functions.get? (some f.text) = some ⟨[], [returnCall g]⟩) {disk : Disk}
    {n : Nat}
    (hcallee : (ofBound disk n).eval (g.call []) [] none { s with vars := [] } =
      x { s with vars := [] }) :
    (ofBound disk (n + 2)).eval (f.call []) [] none s = leavingBlock (withVariables [] x) s := by
  have hlines : (ofBound disk n).ownLines [returnCall g] s = withVariables [] x s := by
    apply withVariables_congr
    rw [Execution.runLines_of_returned (Execution.returned?_returnCall g)]
    exact hcallee
  rw [eval_call_of_lines hunlimited hname hfunction]
  exact leavingBlock_congr hlines

variable (hunlimited : s.allowance = none) (hname : last.text ≠ "read_file")
  (hlast : s.functions.get? (some last.text) = some ⟨[], body⟩)

include hunlimited hname hlast

/-- Whatever the depth, the lines of the last function are left by two blocks, of which the second
one stands for all that are further out. -/
theorem eval_of_leadsTo {k : Nat} (h : s.LeadsTo last (k + 1) f) (disk : Disk) (n : Nat) :
    (ofBound disk (n + 2 + 2 * (k + 1))).eval (f.call []) [] none s =
      leavingBlock (leavingBlock ((ofBound disk n).ownLines body)) s := by
  induction k generalizing f s with
  | zero =>
      cases h with
      | next hcaller hfunction hrest =>
          cases hrest
          have hcallee := eval_call_of_lines (s := { s with vars := [] }) hunlimited hname hlast
            disk n
          rw [show n + 2 + 2 * (0 + 1) = n + 2 + 2 from rfl,
            eval_call_of_returnCall hunlimited hcaller hfunction hcallee,
            withVariables_leavingBlock, ownLines, withVariables_withVariables]
  | succ k ih =>
      cases h with
      | next hcaller hfunction hrest =>
          have hcallee := ih (s := { s with vars := [] }) hunlimited hlast (hrest.withVars [])
          rw [show n + 2 + 2 * (k + 1 + 1) = n + 2 + 2 * (k + 1) + 2 from rfl,
            eval_call_of_returnCall hunlimited hcaller hfunction hcallee,
            withVariables_leavingBlock, withVariables_leavingBlock, ownLines,
            withVariables_withVariables, leavingBlock_leavingBlock_leavingBlock]

theorem eval_eq_of_leadsTo {k : Nat} (h : s.LeadsTo last k f) {disk : Disk} {n : Nat}
    (hkey : halt? ((ofBound disk n).ownLines body) s ≠ some (.fault (.keyMissing none))) :
    (ofBound disk (n + 2 + 2 * k)).eval (f.call []) [] none s =
      (ofBound disk (n + 2)).eval (last.call []) [] none s := by
  cases k with
  | zero =>
      cases h
      rfl
  | succ k =>
      rw [eval_of_leadsTo hunlimited hname hlast h, eval_call_of_lines hunlimited hname hlast,
        leavingBlock_leavingBlock hkey]

theorem isFailure_or_isSignal_of_leadsTo {k : Nat} (h : s.LeadsTo last k f) {disk : Disk} {n : Nat}
    {cause : Fault}
    (hhalt : halt? ((ofBound disk (n + 2 + 2 * k)).eval (f.call []) [] none) s =
      some (.fault cause)) :
    cause.isFailure = true ∨ cause.isSignal = true ∨
      k = 0 ∧ halt? ((ofBound disk n).ownLines body) s = some (.fault (.keyMissing none)) := by
  cases k with
  | zero =>
      cases h
      have hone := eval_call_of_lines hunlimited hname hlast disk n
      rw [show n + 2 + 2 * 0 = n + 2 from rfl, halt?_eq_of_eq hone] at hhalt
      obtain ⟨inner, hinner, rfl⟩ := exists_of_leavingBlock_fault hhalt
      rcases Fault.leaveBlock_cases inner with hfailure | hsignal | rfl
      · exact .inl hfailure
      · exact .inr (.inl hsignal)
      · exact .inr (.inr ⟨rfl, hinner⟩)
  | succ k =>
      rw [halt?_eq_of_eq (eval_of_leadsTo hunlimited hname hlast h disk n)] at hhalt
      obtain ⟨inner, hinner, rfl⟩ := exists_of_leavingBlock_fault hhalt
      obtain ⟨cause, -, rfl⟩ := exists_of_leavingBlock_fault hinner
      -- What leaves the inner block can be shown, so the outer one leaves nothing unworded.
      rcases Fault.leaveBlock_cases cause.leaveBlock with hfailure | hsignal | hkey
      · exact .inl hfailure
      · exact .inr (.inl hsignal)
      · exact absurd hkey (Fault.leaveBlock_ne_keyMissing cause)

theorem eval_eq_internal_of_leadsTo {k : Nat} (h : s.LeadsTo last k f) {disk : Disk} {n : Nat}
    {cause : Fault} {t : State}
    (hlines : (ofBound disk n).ownLines body s = .error (.fault cause) t)
    (hfailure : cause.isFailure = false) (hsignal : cause.isSignal = false)
    (hkey : cause ≠ .keyMissing none) :
    (ofBound disk (n + 2 + 2 * k)).eval (f.call []) [] none s =
      .error (.fault (.internal cause)) t := by
  have hleft := leavingBlock_of_fault hlines
  rw [Fault.leaveBlock_of_other hfailure hsignal hkey] at hleft
  cases k with
  | zero =>
      cases h
      rw [show n + 2 + 2 * 0 = n + 2 from rfl, eval_call_of_lines hunlimited hname hlast, hleft]
  | succ k =>
      rw [eval_of_leadsTo hunlimited hname hlast h, leavingBlock_of_fault hleft]
      rfl

theorem eval_of_unshown_key {disk : Disk} {n : Nat} {t : State}
    (hlines : (ofBound disk n).ownLines body s = .error (.fault (.keyMissing none)) t) :
    (ofBound disk (n + 2)).eval (last.call []) [] none s = .error (.fault .integerTooLong) t ∧
      ∀ k f, s.LeadsTo last (k + 1) f →
        (ofBound disk (n + 2 + 2 * (k + 1))).eval (f.call []) [] none s =
          .error (.fault (.internal .integerTooLong)) t := by
  have hleft := leavingBlock_of_fault hlines
  constructor
  · rw [eval_call_of_lines hunlimited hname hlast, hleft]
    rfl
  · intro k f hleads
    rw [eval_of_leadsTo hunlimited hname hlast hleads, leavingBlock_of_fault hleft]
    rfl

end Machine

/-!
Attempts without a handler and without a final block.
-/

namespace Execution

variable {m : Machine} {bound : Nat} {s t : State}

theorem runBody_of_unlimited (hunlimited : s.allowance = none) (id : BodyId) :
    runBody m bound id s = leavingBlock (runBodyFrom m id bound 0) s :=
  bind_of_ok (spend_of_unlimited hunlimited) _

theorem runFinal_of_empty (h : t.body s.blocks.final.body = #[]) :
    halt? (do runIfAny m bound s.blocks.final.body; resetAttempt : Exec Unit) t = none := by
  have hskip : runIfAny m bound s.blocks.final.body t = .ok () t := by
    rw [runIfAny, get_bind, h]
    rfl
  rw [halt?, bind_of_ok hskip]
  rfl

theorem halt?_runAttempt_of_empty
    (hhandler : (after (runBody m bound s.blocks.attempt.body) s).body s.blocks.handler.body = #[])
    (hfinal : (after (runBody m bound s.blocks.attempt.body) s).body s.blocks.final.body = #[])
    {cause : Fault} (h : halt? (runAttempt m bound) s = some (.fault cause)) :
    halt? (runBody m bound s.blocks.attempt.body) s = some (.fault cause) ∧
      cause.isFailure = false := by
  unfold after at hhandler hfinal
  cases hbody : runBody m bound s.blocks.attempt.body s with
  | ok value t =>
      rw [hbody] at hfinal
      rw [halt?, runAttempt_of_no_failure (failureOf_of_ok hbody), ← halt?,
        runFinal_of_empty hfinal] at h
      cases h
  | error halt t =>
      rw [hbody] at hhandler hfinal
      cases halt with
      | exhausted =>
          have hfailure : failureOf m bound s.blocks.attempt.body s = .error .exhausted t := by
            rw [failureOf, rescue, bind_of_error hbody]
          rw [halt?, runAttempt_of_error hfailure] at h
          cases h
      | fault cause =>
          have hfailure := failureOf_of_fault hbody
          cases hcause : cause.isFailure with
          | true =>
              rw [hcause, if_pos rfl] at hfailure
              rw [halt?, runAttempt_of_unhandled hfailure hhandler, ← halt?,
                runFinal_of_empty hfinal] at h
              cases h
          | false =>
              rw [hcause, if_neg Bool.false_ne_true] at hfailure
              rw [halt?, runAttempt_of_error hfailure] at h
              cases h
              exact ⟨by rw [halt?, hbody], hcause⟩

theorem isSignal_of_runAttempt (hunlimited : s.allowance = none)
    (hhandler : (after (runBody m bound s.blocks.attempt.body) s).body s.blocks.handler.body = #[])
    (hfinal : (after (runBody m bound s.blocks.attempt.body) s).body s.blocks.final.body = #[])
    {cause : Fault} (h : halt? (runAttempt m bound) s = some (.fault cause)) :
    cause.isSignal = true ∨ cause = .integerTooLong ∧
      halt? (runBodyFrom m s.blocks.attempt.body bound 0) s = some (.fault (.keyMissing none)) := by
  obtain ⟨hbody, hcause⟩ := halt?_runAttempt_of_empty hhandler hfinal h
  rw [halt?_eq_of_eq (runBody_of_unlimited hunlimited _)] at hbody
  obtain ⟨inner, hinner, rfl⟩ := exists_of_leavingBlock_fault hbody
  rcases Fault.leaveBlock_cases inner with hfailure | hsignal | rfl
  · rw [hcause] at hfailure
    cases hfailure
  · exact .inl hsignal
  · exact .inr ⟨rfl, hinner⟩

end Execution

/-- The call of a function that returns what another one returns, and so on to a last function, ends
as the call of the last one does. A fault of it is a failure or a signal; a fault of the last lines
that is neither is worded once, whatever the depth. A missing key that cannot be shown is the one
exception: the last call ends with the fault that takes its place, and each call around it with the
failure that words that fault. So only signals and that fault leave an attempt without handler and
final block. -/
theorem faults_are_worded_once (disk : Disk) (n : Nat) {s : State} (hunlimited : s.allowance = none)
    {last : Word} {body : List Text} (hname : last.text ≠ "read_file")
    (hlast : s.functions.get? (some last.text) = some ⟨[], body⟩) :
    (∀ k f, s.LeadsTo last k f →
      halt? ((Machine.ofBound disk n).ownLines body) s ≠ some (.fault (.keyMissing none)) →
      (Machine.ofBound disk (n + 2 + 2 * k)).eval (f.call []) [] none s =
        (Machine.ofBound disk (n + 2)).eval (last.call []) [] none s) ∧
    (∀ k f cause, s.LeadsTo last k f →
      halt? ((Machine.ofBound disk (n + 2 + 2 * k)).eval (f.call []) [] none) s =
        some (.fault cause) →
      cause.isFailure = true ∨ cause.isSignal = true ∨
        k = 0 ∧ halt? ((Machine.ofBound disk n).ownLines body) s =
          some (.fault (.keyMissing none))) ∧
    (∀ k f cause t, s.LeadsTo last k f →
      (Machine.ofBound disk n).ownLines body s = .error (.fault cause) t →
      cause.isFailure = false → cause.isSignal = false → cause ≠ .keyMissing none →
      (Machine.ofBound disk (n + 2 + 2 * k)).eval (f.call []) [] none s =
          .error (.fault (.internal cause)) t ∧
        (Fault.internal cause).kind = "TyrtRuntimeError" ∧
        (Fault.internal cause).message =
          Text.join ["Erro interno: ", cause.kind, ": ", cause.message]) ∧
    (∀ t, (Machine.ofBound disk n).ownLines body s = .error (.fault (.keyMissing none)) t →
      (Machine.ofBound disk (n + 2)).eval (last.call []) [] none s =
          .error (.fault .integerTooLong) t ∧
        ∀ k f, s.LeadsTo last (k + 1) f →
          (Machine.ofBound disk (n + 2 + 2 * (k + 1))).eval (f.call []) [] none s =
            .error (.fault (.internal .integerTooLong)) t) ∧
    ∀ (u : State) (cause : Fault), u.allowance = none →
      (after (Execution.runBody (.ofBound disk n) n u.blocks.attempt.body) u).body
        u.blocks.handler.body = #[] →
      (after (Execution.runBody (.ofBound disk n) n u.blocks.attempt.body) u).body
        u.blocks.final.body = #[] →
      halt? (Execution.runAttempt (.ofBound disk n) n) u = some (.fault cause) →
      cause.isSignal = true ∨ cause = .integerTooLong ∧
        halt? (Execution.runBodyFrom (.ofBound disk n) u.blocks.attempt.body n 0) u =
          some (.fault (.keyMissing none)) := by
  refine ⟨?_, ?_, ?_, ?_, ?_⟩
  · intro k f hleads hkey
    exact Machine.eval_eq_of_leadsTo hunlimited hname hlast hleads hkey
  · intro k f cause hleads hhalt
    exact Machine.isFailure_or_isSignal_of_leadsTo hunlimited hname hlast hleads hhalt
  · intro k f cause t hleads hlines hfailure hsignal hkey
    refine ⟨?_, rfl, rfl⟩
    exact Machine.eval_eq_internal_of_leadsTo hunlimited hname hlast hleads hlines hfailure hsignal
      hkey
  · intro t hlines
    exact Machine.eval_of_unshown_key hunlimited hname hlast hlines
  · intro u cause hfree hhandler hfinal hhalt
    exact Execution.isSignal_of_runAttempt hfree hhandler hfinal hhalt

/-- Two functions before one that fails at a line that says nothing known. -/
def callersOfFailure : State :=
  { functions :=
      [(some "f", ⟨[], ["return_object g()"]⟩), (some "g", ⟨[], ["return_object h()"]⟩),
        (some "h", ⟨[], ["tyrt x = 1", "x x"]⟩)] }

theorem faults_are_worded_once_line :
    callersOfFailure.LeadsTo ⟨"h", by decide, by decide⟩ 2 ⟨"f", by decide, by decide⟩ ∧
      ∃ t, (Machine.ofBound .empty 3).ownLines ["tyrt x = 1", "x x"] callersOfFailure =
          .error (.fault (.unrecognizedLine "x x")) t ∧
        (Machine.ofBound .empty 9).eval "f()" [] none callersOfFailure =
          .error (.fault (.internal (.unrecognizedLine "x x"))) t := by
  let f : Word := ⟨"f", by decide, by decide⟩
  let h : Word := ⟨"h", by decide, by decide⟩
  have hleads : callersOfFailure.LeadsTo h 2 f :=
    .next (g := ⟨"g", by decide, by decide⟩) (by decide) rfl (.next (by decide) rfl .last)
  have hlast : callersOfFailure.functions.get? (some h.text) =
    some ⟨[], ["tyrt x = 1", "x x"]⟩ := rfl
  have hhalt : halt? ((Machine.ofBound .empty 3).ownLines ["tyrt x = 1", "x x"]) callersOfFailure =
    some (.fault (.unrecognizedLine "x x")) := by decide +kernel
  have hlines := eq_error_of_halt? hhalt
  refine ⟨hleads, _, hlines, ?_⟩
  exact ((faults_are_worded_once .empty 3 rfl (by decide) hlast).2.2.1 2 f _ _ hleads hlines rfl rfl
    (by decide)).1

/-- A function that looks a long integer up in an empty dictionary, a function that returns what it
returns, and an attempt with the same lines. -/
def callerOfLongKey : State :=
  { consts := [(some "n", .int (10 ^ 4300))]
    functions :=
      [(some "f", ⟨[], ["return_object g()"]⟩),
        (some "g", ⟨[], ["tyrt d = #dicionario()", "return_object d[n]"]⟩)]
    blocks := { State.initial.blocks with attempt.body := 1, handler.body := 0, final.body := 0 }
    bodies := #[#[], #["tyrt d = #dicionario()", "return_object d[n]"]] }

/-- The inner call ends with a fault that is neither a failure nor a signal, and so does the
attempt; the outer call ends with another one. -/
theorem long_key_is_worded_late :
    callerOfLongKey.LeadsTo ⟨"g", by decide, by decide⟩ 1 ⟨"f", by decide, by decide⟩ ∧
      halt? ((Machine.ofBound .empty 9).eval "g()" [] none) callerOfLongKey =
        some (.fault .integerTooLong) ∧
      halt? ((Machine.ofBound .empty 9).eval "f()" [] none) callerOfLongKey =
        some (.fault (.internal .integerTooLong)) ∧
      halt? (Execution.runAttempt (.ofBound .empty 9) 9) callerOfLongKey =
        some (.fault .integerTooLong) ∧
      Fault.integerTooLong.isFailure = false ∧ Fault.integerTooLong.isSignal = false := by
  refine ⟨.next (by decide) rfl .last, ?_, ?_, ?_, rfl, rfl⟩
  · decide +kernel
  · decide +kernel
  · decide +kernel

end LineScript
