import LineScript.Proofs.Orderly

/-!
Which variables an expression depends on: those whose names stand in its text. Every name that an
evaluation looks up is a piece of the expression, and a body that it calls has variables of its own.
-/

namespace LineScript

open Exec

def State.assign (name : Text) (value : Value) (s : State) : State :=
  { s with vars := s.vars.set (some name) value }

theorem State.lookup?_assign {name other : Text} (h : other ≠ name) (value : Value) (s : State)
    (locals : Variables) : (s.assign name value).lookup? locals other = s.lookup? locals other := by
  have hne : some other ≠ some name := by
    intro heq
    exact h (Option.some.inj heq)
  rw [lookup?, lookup?, assign, Table.get?_set_of_ne hne]

/-- The same outcome in a changed state. -/
def Exec.mapState {α : Type} (f : State → State) :
    EStateM.Result Halt State α → EStateM.Result Halt State α
  | .ok a s => .ok a (f s)
  | .error halt s => .error halt (f s)

namespace Comparison

/-- The second state is the first one with a value given to a variable. -/
def assigning (name : Text) (value : Value) : Comparison where
  rel s t := t = s.assign name value

variable {name : Text} {value : Value}

theorem keptByApplications_assigning : (assigning name value).KeptByApplications where
  heap h := by rw [h]; rfl
  functions h := by rw [h]; rfl
  classes h := by rw [h]; rfl
  lists _ _ h := by rw [h]; rfl
  dicts _ _ h := by rw [h]; rfl
  object _ _ h := by rw [h]; rfl
  routine _ _ _ _ := trivial
  method _ _ := ⟨trivial, fun _ _ => trivial⟩

theorem withVariables_assigning {α : Type} (own : Variables) (x : Exec α) :
    Alike (assigning name value) (withVariables own x) (withVariables own x) := by
  rintro s _ rfl
  have hstart : { s.assign name value with vars := own } = { s with vars := own } := rfl
  unfold withVariables
  rw [hstart]
  cases x { s with vars := own } with
  | ok a t => exact .ok a rfl
  | error halt t => exact .error halt rfl

theorem callsAlike_assigning (disk : Disk) (n : Nat) :
    (Machine.ofBound disk n).CallsAlike (assigning name value) (Machine.ofBound disk n) := by
  intro lines own self _ _
  cases n with
  | zero => exact Alike.exhaust
  | succ n => exact withVariables_assigning own _

theorem eval_assigning (disk : Disk) (n : Nat) {source : Text} (h : ¬name <:+: source) :
    Alike (assigning name value) ((Machine.ofBound disk n).eval source [] none)
      ((Machine.ofBound disk n).eval source [] none) := by
  induction n generalizing source with
  | zero => exact Alike.exhaust
  | succ n ih =>
      have hpiece (piece : Text) (hp : piece <:+: source) := ih fun hname => h (hname.trans hp)
      refine keptByApplications_assigning.evalText (callsAlike_assigning disk n) ?_ trivial disk
      refine ⟨hpiece, hpiece, ?_⟩
      rintro other hother s _ rfl
      have hne : other ≠ name := by
        rintro rfl
        exact h hother
      exact (State.lookup?_assign hne value s []).symm

end Comparison

theorem Exec.Alike.eq_mapState {α : Type} {name : Text} {value : Value} {x : Exec α}
    (h : Alike (.assigning name value) x x) (s : State) :
    x (s.assign name value) = mapState (State.assign name value) (x s) := by
  have hs := h (rfl : s.assign name value = _)
  generalize x s = o at hs
  generalize x (s.assign name value) = p at hs
  cases hs with
  | ok a ht =>
      rw [show _ = _ from ht]
      rfl
  | error halt ht =>
      rw [show _ = _ from ht]
      rfl
  | cut _ _ hslack => exact hslack.elim

/-- A variable whose name does not stand in an expression does not matter to it. With another value
of it the evaluation is cut off, fails or returns as before, and leaves the same state, but for that
variable. -/
theorem unmentioned_variables_do_not_matter (disk : Disk) (n : Nat) {source name : Text}
    (h : ¬name <:+: source) (value : Value) (s : State) :
    (Machine.ofBound disk n).eval source [] none (s.assign name value) =
      mapState (State.assign name value) ((Machine.ofBound disk n).eval source [] none s) :=
  (Comparison.eval_assigning disk n h).eq_mapState s

/-- A function that uses a variable of its own, called beside a variable of the caller. -/
def callerOfReader : State :=
  State.initial.afterLines .empty 8
    ["tyrt x = 1", "func f(p) \x7b", "tyrt y = p", "print|[y]", "return_object y + p", "\x7d"]

theorem unmentioned_variables_do_not_matter_call :
    ¬("y" : Text) <:+: ("f(2) + x" : Text) ∧
      (Machine.ofBound .empty 8).eval "f(2) + x" [] none (callerOfReader.assign "y" (.int 9)) =
        mapState (State.assign "y" (.int 9))
          ((Machine.ofBound .empty 8).eval "f(2) + x" [] none callerOfReader) ∧
      (after ((Machine.ofBound .empty 8).eval "f(2) + x" [] none) callerOfReader).output =
        "2\n" := by
  have hunmentioned : ¬("y" : Text) <:+: ("f(2) + x" : Text) := by decide +kernel
  exact ⟨hunmentioned, unmentioned_variables_do_not_matter .empty 8 hunmentioned _ _,
    by decide +kernel⟩

end LineScript
