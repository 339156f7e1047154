import LineScript.Proofs.Argument
import LineScript.Proofs.Binding

/-!
Local names. They matter to an expression only by what they make its names mean. The expression of a
line that returns a value has all variables as its local names, and there they hide constants, while
elsewhere constants hide variables; so it has the value that it has elsewhere as long as no name is
both.
-/

namespace LineScript

open Exec

/-- Local names by which every name means the same make no difference. All along the evaluation the
variables and the constants are those at its start, so names keep their meaning. -/
theorem Machine.eval_congr_locals (disk : Disk) (n : Nat) {s : State}
    {locals others : Variables} (h : ∀ name, s.lookup? locals name = s.lookup? others name)
    (source : Text) (self : Option Address) :
    (ofBound disk n).eval source locals self s = (ofBound disk n).eval source others self s := by
  have halike : Alike (.keeping s.SameNames) ((ofBound disk n).eval source locals self)
      ((ofBound disk n).eval source others self) := by
    induction n generalizing source with
    | zero => exact Alike.exhaust
    | succ n ih =>
        have hbelow := evaluatesAlike_sameNames disk n s
        refine (Comparison.keptByEvaluation_sameNames s).evalText hbelow.call ?_ trivial disk
        constructor
        · intro piece _
          exact ih piece
        · intro piece _
          exact hbelow.eval piece [] none trivial
        · rintro name _ t _ ⟨rfl, ht⟩
          rw [State.lookup?, State.lookup?, ht.vars, ht.consts]
          exact h name
  exact (halike.eq_of_keeping ⟨rfl, rfl⟩).1

namespace Evaluation

variable {disk : Disk} {m : Machine} {locals : Variables} {s : State}

theorem eval_word (w : Word) (self : Option Address) :
    eval disk m w.text locals self s = atom w.text locals s := by
  have hcall : Expression.isTakenForCall w.text = false := by
    apply Expression.isTakenForCall_of_not_isCall
    simp [Expression.isCall, w.not_mem (c := '(') (by decide)]
  have hoperation : Expression.operation? w.text = none := by
    apply Expression.operation?_eq_none
    intro op hmark
    exact w.not_mem (c := ' ') (by decide) (hmark.subset List.mem_cons_self)
  have hindex : Expression.index? w.text = none :=
    Expression.bracketed?_of_not_mem (w.not_mem (by decide)) ']'
  have hfield : tryField self w.text s = .ok none s :=
    tryField_of_none (Expression.field?_of_not_mem (w.not_mem (by decide)))
  have happlication : tryApplication disk m w.text locals self s = .ok none s := by
    rw [tryApplication_of_not_taken hcall]
    rfl
  rw [eval, w.strip_text, orElse_of_none hfield, orElse_of_none happlication,
    orElse_of_none (tryOperation_of_none hoperation), orElse_of_none (tryIndex_of_none hindex)]

theorem eval_word_of_lookup? {w : Word} {value : Value}
    (h : s.lookup? locals w.text = some value) (self : Option Address) :
    eval disk m w.text locals self s = .ok value s := by
  rw [eval_word, atom, get_bind, h]
  rfl

end Evaluation

theorem Execution.runLines_of_returned {m : Machine} {line source : Text}
    (h : returned? line = some source) (self : Option Address) (rest : List Text) (s : State) :
    runLines m self (line :: rest) s = m.eval source s.vars self s := by
  rw [runLines, h]
  rfl

/-- If no name is both a variable and a constant, an expression has the same outcome with the
variables as local names and without local names; so a line that returns it returns the value that
other lines find. A name that is both is the variable in a line that returns it, and the constant
elsewhere. -/
theorem returned_value_agrees_unless_constant (disk : Disk) (n : Nat) (s : State)
    (self : Option Address) :
    ((∀ name : Text, s.vars.get? (some name) = none ∨ s.consts.get? (some name) = none) →
      ∀ source,
        (Machine.ofBound disk n).eval source s.vars self s =
          (Machine.ofBound disk n).eval source [] self s ∧
        ∀ line rest, Execution.returned? line = some source →
          Execution.runLines (Machine.ofBound disk n) self (line :: rest) s =
            (Machine.ofBound disk n).eval source [] self s) ∧
    ∀ (w : Word) (variableValue constantValue : Value),
      s.vars.get? (some w.text) = some variableValue →
      s.consts.get? (some w.text) = some constantValue →
      (Machine.ofBound disk (n + 1)).eval w.text s.vars self s = .ok variableValue s ∧
        (Machine.ofBound disk (n + 1)).eval w.text [] self s = .ok constantValue s := by
  constructor
  · intro hapart source
    have hmeaning : ∀ name, s.lookup? s.vars name = s.lookup? [] name := by
      intro name
      rw [State.lookup?, State.lookup?]
      rcases hapart name with hvar | hconst
      · rw [hvar]
        rfl
      · rw [hconst]
        cases s.vars.get? (some name) <;> rfl
    have hsame := Machine.eval_congr_locals disk n hmeaning source self
    refine ⟨hsame, ?_⟩
    intro line rest hline
    rw [Execution.runLines_of_returned hline, hsame]
  · intro w variableValue constantValue hvar hconst
    constructor
    · apply Evaluation.eval_word_of_lookup?
      rw [State.lookup?, hvar]
      rfl
    · apply Evaluation.eval_word_of_lookup?
      rw [State.lookup?, hconst]
      rfl

/-- A function that returns its argument and a constant, called beside a variable. -/
def callerBesideConstant : State :=
  { vars := [(some "x", .int 1)]
    consts := [(some "K", .int 2)]
    functions := [(some "f", ⟨["p"], ["tyrt y = p", "return_object y + K"]⟩)] }

def variableAndConstant : State :=
  { vars := [(some "K", .int 1)], consts := [(some "K", .int 2)] }

theorem returned_value_agrees_unless_constant_call :
    (Machine.ofBound .empty 9).eval "x + f(x)" callerBesideConstant.vars none callerBesideConstant =
        (Machine.ofBound .empty 9).eval "x + f(x)" [] none callerBesideConstant ∧
      value? ((Machine.ofBound .empty 9).eval "x + f(x)" [] none) callerBesideConstant =
        some (.int 4) ∧
      (Machine.ofBound .empty 9).eval "K" variableAndConstant.vars none variableAndConstant =
        .ok (.int 1) variableAndConstant ∧
      (Machine.ofBound .empty 9).eval "K" [] none variableAndConstant =
        .ok (.int 2) variableAndConstant := by
  have hapart (name : Text) : callerBesideConstant.vars.get? (some name) = none ∨
      callerBesideConstant.consts.get? (some name) = none := by
    by_cases hname : name = "x"
    · right
      rw [hname]
      decide
    · left
      exact if_neg fun h => hname (Option.some.inj h).symm
  refine ⟨?_, by decide +kernel, ?_⟩
  · exact ((returned_value_agrees_unless_constant .empty 9 callerBesideConstant none).1 hapart _).1
  · exact (returned_value_agrees_unless_constant .empty 8 variableAndConstant none).2
      ⟨"K", by decide, by decide⟩ (.int 1) (.int 2) (by decide) (by decide)

end LineScript
