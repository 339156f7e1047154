import LineScript.Proofs.Blocks
import LineScript.Proofs.Term

namespace LineScript

open Exec

namespace Expression

/-- Whether an expression is taken for a call: it is written like one, and holds a point, has a name
in front of its parenthesis, or makes a dictionary. -/
def isTakenForCall (expr : Text) : Bool :=
  isCall expr && (expr.contains '.' || (call? expr).isSome || isDict expr)

theorem isTakenForCall_of_not_isCall {expr : Text} (h : isCall expr = false) :
    isTakenForCall expr = false := by
  rw [isTakenForCall, h, Bool.false_and]

theorem methodCall?_of_not_mem {expr : Text} (h : '.' ∉ expr) : methodCall? expr = none :=
  Text.cutLast?_of_not_mem h

theorem listItems?_of_not_mem {expr : Text} (h : '.' ∉ expr) : listItems? expr = none := by
  rw [listItems?, Text.after?_of_not_mem (c := '.') (by decide) h, Option.map_none]

theorem field?_of_not_mem {expr : Text} (h : '.' ∉ expr) : field? expr = none := by
  rw [field?, Text.after?_of_not_mem (c := '.') (by decide) h, Option.map_none]

end Expression

theorem Text.endsWithChar_append_of_not_mem {c : Char} {t : Text} (ht : t ≠ []) (hc : c ∉ t)
    (front : Text) : endsWithChar c (front ++ t) = false := by
  rw [endsWithChar, List.getLast?_append_of_ne_nil _ ht, beq_eq_false_iff_ne]
  intro hlast
  exact hc (List.mem_of_getLast? hlast)

theorem Numeral.isLiteral_of_mem {t : Text} {c : Char} (h : c ∈ t) (hdigit : Text.isDigit c = false)
    (hminus : c ≠ '-') : isLiteral t = false := by
  unfold isLiteral
  split
  · rename_i rest
    have hrest : c ∈ rest := by simpa [hminus] using h
    simp only [Bool.and_eq_false_iff, List.all_eq_false]
    exact .inr ⟨c, hrest, by simp [hdigit]⟩
  · simp only [Bool.and_eq_false_iff, List.all_eq_false]
    exact .inr ⟨c, h, by simp [hdigit]⟩

theorem Machine.eval_strip (disk : Disk) (n : Nat) (source : Text) (locals : Variables)
    (self : Option Address) :
    (ofBound disk n).eval (Text.strip source) locals self =
      (ofBound disk n).eval source locals self := by
  cases n with
  | zero => rfl
  | succ n =>
      change Evaluation.eval disk _ (Text.strip source) locals self =
        Evaluation.eval disk _ source locals self
      rw [Evaluation.eval, Evaluation.eval, Text.strip_strip]

theorem Machine.eval_eq_of_strip_eq {source other : Text}
    (h : Text.strip source = Text.strip other) (disk : Disk) (n : Nat) (locals : Variables)
    (self : Option Address) :
    (ofBound disk n).eval source locals self = (ofBound disk n).eval other locals self := by
  rw [← eval_strip, h, eval_strip]

namespace Evaluation

variable {disk : Disk} {m : Machine} {expr source : Text} {locals : Variables}
  {self : Option Address} {s : State}

theorem tryField_of_none (h : Expression.field? expr = none) :
    tryField self expr s = .ok none s := by
  unfold tryField
  rw [h]
  cases self <;> rfl

theorem tryMethod_of_not_mem (h : '.' ∉ expr) : tryMethod m expr locals self = pure none := by
  rw [tryMethod, Expression.methodCall?_of_not_mem h]

theorem tryApplication_of_not_taken (h : Expression.isTakenForCall expr = false) :
    tryApplication disk m expr locals self = pure none := by
  rw [tryApplication]
  split
  · rename_i hcall
    simp only [Expression.isTakenForCall, hcall, Bool.true_and, Bool.or_eq_false_iff,
      Option.isSome_eq_false_iff, Option.isNone_iff_eq_none] at h
    obtain ⟨⟨hpoint, hname⟩, hdict⟩ := h
    have hpoint : '.' ∉ expr := by simpa using hpoint
    rw [tryMethod_of_not_mem hpoint, tryCall, hname, tryCollection,
      Expression.listItems?_of_not_mem hpoint, hdict]
    rfl
  · rfl

theorem eval_of_not_taken (h : Expression.isTakenForCall (Text.strip source) = false) :
    eval disk m source locals none s =
      (orElse (tryOperation m (Text.strip source) locals none) <|
        orElse (tryIndex m (Text.strip source) locals) <| atom (Text.strip source) locals) s := by
  have hskip : tryApplication disk m (Text.strip source) locals none s = .ok none s := by
    rw [tryApplication_of_not_taken h]
    rfl
  exact bind_of_ok hskip _

theorem tryOperation_of_none (h : Expression.operation? expr = none) :
    tryOperation m expr locals self s = .ok none s := by
  rw [tryOperation, h]
  rfl

theorem tryIndex_of_none (h : Expression.index? expr = none) :
    tryIndex m expr locals s = .ok none s := by
  rw [tryIndex, h]
  rfl

theorem eval_of_no_form (hcall : Expression.isCall (Text.strip source) = false)
    (hoperation : Expression.operation? (Text.strip source) = none)
    (hindex : Expression.index? (Text.strip source) = none) :
    eval disk m source locals none s = atom (Text.strip source) locals s := by
  rw [eval_of_not_taken (Expression.isTakenForCall_of_not_isCall hcall),
    orElse_of_none (tryOperation_of_none hoperation), orElse_of_none (tryIndex_of_none hindex)]

theorem atom_of_undefined (hlookup : s.lookup? locals expr = none)
    (hliteral : Numeral.isLiteral expr = false) (hquoted : Expression.isQuoted expr = false) :
    atom expr locals s = .error (.fault (.undefinedExpression expr)) s := by
  rw [atom, get_bind, hlookup]
  simp only [hliteral, hquoted, Bool.false_eq_true, if_false]
  rfl

end Evaluation

end LineScript
