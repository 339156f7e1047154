import LineScript.Interpreter
import LineScript.Proofs.Chain

/-!
What chains mean. A chain is parsed into a term, and a term has a value where its names have one.
The interpreter, which cuts texts, finds the same values, and fails at the leftmost name without
one.
-/

namespace LineScript

open Exec

inductive Scalar where
  | int (i : Int)
  | bool (b : Bool)
  deriving DecidableEq

namespace Scalar

def number : Scalar → Int
  | int i => i
  | bool b => if b then 1 else 0

def toValue : Scalar → Value
  | int i => .int i
  | bool b => .bool b

/-- A sum is a number, and a comparison of numbers is a truth value. -/
def operate : Operator → Scalar → Scalar → Scalar
  | .add, v, w => int (v.number + w.number)
  | .equal, v, w => bool (v.number = w.number)
  | .greater, v, w => bool (w.number < v.number)
  | .less, v, w => bool (v.number < w.number)

theorem toInt?_toValue (v : Scalar) : v.toValue.toInt? = some v.number := by
  cases v <;> rfl

theorem same_toValue (heap : Heap) (v w : Scalar) :
    v.toValue.same heap w.toValue = .ok (decide (v.number = w.number)) := by
  have hsame (depth : Nat) :
      Value.same? heap (depth + 1) v.toValue w.toValue = some (decide (v.number = w.number)) := by
    by_cases h : v.toValue = w.toValue
    · have hnumber : v.number = w.number := by
        simpa only [toInt?_toValue, Option.some.injEq] using congrArg Value.toInt? h
      simp [Value.same?, h, hnumber]
    · unfold Value.same?
      rw [if_neg h]
      cases v <;> cases w <;> rfl
  rw [Value.same, Value.comparisonDepth, hsame]

theorem ordered_toValue (heap : Heap) (dir : Direction) (v w : Scalar) :
    v.toValue.ordered heap dir w.toValue =
      .ok (dir.holds (fun i j => decide (i < j)) v.number w.number) := by
  cases v <;> cases w <;> rfl

theorem operate_toValue (op : Operator) (v w : Scalar) (s : State) :
    Evaluation.operate op v.toValue w.toValue s = .ok (operate op v w).toValue s := by
  rw [Evaluation.operate, get_bind]
  cases op with
  | add => cases v <;> cases w <;> rfl
  | equal =>
      dsimp only
      rw [same_toValue]
      rfl
  | greater =>
      dsimp only
      rw [ordered_toValue]
      rfl
  | less =>
      dsimp only
      rw [ordered_toValue]
      rfl

end Scalar

abbrev Scope := Identifier → Option Scalar

namespace Scope

/-- What a table of the interpreter holds where it holds the names of a scope and no others. -/
def get? (scope : Scope) : Name → Option Value
  | none => none
  | some t => if h : t.isIdentifier = true then (scope ⟨t, h⟩).map Scalar.toValue else none

end Scope

inductive Term where
  | atom (a : Atom)
  | operation (op : Operator) (left right : Term)

/-- The value of a term. Names without a value do not matter here. -/
def Term.value (scope : Scope) : Term → Scalar
  | atom (.name x) => (scope x).getD (.int 0)
  | atom (.literal l) => .int l.value
  | operation op left right => Scalar.operate op (left.value scope) (right.value scope)

namespace Atom

def undefined? (scope : Scope) : Atom → Option Identifier
  | name x => if (scope x).isNone then some x else none
  | literal _ => none

def result (scope : Scope) : Atom → Except Identifier Scalar
  | name x => (scope x).elim (.error x) .ok
  | literal l => .ok (.int l.value)

end Atom

namespace Chain

/-- The term of a chain: the operator at which it is split, with the terms of the parts. -/
def parse (c : Chain) : Term :=
  match _h : c.split? with
  | none => .atom c.first
  | some (op, left, right) => .operation op left.parse right.parse
termination_by c.rest.length
decreasing_by
  all_goals
    have := length_of_split? _h
    omega

def undefined? (scope : Scope) (c : Chain) : Option Identifier :=
  c.atoms.findSome? (Atom.undefined? scope)

/-- The value of a chain, or the leftmost name that has none. -/
def result (scope : Scope) (c : Chain) : Except Identifier Scalar :=
  match c.undefined? scope with
  | some x => .error x
  | none => .ok (c.parse.value scope)

theorem parse_of_split? {op : Operator} {c l r : Chain} (h : c.split? = some (op, l, r)) :
    c.parse = .operation op l.parse r.parse := by
  rw [parse]
  split
  · simp_all
  · simp_all

theorem parse_of_none {c : Chain} (h : c.split? = none) : c.parse = .atom c.first := by
  rw [parse]
  split
  · rfl
  · simp_all

theorem result_of_split? {op : Operator} {c l r : Chain} (h : c.split? = some (op, l, r))
    (scope : Scope) :
    c.result scope = (do
      let v ← l.result scope
      let w ← r.result scope
      pure (Scalar.operate op v w)) := by
  rw [result, undefined?, atoms_of_split? h, List.findSome?_append, ← undefined?, ← undefined?,
    parse_of_split? h, result, result]
  cases l.undefined? scope with
  | some x => rfl
  | none => cases r.undefined? scope <;> rfl

theorem result_of_none {c : Chain} (h : c.split? = none) (scope : Scope) :
    c.result scope = c.first.result scope := by
  rw [result, undefined?, atoms, rest_of_split? h, parse_of_none h]
  cases c.first with
  | literal l => rfl
  | name x => cases hx : scope x <;> simp [Atom.undefined?, Atom.result, Term.value, hx]

theorem text_of_none {c : Chain} (h : c.split? = none) : c.text = c.first.text := by
  simp [text, rest_of_split? h]

end Chain

/-- There are no constants, and the variables are the names of a scope. -/
structure State.Holds (s : State) (scope : Scope) : Prop where
  consts : s.consts = []
  vars : ∀ name, s.vars.get? name = scope.get? name

namespace Evaluation

/-- What the interpreter makes of the result of a chain. -/
def yield : Except Identifier Scalar → Exec Value
  | .ok v => pure v.toValue
  | .error x => fail (.undefinedExpression x.text)

variable {s : State} {scope : Scope}

theorem orElse_of_none {α : Type} {x : Exec (Option α)} (h : x s = .ok none s) (y : Exec α) :
    orElse x y s = y s :=
  bind_of_ok h _

theorem orElse_of_some {α : Type} {x : Exec (Option α)} {y : Exec α} {t : State}
    (h : x s = (some <$> y) t) (z : Exec α) : orElse x z s = y t := by
  rw [orElse, bind_eq_of_eq h, bind_map_left]
  exact congrFun (bind_pure y) t

theorem firstOf_of_some {α : Type} {x : Exec (Option α)} {y : Exec α} {t : State}
    (h : x s = (some <$> y) t) (z : Exec (Option α)) : firstOf x z s = (some <$> y) t := by
  rw [firstOf, bind_eq_of_eq h, bind_map_left]
  rfl

theorem lookup?_of_holds (hs : s.Holds scope) (name : Text) :
    s.lookup? [] name = scope.get? (some name) := by
  rw [State.lookup?, hs.consts, ← hs.vars]
  rfl

theorem atom_of_literal {locals : Variables} (l : Literal)
    (h : s.lookup? locals l.text = none) : atom l.text locals s = .ok (.int l.value) s := by
  rw [atom, get_bind, h]
  simp only [l.isLiteral_text, readInteger, l.read_text, if_true]
  rfl

theorem atom_literal (hs : s.Holds scope) (l : Literal) :
    atom l.text [] s = .ok (.int l.value) s := by
  -- All variables have identifiers as their names, so a literal is not taken for one of them.
  have hname : l.text.isIdentifier = false := by
    rw [Bool.eq_false_iff]
    intro h
    have hliteral := Identifier.isLiteral_text ⟨l.text, h⟩
    simp [l.isLiteral_text] at hliteral
  have hlookup : s.lookup? [] l.text = none := by
    simp [lookup?_of_holds hs, Scope.get?, hname]
  exact atom_of_literal l hlookup

theorem atom_name (hs : s.Holds scope) (x : Identifier) :
    atom x.text [] s = yield ((Atom.name x).result scope) s := by
  have hlookup : s.lookup? [] x.text = (scope x).map Scalar.toValue := by
    simp [lookup?_of_holds hs, Scope.get?, x.valid]
  rw [atom, get_bind, hlookup, Atom.result]
  cases scope x with
  | some v => rfl
  | none => simp [x.isLiteral_text, x.isQuoted_text, yield]

theorem atom_text (hs : s.Holds scope) (a : Atom) :
    atom a.text [] s = yield (a.result scope) s := by
  cases a with
  | name x => exact atom_name hs x
  | literal l => exact atom_literal hs l

theorem tryOperation_text {m : Machine} {op : Operator} {c l r : Chain}
    (h : c.split? = some (op, l, r))
    (hl : m.eval l.text [] none s = yield (l.result scope) s)
    (hr : m.eval r.text [] none s = yield (r.result scope) s) :
    tryOperation m c.text [] none s = (some <$> yield (c.result scope)) s := by
  rw [tryOperation, c.operation?_text, h, Chain.result_of_split? h]
  dsimp only [Option.map_some]
  rw [bind_eq_of_eq hl]
  cases l.result scope with
  | error x => rfl
  | ok v =>
      change (m.eval r.text [] none >>= _) s = _
      rw [bind_eq_of_eq hr]
      cases r.result scope with
      | error x => rfl
      | ok w =>
          have hvalue : (some <$> operate op v.toValue w.toValue) s =
              .ok (some (Scalar.operate op v w).toValue) s := by
            rw [map_eq_pure_bind, bind_of_ok (Scalar.operate_toValue op v w s)]
            rfl
          cases v with
          | int i => exact hvalue
          | bool b => exact hvalue

theorem eval_of_chain (disk : Disk) (m : Machine) {c : Chain} {source : Text}
    (hsource : Text.strip source = c.text) (s : State) :
    eval disk m source [] none s =
      orElse (tryOperation m c.text [] none) (atom c.text []) s := by
  have hcall : Expression.isCall c.text = false := by
    have hopening := Chain.not_mem_text (by decide : Text.isAtomic '(' = false) (by decide) c
    simp [Expression.isCall, hopening]
  have hindex : Expression.index? c.text = none :=
    Expression.bracketed?_of_not_mem (Chain.not_mem_text (by decide) (by decide) c) ']'
  have helement : orElse (tryIndex m c.text []) (atom c.text []) = atom c.text [] := by
    funext t
    exact orElse_of_none (by rw [tryIndex, hindex]; rfl) _
  rw [eval, hsource, orElse_of_none (x := tryField none c.text) rfl,
    orElse_of_none (x := tryApplication disk m c.text [] none)
      (by rw [tryApplication, hcall]; rfl), helement]

theorem eval_of_atom (disk : Disk) (m : Machine) (a : Atom) (s : State) :
    eval disk m a.text [] none s = atom a.text [] s := by
  have htext : Chain.text ⟨a, []⟩ = a.text := List.append_nil a.text
  have hoperation : tryOperation m (Chain.text ⟨a, []⟩) [] none s = .ok none s := by
    rw [tryOperation, Chain.operation?_text]
    rfl
  have hchain := eval_of_chain disk m (Chain.strip_text ⟨a, []⟩) s
  rwa [orElse_of_none hoperation, htext] at hchain

/-- The interpreter gives a chain its value if it may go as deep as the chain is long. -/
theorem eval_text (disk : Disk) (hs : s.Holds scope) {k : Nat} {c : Chain}
    (hk : c.rest.length < k) {source : Text} (hsource : Text.strip source = c.text) :
    (Machine.ofBound disk k).eval source [] none s = yield (c.result scope) s := by
  induction k generalizing c source with
  | zero => omega
  | succ k ih =>
      change Evaluation.eval disk (.ofBound disk k) source [] none s = _
      rw [eval_of_chain disk _ hsource]
      cases hsplit : c.split? with
      | some split =>
          obtain ⟨op, l, r⟩ := split
          have hlength := Chain.length_of_split? hsplit
          refine orElse_of_some (tryOperation_text hsplit ?_ ?_) _
          · exact ih (by omega) l.strip_text
          · exact ih (by omega) r.strip_text
      | none =>
          have hoperation : tryOperation (.ofBound disk k) c.text [] none s = .ok none s := by
            rw [tryOperation, c.operation?_text, hsplit]
            rfl
          rw [orElse_of_none hoperation, Chain.text_of_none hsplit, Chain.result_of_none hsplit,
            atom_text hs]

end Evaluation

end LineScript
