import LineScript.Proofs.Argument
import LineScript.Proofs.Bound

/-!
Sums of expressions. A sum that is not taken for a call is cut at its first plus between blanks, and
has the value that its summands add up to. Two calls with a plus between them are taken for one call
of the first function.
-/

namespace LineScript

open Exec

namespace Expression

def sum (summands : List Text) : Text := Text.joinWith Operator.add.mark summands

theorem sum_singleton (e : Text) : sum [e] = e := by
  rw [sum, Text.joinWith, List.intercalate_singleton]

theorem sum_cons {es : List Text} (h : es ≠ []) (e : Text) :
    sum (e :: es) = e ++ (Operator.add.mark ++ sum es) := by
  obtain ⟨next, rest, rfl⟩ := List.exists_cons_of_ne_nil h
  rw [sum, Text.joinWith, List.intercalate_cons_cons, List.append_assoc]
  rfl

theorem operation?_sum {left : Text} (h : ¬Operator.add.mark <:+: left ++ " +".toList)
    (right : Text) :
    operation? (left ++ (Operator.add.mark ++ right)) = some (.add, left, right) := by
  have hcut : Text.cutFirst? Operator.add.mark (left ++ (Operator.add.mark ++ right)) =
      some (left, right) :=
    Text.cutFirst?_append_of_not_infix h right
  rw [operation?, Operator.all, operationFrom?, hcut]

end Expression

namespace Evaluation

variable {m : Machine} {left right : Text} {s t u : State}

def addition (m : Machine) (left right : Text) : Exec Value := do
  let v ← m.eval left [] none
  let w ← m.eval right [] none
  match v with
  | .object address => operateObject m address Operator.add.symbol w
  | _ => operate .add v w

theorem addition_of_scalars {v w : Scalar} (hleft : m.eval left [] none s = .ok v.toValue t)
    (hright : m.eval right [] none t = .ok w.toValue u) :
    addition m left right s = .ok (.int (v.number + w.number)) u := by
  rw [addition, bind_of_ok hleft, bind_of_ok hright]
  have hsum := Scalar.operate_toValue .add v w u
  cases v with
  | int i => exact hsum
  | bool b => exact hsum

theorem tryOperation_of_sum {expr : Text}
    (h : Expression.operation? expr = some (.add, left, right)) :
    tryOperation m expr [] none = some <$> addition m left right := by
  rw [tryOperation, h, addition]
  simp only [map_bind]
  congr 1
  funext v
  congr 1
  funext w
  cases v <;> rfl

end Evaluation

namespace Machine

variable {disk : Disk} {n : Nat} {left right : Text} {s t u : State}

theorem eval_sum_pair (hleft : Text.strip left ≠ []) (hright : Text.strip right ≠ [])
    (hmark : ¬Operator.add.mark <:+: left ++ " +".toList)
    (hcall : Expression.isTakenForCall (Text.strip (left ++ (Operator.add.mark ++ right))) =
      false) :
    (ofBound disk (n + 1)).eval (left ++ (Operator.add.mark ++ right)) [] none s =
      Evaluation.addition (ofBound disk n) left right s := by
  have hstrip := Text.strip_append hleft hright Operator.add.mark
  have hmark' : ¬Operator.add.mark <:+: Text.dropBlanks left ++ " +".toList := by
    obtain ⟨blanks, hblanks⟩ := List.dropWhile_suffix (l := left) Text.isBlank
    intro hinside
    apply hmark
    rw [← hblanks, List.append_assoc]
    exact hinside.trans (List.suffix_append _ _).isInfix
  have hsame : Evaluation.addition (ofBound disk n) (Text.dropBlanks left)
      (Text.stripEnd Text.isBlank right) = Evaluation.addition (ofBound disk n) left right := by
    rw [Evaluation.addition, Evaluation.addition, eval_eq_of_strip_eq (Text.strip_dropBlanks left),
      eval_eq_of_strip_eq (Text.strip_stripEnd right)]
  have hoperation : Evaluation.tryOperation (ofBound disk n)
      (Text.strip (left ++ (Operator.add.mark ++ right))) [] none =
        some <$> Evaluation.addition (ofBound disk n) left right := by
    rw [hstrip, Evaluation.tryOperation_of_sum (Expression.operation?_sum hmark' _), hsame]
  change Evaluation.eval disk (ofBound disk n) _ [] none s = _
  rw [Evaluation.eval_of_not_taken hcall, hoperation]
  exact Evaluation.orElse_of_some rfl _

/-- The summands evaluate to numbers or truth values, one after the other, that add up to a total.
-/
inductive AddUp (m : Machine) : List Text → Int → State → State → Prop
  | one {e : Text} {v : Scalar} {s t : State} (heval : m.eval e [] none s = .ok v.toValue t) :
      AddUp m [e] v.number s t
  | more {e : Text} {es : List Text} {v : Scalar} {total : Int} {s t u : State}
      (heval : m.eval e [] none s = .ok v.toValue t) (hrest : AddUp m es total t u) :
      AddUp m (e :: es) (v.number + total) s u

theorem AddUp.ne_nil {m : Machine} {es : List Text} {total : Int} (h : m.AddUp es total s t) :
    es ≠ [] := by
  cases h with
  | one heval => simp
  | more heval hrest => simp

end Machine

/-- What a sum has to be like to be cut between its summands: none is blank, none but the last holds
a plus or ends in one, and the sum is not taken for a call, from whichever summand on it is read. -/
structure Expression.IsAdditive (summands : List Text) : Prop where
  notBlank : ∀ e ∈ summands, Text.strip e ≠ []
  noPlus : ∀ e ∈ summands.dropLast, ¬Operator.add.mark <:+: e ++ " +".toList
  noCall : ∀ es, es <:+ summands → 2 ≤ es.length → isTakenForCall (Text.strip (sum es)) = false

namespace Expression.IsAdditive

theorem tail {e : Text} {es : List Text} (h : IsAdditive (e :: es)) : IsAdditive es where
  notBlank e' he' := h.notBlank e' (List.mem_cons_of_mem e he')
  noPlus e' he' := by
    apply h.noPlus e'
    cases es with
    | nil => simp at he'
    | cons next rest => simp [he']
  noCall es' hes' := h.noCall es' (hes'.trans (List.suffix_cons e es))

theorem strip_sum {es : List Text} (h : IsAdditive es) (hes : es ≠ []) :
    Text.strip (sum es) ≠ [] := by
  obtain ⟨e, rest, rfl⟩ := List.exists_cons_of_ne_nil hes
  have hinside : e <:+: sum (e :: rest) := Text.isInfix_joinWith List.mem_cons_self _
  intro hblank
  apply h.notBlank e List.mem_cons_self
  rw [Text.strip_eq_nil_iff] at hblank ⊢
  intro c hc
  exact hblank c (hinside.subset hc)

end Expression.IsAdditive

/-- A sum that can be cut is evaluated to the total. Each summand takes the interpreter one level
deeper. -/
theorem Machine.AddUp.eval_sum {disk : Disk} {n : Nat} {es : List Text} {total : Int}
    {s t : State} (h : (ofBound disk n).AddUp es total s t) (hes : Expression.IsAdditive es) :
    ∃ v : Scalar,
      (ofBound disk (n + es.length)).eval (Expression.sum es) [] none s = .ok v.toValue t ∧
        v.number = total ∧ (2 ≤ es.length → v = .int total) := by
  induction h with
  | @one e v s t heval =>
      refine ⟨v, ?_, rfl, by simp⟩
      rw [Expression.sum_singleton]
      exact eval_of_le (Nat.le_add_right n _) heval
  | @more e es v total s t u heval hrest ih =>
      obtain ⟨w, hsum, rfl, -⟩ := ih hes.tail
      have hne := hrest.ne_nil
      obtain ⟨next, rest, rfl⟩ := List.exists_cons_of_ne_nil hne
      have htaken := hes.noCall _ (List.suffix_refl _) (by simp)
      rw [Expression.sum_cons hne] at htaken
      refine ⟨.int (v.number + w.number), ?_, rfl, fun _ => rfl⟩
      rw [Expression.sum_cons hne]
      refine (eval_sum_pair (hes.notBlank e List.mem_cons_self) (hes.tail.strip_sum hne)
        (hes.noPlus e (by simp)) htaken).trans ?_
      exact Evaluation.addition_of_scalars (eval_of_le (Nat.le_add_right n _) heval) hsum

theorem Expression.isQuoted_append_singleton {d : Char} (hd : d ≠ '"') (t : Text) :
    isQuoted (t ++ [d]) = false := by
  cases t with
  | nil => simp [isQuoted, hd]
  | cons c t =>
      have hend : Text.endsWithChar '"' (t ++ [d]) = false :=
        Text.endsWithChar_append_of_not_mem (by simp) (by simp [hd.symm]) t
      simp only [List.cons_append]
      unfold isQuoted
      split
      · simp_all
      · rfl

/-- A text without parentheses, commas, points, newlines and operators: what stands there is a name,
a literal or an element, if it is anything. -/
structure Expression.IsPlain (t : Text) : Prop where
  noBreak : ∀ c ∈ "().,\n".toList, c ∉ t
  noMark : ∀ op : Operator, ¬op.mark <:+: t

namespace Expression.IsPlain

variable {disk : Disk} {a b : Text} {s : State}

theorem not_mem {t : Text} (h : IsPlain t) {c : Char}
    (hc : "().,\n".toList.contains c = true) : c ∉ t :=
  h.noBreak c (List.contains_iff_mem.mp hc)

theorem mark_not_isInfix (h : IsPlain a) (op : Operator) {after : Text}
    (hafter : ¬op.mark <:+: after) : ¬op.mark <:+: a ++ ')' :: after := by
  intro hinside
  have hclosing : ')' ∉ op.mark := by cases op <;> decide
  rcases Text.isInfix_append_cons hclosing hinside with hbefore | hbehind
  · exact h.noMark op hbefore
  · exact hafter hbehind

theorem eval_closed {m : Machine} (ha : IsPlain a)
    (hlookup : s.lookup? [] (Text.strip (a ++ [')'])) = none) :
    Evaluation.eval disk m (a ++ [')']) [] none s =
      .error (.fault (.undefinedExpression (Text.strip (a ++ [')'])))) s := by
  have hstrip : Text.strip (a ++ [')']) = Text.dropBlanks a ++ [')'] :=
    Text.strip_append_singleton (by decide) a
  have hinside : Text.strip (a ++ [')']) <:+: a ++ [')'] := Text.strip_isInfix _
  have hcall : isCall (Text.strip (a ++ [')'])) = false := by
    have hopening : '(' ∉ Text.strip (a ++ [')']) := by
      intro hmem
      simpa [ha.not_mem (c := '(') (by decide)] using hinside.subset hmem
    simp [isCall, hopening]
  have hoperation : operation? (Text.strip (a ++ [')'])) = none := by
    apply operation?_eq_none
    intro op hmark
    have hnil : ¬op.mark <:+: [] := by simp [Operator.mark]
    exact ha.mark_not_isInfix op hnil (hmark.trans hinside)
  have hindex : index? (Text.strip (a ++ [')'])) = none := by
    apply bracketed?_of_not_endsWith
    rw [hstrip]
    exact Text.endsWithChar_append_of_not_mem (by simp) (by decide) _
  rw [Evaluation.eval_of_no_form hcall hoperation hindex]
  apply Evaluation.atom_of_undefined hlookup
  · rw [hstrip]
    exact Numeral.isLiteral_of_mem (c := ')') (by simp) (by decide) (by decide)
  · rw [hstrip]
    exact isQuoted_append_singleton (by decide) _

end Expression.IsPlain

/-- What stands between the outer parentheses of a call, a plus and a call of `g`. -/
def Word.between (g : Word) (a b : Text) : Text :=
  (a ++ [')']) ++ (Operator.add.mark ++ (g.text ++ '(' :: b))

namespace Word

variable {g : Word} {a b : Text}

theorem sum_calls (f g : Word) (a b : Text) :
    Expression.sum [f.call a, g.call b] = f.call (g.between a b) := by
  rw [Expression.sum_cons (by simp), Expression.sum_singleton]
  simp [call, bracket, between]

theorem not_mem_between {c : Char} (ha : c ∉ a) (hb : c ∉ b) (hword : Text.isWord c = false)
    (hc : " +()".toList.contains c = false) : c ∉ g.between a b := by
  have hsigns : c ≠ ' ' ∧ c ≠ '+' ∧ c ≠ '(' ∧ c ≠ ')' := by simpa using hc
  simp [between, Operator.mark, Operator.symbol, ha, hb, g.not_mem hword, hsigns]

theorem strip_closed_ne_nil (a : Text) : Text.strip (a ++ [')']) ≠ [] :=
  Text.strip_ne_nil (c := ')') (by simp) (by decide)

theorem strip_opened_ne_nil (g : Word) (b : Text) : Text.strip (g.text ++ '(' :: b) ≠ [] :=
  Text.strip_ne_nil (c := '(') (by simp) (by decide)

theorem isCall_between (hb : Expression.IsPlain b) :
    Expression.isCall (Text.strip (g.between a b)) = false := by
  have hclosing : ')' ∉ g.text ++ '(' :: b := by
    simp [g.not_mem (c := ')') (by decide), hb.not_mem (c := ')') (by decide)]
  rw [between, Text.strip_append (strip_closed_ne_nil a) (g.strip_opened_ne_nil b),
    Expression.isCall, ← List.append_assoc, Text.endsWithChar_append_of_not_mem, Bool.false_and]
  · rw [ne_eq, Text.stripEnd_eq_nil_iff, ← Text.strip_eq_nil_iff]
    exact g.strip_opened_ne_nil b
  · intro hmem
    exact hclosing ((Text.stripEnd_isPrefix _ _).subset hmem)

theorem eval_between {disk : Disk} {n : Nat} {s : State} (ha : Expression.IsPlain a)
    (hb : Expression.IsPlain b) (hlookup : s.lookup? [] (Text.strip (a ++ [')'])) = none) :
    (Machine.ofBound disk (n + 2)).eval (g.between a b) [] none s =
      .error (.fault (.undefinedExpression (Text.strip (a ++ [')'])))) s := by
  have hmark : ¬Operator.add.mark <:+: (a ++ [')']) ++ " +".toList := by
    rw [List.append_assoc]
    exact ha.mark_not_isInfix .add (by decide)
  have hcall := Expression.isTakenForCall_of_not_isCall (isCall_between (g := g) (a := a) hb)
  rw [between, Machine.eval_sum_pair (strip_closed_ne_nil a) (g.strip_opened_ne_nil b) hmark hcall]
  exact bind_of_error (ha.eval_closed hlookup) _

/-- Two calls with a plus between them are one call of the first function, and what is left of the
first call is no expression. -/
theorem eval_sum_calls {disk : Disk} {n : Nat} {f : Word} {s : State} (ha : Expression.IsPlain a)
    (hb : Expression.IsPlain b) (hlookup : s.lookup? [] (Text.strip (a ++ [')'])) = none) :
    (Machine.ofBound disk (n + 3)).eval (Expression.sum [f.call a, g.call b]) [] none s =
      .error (.fault (.undefinedExpression (Text.strip (a ++ [')'])))) s := by
  have hnot {c : Char} (hbreak : "().,\n".toList.contains c = true)
      (hword : Text.isWord c = false) (hc : " +()".toList.contains c = false) :
      c ∉ g.between a b :=
    not_mem_between (ha.not_mem hbreak) (hb.not_mem hbreak) hword hc
  have hblank : Text.strip (g.between a b) ≠ [] :=
    Text.strip_ne_nil (c := ')') (by simp [between]) (by decide)
  rw [sum_calls]
  apply Evaluation.eval_call_of_error
  · exact hnot (by decide) (by decide) (by decide)
  · exact hnot (by decide) (by decide) (by decide)
  · rw [Evaluation.arguments_of_not_mem (hnot (by decide) (by decide) (by decide)) hblank,
      Machine.eval_strip]
    exact bind_of_error (eval_between ha hb hlookup) _

end Word

/-- Expressions that evaluate to numbers have a sum that evaluates to their total, if the sum is cut
between them. Two calls with a plus between them are never added. -/
theorem sums_add_up_unless_taken_for_call (disk : Disk) (n : Nat) (s : State) :
    (∀ (summands : List Text) (total : Int) (t : State), 2 ≤ summands.length →
      (Machine.ofBound disk n).AddUp summands total s t → Expression.IsAdditive summands →
      (Machine.ofBound disk (n + summands.length)).eval (Expression.sum summands) [] none s =
        .ok (.int total) t) ∧
    ∀ (f g : Word) (a b : Text), Expression.IsPlain a → Expression.IsPlain b →
      s.lookup? [] (Text.strip (a ++ [')'])) = none →
      (Machine.ofBound disk (n + 3)).eval (Expression.sum [f.call a, g.call b]) [] none s =
        .error (.fault (.undefinedExpression (Text.strip (a ++ [')'])))) s := by
  constructor
  · intro summands total t hlength htotal hadditive
    obtain ⟨v, heval, -, hvalue⟩ := htotal.eval_sum hadditive
    rw [heval, hvalue hlength]
    rfl
  · intro f g a b ha hb hlookup
    exact Word.eval_sum_calls ha hb hlookup

/-- A function that returns its argument, and a variable. -/
def identityAndVariable : State :=
  { functions := [(some "f", ⟨["p"], ["return_object p"]⟩)], vars := [(some "x", .int 4)] }

theorem sums_add_up_unless_taken_for_call_mixed :
    (Machine.ofBound .empty 5).AddUp ["f(3)", " x ", "-2"] 5 identityAndVariable
        identityAndVariable ∧
      Expression.IsAdditive ["f(3)", " x ", "-2"] ∧
      (Machine.ofBound .empty 8).eval "f(3) +  x  + -2" [] none identityAndVariable =
        .ok (.int 5) identityAndVariable := by
  have hcall : (Machine.ofBound .empty 5).eval "f(3)" [] none identityAndVariable =
    .ok (Scalar.int 3).toValue identityAndVariable := by rfl
  have hx : (Machine.ofBound .empty 5).eval " x " [] none identityAndVariable =
    .ok (Scalar.int 4).toValue identityAndVariable := by rfl
  have hliteral : (Machine.ofBound .empty 5).eval "-2" [] none identityAndVariable =
    .ok (Scalar.int (-2)).toValue identityAndVariable := by rfl
  have htotal := Machine.AddUp.more hcall (.more hx (.one hliteral))
  have hadditive : Expression.IsAdditive ["f(3)", " x ", "-2"] := by
    refine ⟨?_, ?_, ?_⟩
    · intro e he
      simp only [List.mem_cons, List.not_mem_nil, or_false] at he
      rcases he with rfl | rfl | rfl <;> decide
    · intro e he
      simp only [List.dropLast, List.mem_cons, List.not_mem_nil, or_false] at he
      rcases he with rfl | rfl <;> decide
    · intro es hes hlength
      simp only [List.suffix_cons_iff, List.suffix_nil] at hes
      rcases hes with rfl | rfl | rfl | rfl
      · decide
      · decide
      · simp at hlength
      · simp at hlength
  exact ⟨htotal, hadditive,
    (sums_add_up_unless_taken_for_call .empty 5 identityAndVariable).1 _ _ _ (by simp) htotal
      hadditive⟩

/-- Each of two calls has a value, but their sum is read as one call with the argument
`1) + f(2`. -/
theorem two_calls_are_not_added :
    true ∉ identityAndVariable.blocks.flags ∧
      (Machine.ofBound .empty 5).eval "f(1)" [] none identityAndVariable =
        .ok (.int 1) identityAndVariable ∧
      (Machine.ofBound .empty 5).eval "f(2)" [] none identityAndVariable =
        .ok (.int 2) identityAndVariable ∧
      halt? ((Machine.ofBound .empty 6).eval "f(1) + f(2)" [] none) identityAndVariable =
        some (.fault (.undefinedExpression "1)")) := by
  refine ⟨by decide +kernel, ?_, ?_, by decide +kernel⟩
  · rfl
  · rfl

end LineScript
