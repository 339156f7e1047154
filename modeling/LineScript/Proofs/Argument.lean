import LineScript.Proofs.Form
import LineScript.Proofs.Observer
import LineScript.Proofs.Word

/-!
How arguments are passed. The arguments of a call are the parts between all the commas in its
parentheses, and a point anywhere in the text makes it a method call of what stands before the last
point. So a call is given the value of the expression that is written in its parentheses if the
expression holds no comma and no point.
-/

namespace LineScript

open Exec

theorem Text.commaParts_of_not_mem {t : Text} (hcomma : ',' ∉ t) (hblank : strip t ≠ []) :
    commaParts t = [strip t] := by
  rw [commaParts, splitAll_of_not_mem hcomma]
  simp [hblank]

theorem Exec.length_of_mapM_ok {α β : Type} {f : α → Exec β} {items : List α} {results : List β}
    {s t : State} (h : items.mapM f s = .ok results t) : results.length = items.length := by
  induction items generalizing results s t with
  | nil =>
      rw [List.mapM_nil] at h
      cases h
      rfl
  | cons item items ih =>
      rw [List.mapM_cons] at h
      obtain ⟨result, u, -, hrest⟩ := exists_of_bind_ok h
      obtain ⟨rest, v, hitems, hcons⟩ := exists_of_bind_ok hrest
      cases hcons
      rw [List.length_cons, List.length_cons, ih hitems]

theorem Word.methodCall?_call (w : Word) {before after : Text} (h : '.' ∉ after) :
    Expression.methodCall? (w.call (before ++ '.' :: after)) =
      some (w.text ++ '(' :: before, after ++ [')']) := by
  have hcall : w.call (before ++ '.' :: after) =
      (w.text ++ '(' :: before) ++ '.' :: (after ++ [')']) := by
    simp [call, bracket]
  rw [Expression.methodCall?, hcall, Text.cutLast?_append]
  simp [h]

theorem Expression.methodParts?_of_not_mem {call : Text} (h : '(' ∉ call) :
    methodParts? call = none := by
  rw [methodParts?, Text.cutFirst?_eq_none, Option.map_none]
  intro hinside
  exact h (hinside.subset (by decide))

theorem Expression.methodParts?_append {method : Text} (h : '(' ∉ method) (rest : Text) :
    methodParts? (method ++ '(' :: (rest ++ [')'])) = some (method, rest) := by
  have hcut : Text.cutFirst? ['('] ('(' :: (rest ++ [')'])) = some ([], rest ++ [')']) :=
    Text.cutFirst?_append '(' [] _
  change (Text.cutFirst? ['('] (method ++ '(' :: (rest ++ [')']))).map _ = _
  rw [Text.cutFirst?_append_of_not_mem h, hcut]
  simp

namespace Evaluation

variable {disk : Disk} {m : Machine} {w : Word} {inner : Text} {locals : Variables} {s t : State}

theorem arguments_of_not_mem (hcomma : ',' ∉ inner) (hblank : Text.strip inner ≠ [])
    (self : Option Address) :
    arguments m inner locals self = (do pure [← m.eval (Text.strip inner) locals self]) := by
  rw [arguments, Text.commaParts_of_not_mem hcomma hblank, List.mapM_cons]
  rfl

theorem tryCall_of_function {expr name args : Text} {values : List Value} {routine : Routine}
    (hform : Expression.call? expr = some (name, args)) (hname : name ≠ "read_file")
    (hargs : arguments m args locals none s = .ok values t)
    (hfunction : t.functions.get? (some name) = some routine) :
    tryCall disk m expr locals none s =
      (some <$> if routine.params.length = values.length then
          m.call routine.body (bindParams routine.params values) none
        else fail (.functionArity name routine.params.length)) t := by
  rw [tryCall, hform]
  dsimp only
  rw [bind_of_ok hargs, if_neg hname, get_bind, hfunction]
  dsimp only
  split
  · rfl
  · rfl

theorem eval_call_eq (hpoint : '.' ∉ inner) :
    eval disk m (w.call inner) locals none s =
      (orElse (firstOf (tryCall disk m (w.call inner) locals none) (tryCollection m (w.call inner)))
        <| orElse (tryOperation m (w.call inner) locals none)
        <| orElse (tryIndex m (w.call inner) locals) <| atom (w.call inner) locals) s := by
  have hmethod : tryMethod m (w.call inner) locals none = pure none := by
    apply tryMethod_of_not_mem
    simp [Word.call, Word.bracket, hpoint, w.not_mem (c := '.') (by decide)]
  rw [eval, w.strip_call, tryApplication, if_pos (w.isCall_call inner), hmethod]
  rfl

theorem eval_call {values : List Value} {routine : Routine} (hname : w.text ≠ "read_file")
    (hnewline : '\n' ∉ inner) (hpoint : '.' ∉ inner)
    (hargs : arguments m inner locals none s = .ok values t)
    (hfunction : t.functions.get? (some w.text) = some routine) :
    eval disk m (w.call inner) locals none s =
      (if routine.params.length = values.length then
          m.call routine.body (bindParams routine.params values) none
        else fail (.functionArity w.text routine.params.length)) t := by
  rw [eval_call_eq hpoint]
  apply orElse_of_some
  apply firstOf_of_some
  exact tryCall_of_function (w.call?_call hnewline) hname hargs hfunction

theorem eval_call_of_error {halt : Halt} (hnewline : '\n' ∉ inner) (hpoint : '.' ∉ inner)
    (hargs : arguments m inner locals none s = .error halt t) :
    eval disk m (w.call inner) locals none s = .error halt t := by
  have hcall : tryCall disk m (w.call inner) locals none s = .error halt t := by
    rw [tryCall, w.call?_call hnewline]
    exact bind_of_error hargs _
  rw [eval_call_eq hpoint]
  exact bind_of_error (bind_of_error hcall _) _

theorem eval_call_of_method_error {halt : Halt}
    (h : tryMethod m (w.call inner) locals none s = .error halt t) :
    eval disk m (w.call inner) locals none s = .error halt t := by
  rw [eval, w.strip_call, tryApplication, if_pos (w.isCall_call inner)]
  exact bind_of_error (bind_of_error h _) _

theorem eval_call_of_value {value : Value} {param : Text} {body : List Text}
    (hname : w.text ≠ "read_file") (hnewline : '\n' ∉ inner) (hpoint : '.' ∉ inner)
    (hcomma : ',' ∉ inner) (hblank : Text.strip inner ≠ [])
    (heval : m.eval (Text.strip inner) locals none s = .ok value t)
    (hfunction : t.functions.get? (some w.text) = some ⟨[param], body⟩) :
    eval disk m (w.call inner) locals none s = m.call body [(some param, value)] none t := by
  have hargs : arguments m inner locals none s = .ok [value] t := by
    rw [arguments_of_not_mem hcomma hblank]
    exact bind_of_ok heval _
  exact eval_call hname hnewline hpoint hargs hfunction

theorem eval_call_of_parts (hname : w.text ≠ "read_file") (hnewline : '\n' ∉ inner)
    (hpoint : '.' ∉ inner) (hparts : (Text.commaParts inner).length ≠ 1)
    (hroutine : ∀ values t, arguments m inner locals none s = .ok values t →
      ∃ routine, t.functions.get? (some w.text) = some routine ∧ routine.params.length = 1) :
    eval disk m (w.call inner) locals none s =
      (do
        let _ ← arguments m inner locals none
        fail (.functionArity w.text 1)) s := by
  cases hargs : arguments m inner locals none s with
  | ok values t =>
      obtain ⟨routine, hfunction, harity⟩ := hroutine values t hargs
      have hlength : routine.params.length ≠ values.length := by
        rw [harity, length_of_mapM_ok hargs]
        exact hparts.symm
      rw [bind_of_ok hargs, eval_call hname hnewline hpoint hargs hfunction, if_neg hlength, harity]
  | error halt t =>
      rw [bind_of_error hargs]
      exact eval_call_of_error hnewline hpoint hargs

theorem eval_call_of_unopened {before after : Text} (hpoint : '.' ∉ after)
    (hopening : '(' ∉ after) :
    eval disk m (w.call (before ++ '.' :: after)) locals none s =
      .error (.fault .callNotOpened) s := by
  apply eval_call_of_method_error
  rw [tryMethod, w.methodCall?_call hpoint]
  dsimp only
  rw [Expression.methodParts?_of_not_mem (by simp [hopening])]
  rfl

theorem eval_call_of_receiver_error {before method rest : Text} {halt : Halt}
    (hpoint : '.' ∉ method ++ rest) (hopening : '(' ∉ method)
    (heval : m.eval (w.text ++ '(' :: before) locals none s = .error halt t) :
    eval disk m (w.call (before ++ '.' :: (method ++ '(' :: rest))) locals none s =
      .error halt t := by
  have hafter : '.' ∉ method ++ '(' :: rest := by simpa using hpoint
  apply eval_call_of_method_error
  rw [tryMethod, w.methodCall?_call hafter]
  dsimp only
  rw [List.append_assoc, List.cons_append, Expression.methodParts?_append hopening]
  exact bind_of_error heval _

end Evaluation

/-- The value of an expression is passed to a function of one parameter if the expression holds no
comma and no point. With another number of parts between commas the call fails when all of them have
been evaluated. With a point the call fails if no parenthesis is opened behind the last one, and
otherwise if what stands before it, from the name of the function on, cannot be evaluated. -/
theorem argument_is_passed_unless_cut (disk : Disk) (n : Nat) {f : Word} {e : Text}
    (hname : f.text ≠ "read_file") (hnewline : '\n' ∉ e) (s : State) :
    ('.' ∉ e → ',' ∉ e → Text.strip e ≠ [] →
      ∀ (v : Value) (t : State) (p : Text) (body : List Text),
        (Machine.ofBound disk n).eval e [] none s = .ok v t →
        t.functions.get? (some f.text) = some ⟨[p], body⟩ →
        (Machine.ofBound disk (n + 1)).eval (f.call e) [] none s =
          (Machine.ofBound disk n).call body [(some p, v)] none t) ∧
    ('.' ∉ e → (Text.commaParts e).length ≠ 1 →
      (∀ values t, Evaluation.arguments (Machine.ofBound disk n) e [] none s = .ok values t →
        ∃ routine, t.functions.get? (some f.text) = some routine ∧ routine.params.length = 1) →
      (Machine.ofBound disk (n + 1)).eval (f.call e) [] none s =
        (do
          let _ ← Evaluation.arguments (Machine.ofBound disk n) e [] none
          fail (.functionArity f.text 1)) s) ∧
    (∀ before after, e = before ++ '.' :: after → '.' ∉ after → '(' ∉ after →
      (Machine.ofBound disk (n + 1)).eval (f.call e) [] none s =
        .error (.fault .callNotOpened) s) ∧
    ∀ before method rest halt t, e = before ++ '.' :: (method ++ '(' :: rest) →
      '.' ∉ method ++ rest → '(' ∉ method →
      (Machine.ofBound disk n).eval (f.text ++ '(' :: before) [] none s = .error halt t →
      (Machine.ofBound disk (n + 1)).eval (f.call e) [] none s = .error halt t := by
  refine ⟨?_, ?_, ?_, ?_⟩
  · intro hpoint hcomma hblank v t p body heval hfunction
    rw [← Machine.eval_strip] at heval
    exact Evaluation.eval_call_of_value hname hnewline hpoint hcomma hblank heval hfunction
  · intro hpoint hparts hroutine
    exact Evaluation.eval_call_of_parts hname hnewline hpoint hparts hroutine
  · rintro before after rfl hpoint hopening
    exact Evaluation.eval_call_of_unopened hpoint hopening
  · rintro before method rest halt t rfl hpoint hopening heval
    exact Evaluation.eval_call_of_receiver_error hpoint hopening heval

def doublerOfSuccessor : State :=
  { functions :=
      [(some "g", ⟨["p"], ["return_object p + 1"]⟩), (some "f", ⟨["q"], ["return_object q + q"]⟩)] }

theorem argument_is_passed_unless_cut_nested :
    ∃ t, (Machine.ofBound .empty 9).eval "g(1 + 3)" [] none doublerOfSuccessor = .ok (.int 5) t ∧
      (Machine.ofBound .empty 10).eval "f(g(1 + 3))" [] none doublerOfSuccessor =
        (Machine.ofBound .empty 9).call ["return_object q + q"] [(some "q", .int 5)] none t := by
  have hvalue : value? ((Machine.ofBound .empty 9).eval "g(1 + 3)" [] none) doublerOfSuccessor =
    some (.int 5) := by decide +kernel
  have heval := eq_ok_of_value? hvalue
  refine ⟨_, heval, ?_⟩
  exact (argument_is_passed_unless_cut .empty 9 (f := ⟨"f", by decide, by decide⟩) (e := "g(1 + 3)")
    (by decide) (by decide) doublerOfSuccessor).1 (by decide) (by decide) (by decide) _ _ "q"
    ["return_object q + q"] heval (by decide +kernel)

def identityAndSum : State :=
  { functions :=
      [(some "f", ⟨["p"], ["return_object p"]⟩),
        (some "g", ⟨["a", "b"], ["return_object a + b"]⟩)] }

/-- A call with two arguments has a value, but it cannot be passed: its text is cut at the comma. -/
theorem call_is_cut_at_comma :
    true ∉ identityAndSum.blocks.flags ∧
      (Machine.ofBound .empty 9).eval "g(1, 2)" [] none identityAndSum =
        .ok (.int 3) identityAndSum ∧
      identityAndSum.functions.get? (some ("f" : Text)) = some ⟨["p"], ["return_object p"]⟩ ∧
      value? ((Machine.ofBound .empty 9).call ["return_object p"] [(some "p", .int 3)] none)
        identityAndSum = some (.int 3) ∧
      halt? ((Machine.ofBound .empty 10).eval "f(g(1, 2))" [] none) identityAndSum =
        some (.fault (.undefinedExpression "g(1")) := by
  refine ⟨by decide +kernel, ?_, by decide +kernel, by decide +kernel, by decide +kernel⟩
  rfl

end LineScript
