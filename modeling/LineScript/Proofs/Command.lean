import Mathlib.Logic.Function.Basic
import LineScript.Proofs.Running
import LineScript.Proofs.Term

namespace LineScript

open Exec

inductive Command where
  | assign (x : Identifier) (source : Chain)
  | print (source : Chain)

theorem Identifier.strip_text (x : Identifier) : Text.strip x.text = x.text := by
  simpa [Chain.text, Atom.text] using Chain.strip_text ⟨.name x, []⟩

namespace Command

def source : Command → Chain
  | assign _ source => source
  | print source => source

def text : Command → Text
  | assign x source => ("tyrt " : Text) ++ x.text ++ (" = " : Text) ++ source.text
  | print source => ("print|[ " : Text) ++ source.text ++ (" ]" : Text)

def statement : Command → Statement
  | assign x source => .assign x.text (' ' :: source.text)
  | print source => .print source.text

theorem text_assign (x : Identifier) (c : Chain) :
    (assign x c).text = ("tyrt " : Text) ++ (x.text ++ ' ' :: '=' :: ' ' :: c.text) := by
  change ("tyrt " : Text) ++ x.text ++ (" = " : Text) ++ c.text = _
  simp

theorem text_print (c : Chain) :
    (print c).text = ("print|[" : Text) ++ ([' '] ++ (c.text ++ [' ']) ++ [']']) := by
  change ("print|[ " : Text) ++ c.text ++ (" ]" : Text) = _
  simp

theorem assignment?_text (x : Identifier) (c : Chain) :
    Statement.assignment? (assign x c).text = some (x.text, ' ' :: c.text) := by
  have hstrip : Text.strip (x.text ++ ' ' :: '=' :: ' ' :: c.text) =
      x.text ++ ' ' :: '=' :: ' ' :: c.text := by
    obtain ⟨d, rest, hname, _⟩ := x.exists_cons
    obtain ⟨front, e, hchain, he⟩ := c.exists_text_concat
    have hd : Text.isAtomic d = true := x.isAtomic_of_mem (by simp [hname])
    have hhead : x.text ++ ' ' :: '=' :: ' ' :: c.text =
        d :: (rest ++ ' ' :: '=' :: ' ' :: c.text) := by simp [hname]
    have hlast : x.text ++ ' ' :: '=' :: ' ' :: c.text =
        (x.text ++ ' ' :: '=' :: ' ' :: front) ++ [e] := by simp [hchain]
    exact Text.strip_eq_self hhead (Text.isBlank_of_isAtomic hd) hlast
      (Text.isBlank_of_isAtomic he)
  -- The equals signs of the chain come after that of the assignment.
  have hcut : Text.cutFirst? ['='] (x.text ++ ' ' :: '=' :: ' ' :: c.text) =
      some (x.text ++ [' '], ' ' :: c.text) := by
    have hname : '=' ∉ x.text := fun hmem => absurd (x.isAtomic_of_mem hmem) (by decide)
    have hequal : '=' ∉ x.text ++ [' '] := by simp [hname]
    have hbefore : x.text ++ ' ' :: '=' :: ' ' :: c.text =
        (x.text ++ [' ']) ++ (['='] ++ ' ' :: c.text) := by simp
    rw [hbefore, Text.cutFirst?_append_of_not_mem hequal, Text.cutFirst?_append, Option.map_some,
      List.append_nil]
  have htarget : Text.strip (x.text ++ [' ']) = x.text := by
    rw [Text.strip_append_right (List.forall_mem_singleton.mpr (by decide)), x.strip_text]
  rw [Statement.assignment?, text_assign, Text.after?_append]
  simp only [Option.bind_eq_bind, Option.bind_some, hstrip]
  change (Text.cutFirst? ['='] _).bind _ = _
  rw [hcut, Option.bind_some, htarget]

theorem strip_print (c : Chain) :
    Text.strip ((print c).text.drop "print|[".length).dropLast = c.text := by
  have hdrop : (print c).text.drop "print|[".length = [' '] ++ (c.text ++ [' ']) ++ [']'] := by
    rw [text_print]
    rfl
  have hblank : ∀ d ∈ [' '], Text.isBlank d = true := List.forall_mem_singleton.mpr (by decide)
  rw [hdrop, List.dropLast_concat, Text.strip_append_left hblank, Text.strip_append_right hblank,
    c.strip_text]

theorem ofLine_text (command : Command) : Statement.ofLine command.text = command.statement := by
  cases command with
  | assign x c =>
      have hheader : Statement.header? (assign x c).text = none := rfl
      rw [Statement.ofLine, hheader, assignment?_text]
      rfl
  | print c =>
      have hheader : Statement.header? (print c).text = none := rfl
      have hassign : Statement.assignment? (print c).text = none := rfl
      have hbreak : (print c).text ≠ "loop.break".toList := by
        rw [text_print]
        simp
      have hcontinue : (print c).text ≠ "loop.continue".toList := by
        rw [text_print]
        simp
      have hprint : Text.startsWith "print|[" (print c).text = true := by
        rw [Text.startsWith, text_print, Text.after?_append, Option.isSome_some]
      rw [Statement.ofLine, hheader, hassign]
      dsimp only
      rw [if_neg hbreak, if_neg hcontinue, if_pos hprint, strip_print]
      rfl

theorem isStored_text (command : Command) : Statement.IsStored command.text := by
  cases command with
  | assign x c =>
      obtain ⟨front, d, hchain, hd⟩ := c.exists_text_concat
      have hhead : (assign x c).text = 't' :: _ := rfl
      have hlast : (assign x c).text =
          (("tyrt " : Text) ++ x.text ++ (" = " : Text) ++ front) ++ [d] := by
        rw [text_assign, hchain]
        simp
      refine ⟨?_, rfl, ?_⟩
      · exact Text.strip_eq_self hhead (by decide) hlast (Text.isBlank_of_isAtomic hd)
      · rw [text_assign]
        simp
  | print c =>
      have hhead : (print c).text = 'p' :: _ := rfl
      have hlast : (print c).text =
          ("print|[" : Text) ++ ([' '] ++ (c.text ++ [' '])) ++ [']'] := by
        rw [text_print, ← List.append_assoc]
      refine ⟨Text.strip_eq_self hhead (by decide) hlast (by decide), rfl, ?_⟩
      rw [text_print]
      simp

theorem not_mem_text {d : Char} (hatomic : Text.isAtomic d = false)
    (hsign : d ∉ (" +=><|[]" : Text)) (command : Command) : d ∉ command.text := by
  have hchain (c : Chain) : d ∉ c.text :=
    Chain.not_mem_text hatomic (fun h => hsign (List.mem_append_left "|[]".toList h)) c
  have hlead {lead : Text}
      (hall : lead.all (fun e => Text.isAtomic e || e ∈ (" +=><|[]" : Text)) = true) :
      d ∉ lead := by
    intro hmem
    have hd := List.all_eq_true.mp hall d hmem
    rw [hatomic, Bool.false_or, decide_eq_true_eq] at hd
    exact hsign hd
  cases command with
  | assign x c =>
      have hname : d ∉ x.text := fun hmem => by
        simpa [hatomic] using x.isAtomic_of_mem hmem
      change d ∉ ("tyrt " : Text) ++ x.text ++ (" = " : Text) ++ c.text
      simp only [List.mem_append, not_or]
      exact ⟨⟨⟨hlead (by decide), hname⟩, hlead (by decide)⟩, hchain c⟩
  | print c =>
      change d ∉ ("print|[ " : Text) ++ c.text ++ (" ]" : Text)
      simp only [List.mem_append, not_or]
      exact ⟨⟨hlead (by decide), hchain c⟩, hlead (by decide)⟩

end Command

namespace Scalar

def shown : Scalar → String
  | int i => toString i
  | bool true => "True"
  | bool false => "False"

/-- Whether a scalar has no more digits than can be written. -/
def IsShort : Scalar → Prop
  | int i => (Nat.toDigits 10 i.natAbs).length ≤ 4300
  | bool _ => True

instance (v : Scalar) : Decidable v.IsShort :=
  match v with
  | int i => inferInstanceAs (Decidable ((Nat.toDigits 10 i.natAbs).length ≤ 4300))
  | bool _ => inferInstanceAs (Decidable True)

theorem signed_toDigits (i : Int) :
    Numeral.signed i (Nat.toDigits 10 i.natAbs) = (toString i).toList := by
  cases i with
  | ofNat n =>
      have hrepr : (toString (Int.ofNat n)).toList = Nat.toDigits 10 n := String.toList_ofList
      have hsign : ¬Int.ofNat n < 0 := Int.not_lt.mpr (Int.natCast_nonneg n)
      rw [Numeral.signed, if_neg hsign, hrepr]
      rfl
  | negSucc n =>
      have hrepr : (toString (Int.negSucc n)).toList = '-' :: Nat.toDigits 10 (n + 1) := by
        change ("-" ++ Nat.repr (n + 1)).toList = _
        rw [String.toList_append, Nat.repr, String.toList_ofList, String.toList_ofList]
        rfl
      rw [Numeral.signed, if_pos (Int.negSucc_lt_zero n), hrepr]
      rfl

theorem write?_of_isShort {i : Int} (h : (int i).IsShort) :
    Numeral.write? i = some (toString i).toList := by
  have hlimit : ¬Numeral.digitLimit < (Nat.toDigits 10 i.natAbs).length := Nat.not_lt.mpr h
  rw [Numeral.write?, Numeral.digits_eq, if_neg hlimit, signed_toDigits]

theorem display_toValue (heap : Heap) {v : Scalar} (h : v.IsShort) :
    v.toValue.display heap = .ok v.shown.toList := by
  cases v with
  | int i =>
      change Value.showInt i = _
      rw [Value.showInt, write?_of_isShort h]
      rfl
  | bool b => cases b <;> rfl

end Scalar

/-- The state of a script that has bound names and printed, and has done nothing else. -/
def State.straight (vars : Variables) (lineNumber : Nat) (output : String) : State :=
  { State.initial with vars := vars, lineNumber := lineNumber, output := output }

theorem Scope.get?_update {scope : Scope} {vars : Variables}
    (h : ∀ name, vars.get? name = scope.get? name) (x : Identifier) (v : Scalar) (name : Name) :
    (vars.set (some x.text) v.toValue).get? name =
      Scope.get? (Function.update scope x (some v)) name := by
  by_cases hx : name = some x.text
  · subst hx
    rw [Table.get?_set_self, Scope.get?, dif_pos x.valid]
    change some _ = Option.map _ (Function.update scope x (some v) x)
    rw [Function.update_self]
    rfl
  · rw [Table.get?_set_of_ne hx, h]
    cases name with
    | none => rfl
    | some t =>
        rw [Scope.get?, Scope.get?]
        split
        · rename_i ht
          have hne : (⟨t, ht⟩ : Identifier) ≠ x := by
            rintro rfl
            exact hx rfl
          rw [Function.update_of_ne hne]
        · rfl

namespace Command

variable {disk : Disk} {k : Nat} {vars : Variables} {scope : Scope}

theorem line_text (command : Command) (number : Nat) (output : String) :
    (Machine.ofBound disk (k + 1)).line command.text none (.straight vars number output) =
      Execution.perform (.ofBound disk k) command.text none command.statement
        (.straight vars number output) := by
  have hstored := command.isStored_text
  have hsilent := hstored.not_silent
  rw [← hstored.strip_eq] at hsilent
  change Execution.line _ k _ none _ = _
  rw [Execution.line_of_none hsilent hstored.strip_ne_brace rfl rfl, hstored.strip_eq, ofLine_text]

theorem strip_blank_text (c : Chain) : Text.strip (' ' :: c.text) = c.text := by
  have hblank : ∀ d ∈ [' '], Text.isBlank d = true := List.forall_mem_singleton.mpr (by decide)
  rw [← List.singleton_append, Text.strip_append_left hblank, c.strip_text]

variable (hvars : ∀ name, vars.get? name = scope.get? name)

include hvars

theorem eval_source {c : Chain} (hk : c.rest.length < k) {source : Text}
    (hsource : Text.strip source = c.text) (number : Nat) (output : String) :
    (Machine.ofBound disk k).eval source [] none (.straight vars number output) =
      Evaluation.yield (c.result scope) (.straight vars number output) :=
  Evaluation.eval_text disk ⟨rfl, hvars⟩ hk hsource

theorem line_of_error {command : Command} (hk : command.source.rest.length < k) {y : Identifier}
    (hy : command.source.result scope = .error y) (number : Nat) (output : String) :
    (Machine.ofBound disk (k + 1)).line command.text none (.straight vars number output) =
      .error (.fault (.undefinedExpression y.text)) (.straight vars number output) := by
  have hfault {source : Text} (hsource : Text.strip source = command.source.text) :
      (Machine.ofBound disk k).eval source [] none (.straight vars number output) =
        .error (.fault (.undefinedExpression y.text)) (.straight vars number output) := by
    rw [eval_source hvars hk hsource, hy]
    rfl
  rw [line_text]
  cases command with
  | assign x c => exact bind_of_error (hfault (strip_blank_text c)) _
  | print c => exact bind_of_error (hfault c.strip_text) _

theorem line_assign {x : Identifier} {c : Chain} (hk : (assign x c).source.rest.length < k)
    {v : Scalar} (hv : (assign x c).source.result scope = .ok v) (number : Nat) (output : String) :
    (Machine.ofBound disk (k + 1)).line (assign x c).text none (.straight vars number output) =
      .ok () (.straight (vars.set (some x.text) v.toValue) number output) := by
  have hvalue : (Machine.ofBound disk k).eval (' ' :: c.text) [] none
      (.straight vars number output) = .ok v.toValue (.straight vars number output) := by
    rw [eval_source hvars hk (strip_blank_text c), hv]
    rfl
  have hbracket : '[' ∉ x.text := fun hmem => absurd (x.isAtomic_of_mem hmem) (by decide)
  have hindex : Expression.index? x.text = none := Expression.bracketed?_of_not_mem hbracket ']'
  have helement : Execution.assignElement (.ofBound disk k) x.text v.toValue
      (.straight vars number output) = .ok false (.straight vars number output) := by
    rw [Execution.assignElement, hindex]
    rfl
  rw [line_text, statement, Execution.perform, Execution.assign, bind_of_ok hvalue]
  exact bind_of_ok helement _

theorem line_print {c : Chain} (hk : (print c).source.rest.length < k) {v : Scalar}
    (hv : (print c).source.result scope = .ok v) (hshort : v.IsShort) (number : Nat)
    (output : String) :
    (Machine.ofBound disk (k + 1)).line (print c).text none (.straight vars number output) =
      .ok () (.straight vars number (output ++ (v.shown ++ "\n"))) := by
  have hvalue : (Machine.ofBound disk k).eval c.text [] none
      (.straight vars number output) = .ok v.toValue (.straight vars number output) := by
    rw [eval_source hvars hk c.strip_text, hv]
    rfl
  have hshown : String.ofList (v.shown.toList ++ ['\n']) = v.shown ++ "\n" := by
    rw [String.ofList_append, String.ofList_toList]
  rw [line_text, statement, Execution.perform, bind_of_ok hvalue, get_bind,
    Scalar.display_toValue _ hshort]
  change EStateM.Result.ok () (State.straight vars number
    (output ++ String.ofList (v.shown.toList ++ ['\n']))) = _
  rw [hshown]

end Command

end LineScript
