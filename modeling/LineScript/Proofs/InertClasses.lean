import LineScript.Proofs.Orderly

/-!
Classes are inert. A class never gets a method, because a function header inside a class is captured
as text and the first closing brace closes the class. So no object has methods or fields, nothing is
ever executed for an object, and operators fail on objects.
-/

namespace LineScript

open Exec

theorem Expression.isCall_of_call? {expr name args : Text} (h : call? expr = some (name, args)) :
    isCall expr = true := by
  obtain ⟨blanks, rfl⟩ := eq_of_bracketed? h
  simp [isCall, Text.endsWithChar, List.getLast?_append, List.getLast?_cons]

namespace Evaluation

variable {disk : Disk} {m : Machine} {source : Text} {locals : Variables} {s t : State}

theorem eval_of_application {value : Value}
    (h : tryApplication disk m (Text.strip source) locals none s = .ok (some value) t) :
    eval disk m source locals none s = .ok value t :=
  bind_of_ok h _

theorem eval_of_no_application
    (h : tryApplication disk m (Text.strip source) locals none s = .ok none t) :
    eval disk m source locals none s =
      (orElse (tryOperation m (Text.strip source) locals none) <|
        orElse (tryIndex m (Text.strip source) locals) <| atom (Text.strip source) locals) t :=
  bind_of_ok h _

theorem operateObject_of_no_methods {address : Address}
    (h : (s.heap.object address).methods = []) (symbol : Text) (other : Value) :
    operateObject m address symbol other s =
      .error (.fault (.operatorMissing symbol (s.heap.object address).className)) s := by
  rw [operateObject, get_bind, h]
  cases operatorMethod? symbol with
  | none => rfl
  | some method => rfl

theorem tryCall_of_class {expr name args : Text} {values : List Value}
    (hform : Expression.call? expr = some (name, args)) (hname : name ≠ "read_file")
    (hargs : arguments m args locals none s = .ok values t)
    (hfunction : t.functions.get? (some name) = none)
    (hclass : t.classes.get? (some name) = some []) :
    tryCall disk m expr locals none s =
      .ok (some (.object t.heap.objects.size))
        { t with heap := { t.heap with objects := t.heap.objects.push ⟨name, [], []⟩ } } := by
  rw [tryCall, hform]
  dsimp only
  rw [bind_of_ok hargs, if_neg hname, get_bind, hfunction]
  dsimp only
  rw [hclass]
  rfl

theorem tryOperation_of_object {expr left right : Text} {op : Operator} {address : Address}
    {other : Value} {u : State} (hform : Expression.operation? expr = some (op, left, right))
    (hleft : m.eval left locals none s = .ok (.object address) t)
    (hright : m.eval right locals none t = .ok other u)
    (hmethods : (u.heap.object address).methods = []) :
    tryOperation m expr locals none s =
      .error (.fault (.operatorMissing op.symbol (u.heap.object address).className)) u := by
  rw [tryOperation, hform]
  dsimp only
  rw [bind_of_ok hleft, bind_of_ok hright]
  change EStateM.map some (operateObject m address op.symbol other) u = _
  rw [EStateM.map, operateObject_of_no_methods hmethods]

theorem tryIndex_of_object {expr name index : Text} {address : Address} {value : Value}
    (hform : Expression.index? expr = some (name, index)) (hindex : index ≠ [])
    (hobject : s.lookup? locals name = some (.object address))
    (heval : m.eval index [] none s = .ok value t)
    (hmethods : (t.heap.object address).methods = []) :
    tryIndex m expr locals s =
      .error (.fault (.operatorMissing "getitem" (t.heap.object address).className)) t := by
  obtain ⟨c, rest, rfl⟩ := List.exists_cons_of_ne_nil hindex
  rw [tryIndex, hform]
  dsimp only
  rw [get_bind, hobject]
  dsimp only
  rw [bind_of_ok heval]
  change EStateM.map some (operateObject m address "getitem" value) t = _
  rw [EStateM.map, operateObject_of_no_methods hmethods]

end Evaluation

/-- Classes have no methods, and objects neither methods nor fields. A class that is called gives a
new object and executes nothing, whatever its arguments are; an operation on an object and the
reading of an element of it fail when their operands have been evaluated. -/
structure State.IsInert (disk : Disk) (s : State) : Prop where
  classes : ∀ entry ∈ s.classes, entry.2 = []
  objects : ∀ address, (s.heap.object address).methods = [] ∧ (s.heap.object address).fields = []
  instantiation : ∀ {n : Nat} {source name args : Text} {locals : Variables} {values : List Value}
      {methods : Table Name Routine} {t u : State},
    Expression.call? (Text.strip source) = some (name, args) → name ≠ "read_file" →
    Evaluation.tryMethod (Machine.ofBound disk n) (Text.strip source) locals none s = .ok none t →
    Evaluation.arguments (Machine.ofBound disk n) args locals none t = .ok values u →
    u.functions.get? (some name) = none → u.classes.get? (some name) = some methods →
    (Machine.ofBound disk (n + 1)).eval source locals none s =
      .ok (.object u.heap.objects.size)
        { u with heap := { u.heap with objects := u.heap.objects.push ⟨name, [], []⟩ } }
  operation : ∀ {n : Nat} {source left right : Text} {locals : Variables} {op : Operator}
      {address : Address} {other : Value} {t u v : State},
    Evaluation.tryApplication disk (Machine.ofBound disk n) (Text.strip source) locals none s =
      .ok none t →
    Expression.operation? (Text.strip source) = some (op, left, right) →
    (Machine.ofBound disk n).eval left locals none t = .ok (.object address) u →
    (Machine.ofBound disk n).eval right locals none u = .ok other v →
    ∃ cause : Fault, cause.kind = "NotImplementedError" ∧
      (Machine.ofBound disk (n + 1)).eval source locals none s = .error (.fault cause) v
  element : ∀ {n : Nat} {source name index : Text} {locals : Variables} {address : Address}
      {value : Value} {t u : State},
    Evaluation.tryApplication disk (Machine.ofBound disk n) (Text.strip source) locals none s =
      .ok none t →
    Expression.operation? (Text.strip source) = none →
    Expression.index? (Text.strip source) = some (name, index) → index ≠ [] →
    t.lookup? locals name = some (.object address) →
    (Machine.ofBound disk n).eval index [] none t = .ok value u →
    ∃ cause : Fault, cause.kind = "NotImplementedError" ∧
      (Machine.ofBound disk (n + 1)).eval source locals none s = .error (.fault cause) u

theorem State.IsOrderly.isInert {s : State} (h : s.IsOrderly (· = none)) (disk : Disk) :
    s.IsInert disk := by
  have hkept : (Comparison.keeping (State.IsOrderly (· = none)) (· = none)).KeptBySources :=
    Comparison.keptBySources_orderly rfl
  have hm (n : Nat) := (Machine.ofBound_runsAlike_self (hkept.goesOver disk) n).toEvaluatesAlike
  refine ⟨h.class_empty, fun address => ⟨h.methods_empty address, ?_⟩, ?_, ?_, ?_⟩
  · exact h.fields_empty (fun _ => nofun) address
  · intro n source name args locals values methods t u hform hname hmethod hargs hfunction hclass
    -- The class is looked up after its arguments have been evaluated, in a state still in order.
    have hpieces := hkept.pieces (hm n) (Text.strip source) locals rfl
    have ht := (hkept.tryMethod (hm n).call hpieces).holds_of_ok h hmethod
    have hu := (Comparison.KeptByEvaluation.arguments (hm n) args locals rfl).holds_of_ok ht hargs
    obtain rfl : methods = [] := hu.class_empty _ (Table.mem_of_get? hclass)
    apply Evaluation.eval_of_application
    rw [Evaluation.tryApplication, if_pos (Expression.isCall_of_call? hform), firstOf,
      bind_of_ok hmethod]
    exact bind_of_ok (Evaluation.tryCall_of_class hform hname hargs hfunction hclass) _
  · intro n source left right locals op address other t u v hskip hform hleft hright
    have hpieces := hkept.pieces (hm n) (Text.strip source) locals rfl
    have ht := (hkept.tryApplication (hm n).call hpieces rfl disk).holds_of_ok h hskip
    have hu := ((hm n).eval left locals none rfl).holds_of_ok ht hleft
    have hv := ((hm n).eval right locals none rfl).holds_of_ok hu hright
    refine ⟨_, ?_, (Evaluation.eval_of_no_application hskip).trans (bind_of_error
      (Evaluation.tryOperation_of_object hform hleft hright (hv.methods_empty address)) _)⟩
    rfl
  · intro n source name index locals address value t u hskip hop hform hindex hobject heval
    have hpieces := hkept.pieces (hm n) (Text.strip source) locals rfl
    have ht := (hkept.tryApplication (hm n).call hpieces rfl disk).holds_of_ok h hskip
    have hu := ((hm n).eval index [] none rfl).holds_of_ok ht heval
    have hoperation : Evaluation.tryOperation (Machine.ofBound disk n) (Text.strip source) locals
        none t = .ok none t := by
      rw [Evaluation.tryOperation, hop]
      rfl
    refine ⟨_, ?_, (Evaluation.eval_of_no_application hskip).trans
      ((bind_of_ok hoperation _).trans (bind_of_error (Evaluation.tryIndex_of_object hform hindex
        hobject heval (hu.methods_empty address)) _))⟩
    rfl

/-- In every state that is reached by lines without a current object, and at every moment of every
line and source that is executed from it, classes and objects are inert and nothing is executed for
an object. -/
theorem classes_are_inert {s : State} (hs : Reachable (· = none) s) (disk : Disk) :
    s.IsInert disk ∧
      (∀ source, Throughout disk (fun e t => e.self = none ∧ t.IsInert disk)
        (fun m => m.line source none) s) ∧
      ∀ source, Throughout disk (fun e t => e.self = none ∧ t.IsInert disk)
        (fun m => Source.run disk m source) s := by
  have horderly : s.IsOrderly (· = none) := hs.isOrderly rfl
  have hkept : (Comparison.keeping (State.IsOrderly (· = none)) (· = none)).KeptBySources :=
    Comparison.keptBySources_orderly rfl
  have hinert (e : Event) (t : State)
      (he : (Comparison.keeping (State.IsOrderly (· = none)) (· = none)).Admits e)
      (ht : t.IsOrderly (· = none)) : e.self = none ∧ t.IsInert disk := by
    refine ⟨?_, ht.isInert disk⟩
    cases e with
    | eval source locals self => exact he
    | call lines own self => exact he.2
    | line source self => exact he.2
  refine ⟨horderly.isInert disk, fun source => ?_, fun source => ?_⟩
  · refine .of_keeping (hkept.goesOver disk) hinert fun m m' hm => ?_
    exact ((hm.line source none trivial rfl).eq_of_keeping horderly).1
  · refine .of_keeping (hkept.goesOver disk) hinert fun m m' hm => ?_
    exact ((hkept.run hm disk source fun _ => trivial).eq_of_keeping horderly).1

/-- A class in which a method is written, and an object of it. -/
def classWithMethod : State :=
  State.initial.afterLines .empty 8
    ["class A \x7b", "func ___init___(self) \x7b", "\x7d", "tyrt a = A(1, 2)"]

theorem classes_are_inert_method :
    classWithMethod.classes.get? (some ("A" : Text)) = some [] ∧
      classWithMethod.vars.get? (some ("a" : Text)) = some (.object 0) ∧
      classWithMethod.IsInert .empty :=
  ⟨by decide +kernel, by decide +kernel,
    (classes_are_inert (.afterLines .initial rfl (by decide +kernel)) .empty).1⟩

end LineScript
