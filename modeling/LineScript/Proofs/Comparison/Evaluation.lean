import LineScript.Evaluation
import LineScript.Proofs.Comparison
import LineScript.Proofs.Pieces

/-!
Comparisons that evaluations keep. An evaluation reads the heap, the names, the functions and the
classes, and writes to the heap only; all else it does by the machine, which it asks for the values
of pieces of the expression and for calls. So two machines that evaluate the pieces of an expression
alike, and call bodies alike, evaluate the expression alike.
-/

namespace LineScript

open Exec

def Machine.CallsAlike (c : Comparison) (m m' : Machine) : Prop :=
  ∀ lines own self, (∀ line ∈ lines, c.lines line) → c.selfs self →
    Alike c (m.call lines own self) (m'.call lines own self)

/-- Two machines evaluate expressions and call bodies alike. -/
structure Machine.EvaluatesAlike (c : Comparison) (m m' : Machine) : Prop where
  eval : ∀ source locals self, c.selfs self →
    Alike c (m.eval source locals self) (m'.eval source locals self)
  call : m.CallsAlike c m'

/-- Two machines evaluate the pieces of a text alike, each with local names of its own and with
none, and find the same values of the names that stand in it. -/
structure Machine.EvaluatesPiecesAlike (c : Comparison) (m m' : Machine) (text : Text)
    (locals locals' : Variables) (current : Option Address) : Prop where
  eval : ∀ piece, piece <:+: text →
    Alike c (m.eval piece locals current) (m'.eval piece locals' current)
  evalAlone : ∀ piece, piece <:+: text → Alike c (m.eval piece [] none) (m'.eval piece [] none)
  lookup : ∀ name, name <:+: text → ∀ s t : State, c.rel s t →
    s.lookup? locals name = t.lookup? locals' name

theorem Machine.EvaluatesPiecesAlike.of_isInfix {c : Comparison} {m m' : Machine}
    {text piece : Text} {locals locals' : Variables} {current : Option Address}
    (h : m.EvaluatesPiecesAlike c m' text locals locals' current) (hpiece : piece <:+: text) :
    m.EvaluatesPiecesAlike c m' piece locals locals' current where
  eval part hpart := h.eval part (hpart.trans hpiece)
  evalAlone part hpart := h.evalAlone part (hpart.trans hpiece)
  lookup name hname := h.lookup name (hname.trans hpiece)

/-- Two states have in common all that expressions and lines read: everything but the output and
the number of the current line. -/
structure State.Agrees (s t : State) : Prop where
  vars : s.vars = t.vars
  consts : s.consts = t.consts
  functions : s.functions = t.functions
  classes : s.classes = t.classes
  blocks : s.blocks = t.blocks
  bodies : s.bodies = t.bodies
  heap : s.heap = t.heap
  faultCount : s.faultCount = t.faultCount
  allowance : s.allowance = t.allowance

theorem State.Agrees.refl (s : State) : s.Agrees s := by
  constructor <;> rfl

/-- A comparison that operations on values keep: states that go together have the same heap, and
what is written to lists and dictionaries leaves them together. No list or dictionary is ever taken
away. -/
structure Comparison.KeptByOperations (c : Comparison) : Prop where
  heap {s t : State} : c.rel s t → s.heap = t.heap
  lists {s t : State} (items : Array (List Value)) : s.heap.lists.size ≤ items.size →
    c.rel s t →
    c.rel { s with heap := { s.heap with lists := items } }
      { t with heap := { t.heap with lists := items } }
  dicts {s t : State} (entries : Array (List (Value × Value))) :
    s.heap.dicts.size ≤ entries.size → c.rel s t →
    c.rel { s with heap := { s.heap with dicts := entries } }
      { t with heap := { t.heap with dicts := entries } }

/-- A comparison that applications keep: functions and classes are the same, too, and new objects
may be made. The bodies that are called hold lines that may occur. -/
structure Comparison.KeptByApplications (c : Comparison) : Prop extends c.KeptByOperations where
  functions {s t : State} : c.rel s t → s.functions = t.functions
  classes {s t : State} : c.rel s t → s.classes = t.classes
  object {s t s' t' : State} {name : Text} {methods : Table Name Routine} : c.rel s t →
    s.classes.get? (some name) = some methods → c.rel s' t' →
    c.rel { s' with heap := { s'.heap with objects := s'.heap.objects.push ⟨name, [], methods⟩ } }
      { t' with heap := { t'.heap with objects := t'.heap.objects.push ⟨name, [], methods⟩ } }
  routine {s t : State} {name : Name} {routine : Routine} : c.rel s t →
    s.functions.get? name = some routine → ∀ line ∈ routine.body, c.lines line
  method {s t : State} {address : Address} {name : Name} {routine : Routine} : c.rel s t →
    (s.heap.object address).methods.get? name = some routine →
    c.selfs (some address) ∧ ∀ line ∈ routine.body, c.lines line

/-- A comparison that expressions keep: names have the same values, too. -/
structure Comparison.KeptByExpressions (c : Comparison) : Prop extends c.KeptByApplications where
  self_none : c.selfs none
  vars_eq {s t : State} : c.rel s t → s.vars = t.vars
  consts_eq {s t : State} : c.rel s t → s.consts = t.consts

/-- A comparison that all evaluations keep: states that go together agree. -/
structure Comparison.KeptByEvaluation (c : Comparison) : Prop extends c.KeptByApplications where
  self_none : c.selfs none
  agrees {s t : State} : c.rel s t → s.Agrees t
  heap := fun h => (agrees h).heap
  functions := fun h => (agrees h).functions
  classes := fun h => (agrees h).classes

namespace Comparison.KeptByOperations

variable {c : Comparison} (hc : c.KeptByOperations)

include hc

theorem newList (items : List Value) : Alike c (newList items) (newList items) := by
  intro s t h
  have hheap := hc.heap h
  change Matches c (.ok (Value.list s.heap.lists.size) _) (.ok (Value.list t.heap.lists.size) _)
  rw [← hheap]
  have hnew := hc.lists (s.heap.lists.push items) (by simp) h
  rw [← hheap] at hnew
  exact .ok _ hnew

theorem newDict (entries : List (Value × Value)) : Alike c (newDict entries) (newDict entries) := by
  intro s t h
  have hheap := hc.heap h
  change Matches c (.ok (Value.dict s.heap.dicts.size) _) (.ok (Value.dict t.heap.dicts.size) _)
  rw [← hheap]
  have hnew := hc.dicts (s.heap.dicts.push entries) (by simp) h
  rw [← hheap] at hnew
  exact .ok _ hnew

theorem setItems (address : Address) (items : List Value) :
    Alike c (setItems address items) (setItems address items) := by
  refine Alike.modify fun s t h => ?_
  have hnew := hc.lists (s.heap.lists.setIfInBounds address items) (by simp) h
  rwa [hc.heap h] at hnew ⊢

theorem setEntries (address : Address) (entries : List (Value × Value)) :
    Alike c (setEntries address entries) (setEntries address entries) := by
  refine Alike.modify fun s t h => ?_
  have hnew := hc.dicts (s.heap.dicts.setIfInBounds address entries) (by simp) h
  rwa [hc.heap h] at hnew ⊢

theorem readItem (address : Address) (index : Value) :
    Alike c (readItem address index) (readItem address index) := by
  refine Alike.get fun s t h => ?_
  rw [hc.heap h]
  exact (Alike.ofExcept _).bind fun _ => Alike.pure _

theorem writeItem (address : Address) (index value : Value) :
    Alike c (writeItem address index value) (writeItem address index value) := by
  refine Alike.get fun s t h => ?_
  rw [hc.heap h]
  exact (Alike.ofExcept _).bind fun _ => hc.setItems address _

theorem readEntry (address : Address) (key : Value) :
    Alike c (readEntry address key) (readEntry address key) := by
  refine Alike.get fun s t h => ?_
  rw [hc.heap h]
  split
  · dsimp only
    cases Value.lookupKey? key (t.heap.entries address) with
    | some value => exact Alike.pure value
    | none => exact Alike.fail _
  · exact Alike.fail _

theorem writeEntry (address : Address) (key value : Value) :
    Alike c (writeEntry address key value) (writeEntry address key value) := by
  refine Alike.get fun s t h => ?_
  rw [hc.heap h]
  split
  · exact hc.setEntries address _
  · exact Alike.fail _

theorem popItem (address : Address) (i : Int) :
    Alike c (popItem address i) (popItem address i) := by
  refine Alike.get fun s t h => ?_
  rw [hc.heap h]
  split
  · exact Alike.fail _
  · dsimp only
    cases placeOf? (t.heap.items address).length i with
    | none => exact Alike.fail _
    | some n => exact (hc.setItems address _).bind fun _ => Alike.pure _

theorem callListMethod (address : Address) (method : Text) (values : List Value) :
    Alike c (callListMethod address method values) (callListMethod address method values) := by
  unfold LineScript.callListMethod
  split
  · refine Alike.get fun s t h => ?_
    rw [hc.heap h]
    exact Alike.pure _
  split
  · rcases values with _ | ⟨value, _ | ⟨_, _⟩⟩
    · exact Alike.fail _
    · refine Alike.get fun s t h => ?_
      rw [hc.heap h]
      exact (hc.setItems address _).bind fun _ => Alike.pure _
    · exact Alike.fail _
  split
  · rcases values with _ | ⟨value, _ | ⟨_, _⟩⟩
    · exact hc.popItem address _
    · exact (Alike.ofExcept _).bind fun i => hc.popItem address i
    · exact Alike.fail _
  · exact Alike.fail _

theorem add (left right : Value) :
    Alike c (Evaluation.add left right) (Evaluation.add left right) := by
  unfold Evaluation.add
  split
  · exact Alike.pure _
  · refine Alike.get fun s t h => ?_
    rw [hc.heap h]
    exact hc.newList _
  · exact Alike.fail _
  · exact Alike.fail _
  · split
    · exact Alike.pure _
    · exact Alike.fail _

theorem operate (op : Operator) (left right : Value) :
    Alike c (Evaluation.operate op left right) (Evaluation.operate op left right) := by
  refine Alike.get fun s t h => ?_
  rw [hc.heap h]
  cases op with
  | add => exact hc.add left right
  | equal => exact (Alike.ofExcept _).map _
  | greater => exact (Alike.ofExcept _).map _
  | less => exact (Alike.ofExcept _).map _

theorem tryField (self : Option Address) (expr : Text) :
    Alike c (Evaluation.tryField self expr) (Evaluation.tryField self expr) := by
  cases self with
  | none => exact Alike.pure none
  | some address =>
      unfold Evaluation.tryField
      cases Expression.field? expr with
      | none => exact Alike.pure none
      | some field =>
          refine Alike.get fun s t h => ?_
          rw [hc.heap h]
          cases (t.heap.object address).fields.get? field with
          | some value => exact Alike.pure (some value)
          | none => exact Alike.fail _

end Comparison.KeptByOperations

namespace Comparison.KeptByApplications

variable {c : Comparison} (hc : c.KeptByApplications) {m m' : Machine}
  (hcalls : m.CallsAlike c m')

include hc hcalls

theorem callMethod (address : Address) (method : Text) (values : List Value) :
    Alike c (Evaluation.callMethod m address method values)
      (Evaluation.callMethod m' address method values) := by
  refine Alike.get fun s t h => ?_
  rw [← hc.heap h]
  dsimp only
  cases hroutine : (s.heap.object address).methods.get? (some method) with
  | none => exact Alike.fail _
  | some routine =>
      obtain ⟨hself, hlines⟩ := hc.method h hroutine
      dsimp only
      split
      · exact hcalls _ _ _ hlines hself
      · exact Alike.fail _

theorem operateObject (address : Address) (symbol : Text) (other : Value) :
    Alike c (Evaluation.operateObject m address symbol other)
      (Evaluation.operateObject m' address symbol other) := by
  refine Alike.get fun s t h => ?_
  rw [← hc.heap h]
  cases Evaluation.operatorMethod? symbol with
  | none => exact Alike.fail _
  | some method =>
      dsimp only
      split
      · exact hc.callMethod hcalls address _ _
      · exact Alike.fail _

theorem instantiate {s t : State} {name : Text} {methods : Table Name Routine}
    (h : c.rel s t) (hclass : s.classes.get? (some name) = some methods) (values : List Value) :
    Alike c (Evaluation.instantiate m name methods values)
      (Evaluation.instantiate m' name methods values) := by
  have hnew : Alike c (newObject ⟨name, [], methods⟩) (newObject ⟨name, [], methods⟩) := by
    intro s' t' h'
    have hpush := hc.object h hclass h'
    change Matches c (.ok s'.heap.objects.size _) (.ok t'.heap.objects.size _)
    rw [← hc.heap h'] at hpush ⊢
    exact .ok _ hpush
  refine hnew.bind fun address => ?_
  split
  · exact (hc.callMethod hcalls address _ _).bind fun _ => Alike.pure _
  · exact Alike.pure _

variable {expr : Text} {locals locals' : Variables} {self : Option Address}
  (hpieces : m.EvaluatesPiecesAlike c m' expr locals locals' self)

include hpieces

omit hc hcalls in
theorem argumentsOf {source : Text} (hsource : source <:+: expr) :
    Alike c (Evaluation.arguments m source locals self)
      (Evaluation.arguments m' source locals' self) :=
  Alike.mapM fun part hpart =>
    hpieces.eval part ((Text.isInfix_of_mem_commaParts hpart).trans hsource)

theorem tryMethod :
    Alike c (Evaluation.tryMethod m expr locals self)
      (Evaluation.tryMethod m' expr locals' self) := by
  unfold Evaluation.tryMethod
  cases hcall : Expression.methodCall? expr with
  | none => exact Alike.pure none
  | some parts =>
      obtain ⟨receiver, call⟩ := parts
      dsimp only
      cases hparts : Expression.methodParts? call with
      | none => exact Alike.fail _
      | some parts =>
          obtain ⟨method, source⟩ := parts
          obtain ⟨hreceiver, hsource⟩ := Expression.isInfix_of_methodCall? hcall hparts
          refine (hpieces.eval receiver hreceiver).bind fun target => ?_
          refine (argumentsOf hpieces hsource).bind fun values => ?_
          cases target with
          | list address => exact (hc.callListMethod address method values).map _
          | object address =>
              refine Alike.get fun s t h => ?_
              rw [← hc.heap h]
              split
              · exact (hc.callMethod hcalls address method values).map _
              · exact Alike.pure none
          | _ => exact Alike.pure none

theorem tryCall (hself : c.selfs self) (disk : Disk) :
    Alike c (Evaluation.tryCall disk m expr locals self)
      (Evaluation.tryCall disk m' expr locals' self) := by
  unfold Evaluation.tryCall
  cases hcall : Expression.call? expr with
  | none => exact Alike.pure none
  | some parts =>
      obtain ⟨name, source⟩ := parts
      have hsource := (Expression.isInfix_of_bracketed? hcall).2
      refine (argumentsOf hpieces hsource).bind fun values => ?_
      split
      · split
        · exact (Alike.ofExcept _).map _
        · exact Alike.fail _
      · refine Alike.get fun s t h => ?_
        rw [← hc.functions h, ← hc.classes h]
        cases hroutine : s.functions.get? (some name) with
        | some routine =>
            dsimp only
            split
            · exact (hcalls _ _ self (hc.routine h hroutine) hself).map _
            · exact Alike.fail _
        | none =>
            dsimp only
            cases hclass : s.classes.get? (some name) with
            | some methods => exact (hc.instantiate hcalls h hclass values).map _
            | none => exact Alike.pure none

omit hcalls in
theorem tryCollection :
    Alike c (Evaluation.tryCollection m expr) (Evaluation.tryCollection m' expr) := by
  unfold Evaluation.tryCollection
  cases hitems : Expression.listItems? expr with
  | some source =>
      have hsource := Expression.isInfix_of_listItems? hitems
      have hvalues : Alike c (Evaluation.arguments m source [] none)
          (Evaluation.arguments m' source [] none) :=
        Alike.mapM fun part hpart =>
          hpieces.evalAlone part ((Text.isInfix_of_mem_commaParts hpart).trans hsource)
      exact (hvalues.bind fun values => hc.newList values).map _
  | none =>
      dsimp only
      split
      · exact (hc.newDict []).map _
      · exact Alike.pure none

theorem tryOperation :
    Alike c (Evaluation.tryOperation m expr locals self)
      (Evaluation.tryOperation m' expr locals' self) := by
  unfold Evaluation.tryOperation
  cases hoperation : Expression.operation? expr with
  | none => exact Alike.pure none
  | some parts =>
      obtain ⟨op, left, right⟩ := parts
      obtain ⟨hleft, hright⟩ := Expression.isInfix_of_operation? hoperation
      refine (hpieces.eval left hleft).bind fun left => ?_
      refine (hpieces.eval right hright).bind fun right => ?_
      cases left with
      | object address => exact (hc.operateObject hcalls address _ right).map _
      | _ => exact (hc.operate op _ right).map _

theorem tryIndex :
    Alike c (Evaluation.tryIndex m expr locals) (Evaluation.tryIndex m' expr locals') := by
  unfold Evaluation.tryIndex
  rcases hindex : Expression.index? expr with _ | ⟨name, _ | ⟨first, source⟩⟩
  · exact Alike.pure none
  · exact Alike.pure none
  · obtain ⟨hname, hsource⟩ := Expression.isInfix_of_bracketed? hindex
    refine Alike.get fun s t h => ?_
    rw [← hpieces.lookup name hname s t h]
    cases s.lookup? locals name with
    | none => exact Alike.fail _
    | some collection =>
        have heval := hpieces.evalAlone (first :: source) hsource
        cases collection with
        | null => exact Alike.fail _
        | object address =>
            exact heval.bind fun index => (hc.operateObject hcalls address _ index).map _
        | list address => exact heval.bind fun index => (hc.readItem address index).map _
        | dict address => exact heval.bind fun index => (hc.readEntry address index).map _
        | _ => exact heval.bind fun _ => Alike.pure none

omit hc hcalls in
theorem atom : Alike c (Evaluation.atom expr locals) (Evaluation.atom expr locals') := by
  refine Alike.get fun s t h => ?_
  rw [hpieces.lookup expr (List.infix_refl expr) s t h]
  cases t.lookup? locals' expr with
  | some value => exact Alike.pure value
  | none =>
      dsimp only
      split
      · exact (Alike.ofExcept _).map _
      split
      · exact Alike.pure _
      · exact Alike.fail _

theorem tryApplication (hself : c.selfs self) (disk : Disk) :
    Alike c (Evaluation.tryApplication disk m expr locals self)
      (Evaluation.tryApplication disk m' expr locals' self) := by
  unfold Evaluation.tryApplication
  split
  · exact (hc.tryMethod hcalls hpieces).firstOf
      ((hc.tryCall hcalls hpieces hself disk).firstOf (hc.tryCollection hpieces))
  · exact Alike.pure _

end Comparison.KeptByApplications

theorem Comparison.KeptByApplications.evalText {c : Comparison} (hc : c.KeptByApplications)
    {m m' : Machine} (hcalls : m.CallsAlike c m') {source : Text} {locals locals' : Variables}
    {self : Option Address} (hpieces : m.EvaluatesPiecesAlike c m' source locals locals' self)
    (hself : c.selfs self) (disk : Disk) :
    Alike c (Evaluation.eval disk m source locals self)
      (Evaluation.eval disk m' source locals' self) := by
  have hexpr := hpieces.of_isInfix (Text.strip_isInfix source)
  exact (hc.tryField self _).orElse <|
    (hc.tryApplication hcalls hexpr hself disk).orElse <|
      (hc.tryOperation hcalls hexpr).orElse <|
        (hc.tryIndex hcalls hexpr).orElse <|
          atom hexpr

namespace Comparison.KeptByExpressions

variable {c : Comparison} (hc : c.KeptByExpressions) {m m' : Machine} (hm : m.EvaluatesAlike c m')

include hc hm

theorem pieces (text : Text) (locals : Variables) {self : Option Address} (hself : c.selfs self) :
    m.EvaluatesPiecesAlike c m' text locals locals self where
  eval piece _ := hm.eval piece locals self hself
  evalAlone piece _ := hm.eval piece [] none hc.self_none
  lookup name _ s t h := by rw [State.lookup?, State.lookup?, hc.vars_eq h, hc.consts_eq h]

/-- Machines that are alike evaluate every expression alike. -/
theorem eval (disk : Disk) (source : Text) (locals : Variables) {self : Option Address}
    (hself : c.selfs self) :
    Alike c (Evaluation.eval disk m source locals self)
      (Evaluation.eval disk m' source locals self) :=
  hc.evalText hm.call (hc.pieces hm source locals hself) hself disk

theorem condition (source : Text) :
    Alike c (Evaluation.condition m source) (Evaluation.condition m' source) := by
  refine (hm.eval source [] none hc.self_none).bind fun _ => Alike.get fun s t h => ?_
  rw [hc.heap h]
  exact Alike.pure _

end Comparison.KeptByExpressions

namespace Comparison.KeptByEvaluation

variable {c : Comparison} (hc : c.KeptByEvaluation) {m m' : Machine} (hm : m.EvaluatesAlike c m')

theorem arguments (hm : m.EvaluatesAlike c m') (source : Text) (locals : Variables)
    {self : Option Address} (hself : c.selfs self) :
    Alike c (Evaluation.arguments m source locals self)
      (Evaluation.arguments m' source locals self) :=
  Alike.mapM fun part _ => hm.eval part locals self hself

include hc

theorem keptByExpressions : c.KeptByExpressions :=
  { hc.toKeptByApplications with
    self_none := hc.self_none
    vars_eq := fun h => (hc.agrees h).vars
    consts_eq := fun h => (hc.agrees h).consts }

include hm

theorem pieces (text : Text) (locals : Variables) {self : Option Address} (hself : c.selfs self) :
    m.EvaluatesPiecesAlike c m' text locals locals self :=
  hc.keptByExpressions.pieces hm text locals hself

theorem eval (disk : Disk) (source : Text) (locals : Variables) {self : Option Address}
    (hself : c.selfs self) :
    Alike c (Evaluation.eval disk m source locals self)
      (Evaluation.eval disk m' source locals self) :=
  hc.keptByExpressions.eval hm disk source locals hself

theorem condition (source : Text) :
    Alike c (Evaluation.condition m source) (Evaluation.condition m' source) :=
  hc.keptByExpressions.condition hm source

end Comparison.KeptByEvaluation

end LineScript
