import LineScript.Proofs.InertClasses

/-!
Evaluations end where there are no functions and no methods. All that an evaluation then asks of the
machine are the values of shorter texts, so it goes no deeper than its text is long.
-/

namespace LineScript

open Exec

namespace Exec

variable {α β : Type} {P : State → Prop}

/-- An outcome is a value or a fault, and its state has a property. -/
inductive Ended (P : State → Prop) : EStateM.Result Halt State α → Prop
  | ok (a : α) {s : State} (h : P s) : Ended P (.ok a s)
  | fault (cause : Fault) {s : State} (h : P s) : Ended P (.error (.fault cause) s)

/-- An execution is not cut off and keeps a property of states. -/
def Ends (P : State → Prop) (x : Exec α) : Prop :=
  ∀ ⦃s : State⦄, P s → Ended P (x s)

theorem Ends.finishes {x : Exec α} (hx : Ends P x) {s : State} (hs : P s) :
    finishes x s = true := by
  have hended := hx hs
  rw [Exec.finishes]
  generalize x s = o at hended
  cases hended with
  | ok a h => rfl
  | fault cause h => rfl

theorem Ends.holds_after {x : Exec α} (hx : Ends P x) {s : State} (hs : P s) :
    P (after x s) := by
  have hended := hx hs
  rw [after]
  generalize x s = o at hended
  cases hended with
  | ok a h => exact h
  | fault cause h => exact h

theorem Ends.pure (a : α) : Ends P (pure a) :=
  fun _ h => .ok a h

theorem Ends.fail (cause : Fault) : Ends P (fail cause : Exec α) :=
  fun _ h => .fault cause h

theorem Ends.ofExcept (e : Except Fault α) : Ends P (ofExcept e) := by
  cases e with
  | ok a => exact Ends.pure a
  | error cause => exact Ends.fail cause

theorem Ends.bind {x : Exec α} {f : α → Exec β} (hx : Ends P x) (hf : ∀ a, Ends P (f a)) :
    Ends P (x >>= f) := by
  intro s hs
  have hended := hx hs
  change Ended P (EStateM.bind x f s)
  unfold EStateM.bind
  generalize x s = o at hended
  cases hended with
  | ok a h => exact hf a h
  | fault cause h => exact .fault cause h

theorem Ends.map {x : Exec α} (hx : Ends P x) (f : α → β) : Ends P (f <$> x) := by
  rw [map_eq_pure_bind]
  exact hx.bind fun a => Ends.pure (f a)

theorem Ends.get {f : State → Exec β} (h : ∀ s, P s → Ends P (f s)) : Ends P (get >>= f) :=
  fun s hs => h s hs hs

theorem Ends.mapM {ι : Type} {f : ι → Exec α} {items : List ι} (h : ∀ i ∈ items, Ends P (f i)) :
    Ends P (items.mapM f) := by
  induction items with
  | nil =>
      rw [List.mapM_nil]
      exact Ends.pure []
  | cons i items ih =>
      have hrest := ih fun j hj => h j (List.mem_cons_of_mem i hj)
      rw [List.mapM_cons]
      exact (h i List.mem_cons_self).bind fun a => hrest.bind fun rest => Ends.pure (a :: rest)

theorem Ends.orElse {x : Exec (Option α)} {y : Exec α} (hx : Ends P x) (hy : Ends P y) :
    Ends P (orElse x y) := by
  refine hx.bind fun a => ?_
  cases a with
  | some a => exact Ends.pure a
  | none => exact hy

theorem Ends.firstOf {x y : Exec (Option α)} (hx : Ends P x) (hy : Ends P y) :
    Ends P (firstOf x y) := by
  refine hx.bind fun a => ?_
  cases a with
  | some a => exact Ends.pure (some a)
  | none => exact hy

end Exec

/-- There are no functions, and neither classes nor objects have methods. -/
structure State.LacksRoutines (s : State) : Prop where
  functions : s.functions = []
  classes : ∀ entry ∈ s.classes, entry.2 = []
  objects : ∀ object ∈ s.heap.objects, object.methods = []

namespace State.LacksRoutines

variable {s : State} (hs : s.LacksRoutines)

include hs

theorem methods_eq (address : Address) : (s.heap.object address).methods = [] := by
  rw [Heap.object]
  cases hobject : s.heap.objects[address]? with
  | none => rfl
  | some object => exact hs.objects object (Array.mem_of_getElem? hobject)

theorem pushObject (className : Text) :
    State.LacksRoutines
      { s with heap := { s.heap with objects := s.heap.objects.push ⟨className, [], []⟩ } } where
  functions := hs.functions
  classes := hs.classes
  objects := by
    intro object hobject
    rcases Array.mem_push.mp hobject with hold | rfl
    · exact hs.objects object hold
    · rfl

end State.LacksRoutines

namespace Evaluation

/-!
Operations on values, which do not use the machine.
-/

theorem ends_newList (items : List Value) : Ends State.LacksRoutines (newList items) :=
  fun _ hs => .ok _ ⟨hs.functions, hs.classes, hs.objects⟩

theorem ends_newDict (entries : List (Value × Value)) :
    Ends State.LacksRoutines (newDict entries) :=
  fun _ hs => .ok _ ⟨hs.functions, hs.classes, hs.objects⟩

theorem ends_setItems (address : Address) (items : List Value) :
    Ends State.LacksRoutines (setItems address items) :=
  fun _ hs => .ok _ ⟨hs.functions, hs.classes, hs.objects⟩

theorem ends_readItem (address : Address) (index : Value) :
    Ends State.LacksRoutines (readItem address index) :=
  Ends.get fun _ _ => (Ends.ofExcept _).bind fun _ => Ends.pure _

theorem ends_readEntry (address : Address) (key : Value) :
    Ends State.LacksRoutines (readEntry address key) := by
  refine Ends.get fun s _ => ?_
  split
  · dsimp only
    split
    · exact Ends.pure _
    · exact Ends.fail _
  · exact Ends.fail _

theorem ends_popItem (address : Address) (i : Int) :
    Ends State.LacksRoutines (popItem address i) := by
  refine Ends.get fun s _ => ?_
  split
  · exact Ends.fail _
  · dsimp only
    split
    · exact Ends.fail _
    · exact (ends_setItems address _).bind fun _ => Ends.pure _

theorem ends_callListMethod (address : Address) (method : Text) (values : List Value) :
    Ends State.LacksRoutines (callListMethod address method values) := by
  unfold callListMethod
  split
  · exact Ends.get fun _ _ => Ends.pure _
  split
  · split
    · exact Ends.get fun _ _ => (ends_setItems address _).bind fun _ => Ends.pure _
    · exact Ends.fail _
  split
  · split
    · exact ends_popItem address _
    · exact (Ends.ofExcept _).bind fun i => ends_popItem address i
    · exact Ends.fail _
  · exact Ends.fail _

theorem ends_add (left right : Value) : Ends State.LacksRoutines (add left right) := by
  unfold add
  split
  · exact Ends.pure _
  · exact Ends.get fun _ _ => ends_newList _
  · exact Ends.fail _
  · exact Ends.fail _
  · split
    · exact Ends.pure _
    · exact Ends.fail _

theorem ends_operate (op : Operator) (left right : Value) :
    Ends State.LacksRoutines (operate op left right) := by
  apply Ends.get
  intro s _
  cases op with
  | add => exact ends_add left right
  | equal => exact (Ends.ofExcept _).map _
  | greater => exact (Ends.ofExcept _).map _
  | less => exact (Ends.ofExcept _).map _

/-!
The forms of an expression. The machine may do anything, as long as it ends on shorter texts.
-/

section

variable {disk : Disk} {m : Machine} {expr : Text} {locals : Variables} {self : Option Address}

theorem ends_operateObject (address : Address) (symbol : Text) (other : Value) :
    Ends State.LacksRoutines (operateObject m address symbol other) := by
  intro s hs
  rw [operateObject_of_no_methods (hs.methods_eq address)]
  exact .fault _ hs

theorem ends_tryField : Ends State.LacksRoutines (tryField self expr) := by
  unfold tryField
  split
  · refine Ends.get fun s _ => ?_
    split
    · exact Ends.pure _
    · exact Ends.fail _
  · exact Ends.pure _

theorem ends_atom : Ends State.LacksRoutines (atom expr locals) := by
  refine Ends.get fun s _ => ?_
  split
  · exact Ends.pure _
  split
  · exact (Ends.ofExcept _).map _
  split
  · exact Ends.pure _
  · exact Ends.fail _

variable (hm : ∀ piece : Text, piece.length < expr.length → ∀ locals self,
  Ends State.LacksRoutines (m.eval piece locals self))

include hm

theorem ends_arguments {source : Text} (hsource : source.length < expr.length)
    (locals : Variables) (self : Option Address) :
    Ends State.LacksRoutines (arguments m source locals self) := by
  apply Ends.mapM
  intro part hpart
  have hle := (Text.isInfix_of_mem_commaParts hpart).length_le
  exact hm part (by omega) locals self

theorem ends_tryMethod : Ends State.LacksRoutines (tryMethod m expr locals self) := by
  unfold tryMethod
  cases hcall : Expression.methodCall? expr with
  | none => exact Ends.pure _
  | some parts =>
      obtain ⟨receiver, call⟩ := parts
      dsimp only
      cases hparts : Expression.methodParts? call with
      | none => exact Ends.fail _
      | some parts =>
          obtain ⟨method, source⟩ := parts
          obtain ⟨hreceiver, hsource⟩ := Expression.length_lt_of_methodCall? hcall hparts
          refine (hm receiver hreceiver locals self).bind fun target => ?_
          refine (ends_arguments hm hsource locals self).bind fun values => ?_
          cases target with
          | list address => exact (ends_callListMethod address method values).map _
          | object address =>
              -- An object has no method of any name, so the text is looked at in other ways.
              refine Ends.get fun s hs => ?_
              rw [hs.methods_eq address]
              exact Ends.pure _
          | _ => exact Ends.pure _

theorem ends_tryCall : Ends State.LacksRoutines (tryCall disk m expr locals self) := by
  unfold tryCall
  cases hcall : Expression.call? expr with
  | none => exact Ends.pure _
  | some parts =>
      obtain ⟨name, source⟩ := parts
      have hsource := Expression.length_lt_of_bracketed? hcall
      refine (ends_arguments hm hsource locals self).bind fun values => ?_
      split
      · split
        · exact (Ends.ofExcept _).map _
        · exact Ends.fail _
      · refine Ends.get fun s hs => ?_
        rw [hs.functions]
        dsimp only [Table.get?]
        cases hclass : s.classes.get? (some name) with
        | none => exact Ends.pure _
        | some methods =>
            -- Without methods there is none that initialises the new object.
            obtain rfl : methods = [] := hs.classes _ (Table.mem_of_get? hclass)
            have hnew : Ends State.LacksRoutines (instantiate m name [] values) :=
              fun t ht => .ok _ (ht.pushObject name)
            exact hnew.map _

theorem ends_tryCollection : Ends State.LacksRoutines (tryCollection m expr) := by
  unfold tryCollection
  cases hitems : Expression.listItems? expr with
  | some source =>
      have hsource := Expression.length_lt_of_listItems? hitems
      exact ((ends_arguments hm hsource [] none).bind fun values => ends_newList values).map _
  | none =>
      dsimp only
      split
      · exact (ends_newDict []).map _
      · exact Ends.pure _

theorem ends_tryApplication :
    Ends State.LacksRoutines (tryApplication disk m expr locals self) := by
  unfold tryApplication
  split
  · exact (ends_tryMethod hm).firstOf ((ends_tryCall hm).firstOf (ends_tryCollection hm))
  · exact Ends.pure _

theorem ends_tryOperation : Ends State.LacksRoutines (tryOperation m expr locals self) := by
  unfold tryOperation
  cases hoperation : Expression.operation? expr with
  | none => exact Ends.pure _
  | some parts =>
      obtain ⟨op, left, right⟩ := parts
      obtain ⟨hleft, hright⟩ := Expression.length_lt_of_operation? hoperation
      refine (hm left hleft locals self).bind fun left => ?_
      refine (hm right hright locals self).bind fun right => ?_
      cases left with
      | object address => exact (ends_operateObject address _ right).map _
      | _ => exact (ends_operate op _ right).map _

theorem ends_tryIndex : Ends State.LacksRoutines (tryIndex m expr locals) := by
  unfold tryIndex
  rcases hindex : Expression.index? expr with _ | ⟨name, _ | ⟨first, source⟩⟩
  · exact Ends.pure _
  · exact Ends.pure _
  · have heval := hm _ (Expression.length_lt_of_bracketed? hindex) [] none
    refine Ends.get fun s _ => ?_
    cases s.lookup? locals name with
    | none => exact Ends.fail _
    | some collection =>
        cases collection with
        | null => exact Ends.fail _
        | object address =>
            exact heval.bind fun index => (ends_operateObject address _ index).map _
        | list address => exact heval.bind fun index => (ends_readItem address index).map _
        | dict address => exact heval.bind fun index => (ends_readEntry address index).map _
        | _ => exact heval.bind fun _ => Ends.pure _

end

/-- An evaluation ends on a machine that ends on all shorter texts. -/
theorem ends_eval (disk : Disk) {m : Machine} {source : Text}
    (hm : ∀ piece : Text, piece.length < source.length → ∀ locals self,
      Ends State.LacksRoutines (m.eval piece locals self))
    (locals : Variables) (self : Option Address) :
    Ends State.LacksRoutines (eval disk m source locals self) := by
  have hle := (Text.strip_isInfix source).length_le
  have hexpr : ∀ piece : Text, piece.length < (Text.strip source).length → ∀ locals self,
      Ends State.LacksRoutines (m.eval piece locals self) :=
    fun piece hpiece => hm piece (by omega)
  exact ends_tryField.orElse <|
    (ends_tryApplication hexpr).orElse <|
      (ends_tryOperation hexpr).orElse <|
        (ends_tryIndex hexpr).orElse <|
          ends_atom

end Evaluation

namespace Machine

theorem ends_eval (disk : Disk) {n : Nat} {source : Text} (hn : source.length < n)
    (locals : Variables) (self : Option Address) :
    Ends State.LacksRoutines ((ofBound disk n).eval source locals self) := by
  induction n generalizing source locals self with
  | zero => omega
  | succ n ih =>
      exact Evaluation.ends_eval disk (fun piece hpiece => ih (by omega)) locals self

/-- The machine that evaluates texts of less than the given length, and is cut off at whatever else
it is asked for. -/
def below (m : Machine) (length : Nat) : Machine where
  eval source locals self :=
    if source.length < length then m.eval source locals self else exhaust
  call _ _ _ := exhaust
  line _ _ := exhaust

theorem below_eval_of_lt {m : Machine} {length : Nat} {source : Text}
    (h : source.length < length) : (m.below length).eval source = m.eval source := by
  funext locals self
  exact if_pos h

theorem below_evaluatesAlike (m : Machine) (length : Nat) :
    (m.below length).EvaluatesAlike .cutOff m where
  eval source locals self _ := by
    rintro s _ rfl
    change Matches _ ((if source.length < length then m.eval source locals self else exhaust) s) _
    split
    · exact Matches.refl (fun _ => rfl) _
    · exact .cut s _ trivial
  call lines own self _ _ := fun s _ _ => .cut s _ trivial

end Machine

/-- Without functions and methods every evaluation ends, on each machine whose bound is greater than
the length of the text. It is the same evaluation on a machine that is cut off at calls, at lines,
and at texts that are not shorter: nothing else is ever asked for. Functions and methods do not come
into being on the way. -/
theorem evaluation_ends_without_routines (disk : Disk) {s : State} (hs : s.LacksRoutines)
    (source : Text) (locals : Variables) (self : Option Address) {n : Nat}
    (hn : source.length ≤ n) :
    finishes ((Machine.ofBound disk (n + 1)).eval source locals self) s = true ∧
      (Machine.ofBound disk (n + 1)).eval source locals self s =
        Evaluation.eval disk ((Machine.ofBound disk n).below source.length) source locals self s ∧
      (after ((Machine.ofBound disk (n + 1)).eval source locals self) s).LacksRoutines := by
  have hends := Machine.ends_eval disk (Nat.lt_succ_of_le hn) locals self
  refine ⟨hends.finishes hs, ?_, hends.holds_after hs⟩
  have hbelow : Ends State.LacksRoutines
      (Evaluation.eval disk ((Machine.ofBound disk n).below source.length) source locals self) := by
    apply Evaluation.ends_eval
    intro piece hpiece locals self
    rw [Machine.below_eval_of_lt hpiece]
    exact Machine.ends_eval disk (by omega) locals self
  have halike : Alike .cutOff _ ((Machine.ofBound disk (n + 1)).eval source locals self) :=
    Comparison.keptBySources_cutOff.eval
      (Machine.below_evaluatesAlike (Machine.ofBound disk n) source.length) disk source locals
      trivial
  exact halike.eq_of_finishes (hbelow.finishes hs)

/-- A list beside a class without methods, and an object of the class. -/
def stateWithoutRoutines : State :=
  { vars := [(some "xs", .list 0), (some "o", .object 0)]
    classes := [(some "C", [])]
    heap := { lists := #[[.int 4, .int 5]], objects := #[⟨"C", [], []⟩] } }

/-- An expression that changes a list, and one that is malformed. -/
theorem evaluation_ends_without_routines_pop :
    stateWithoutRoutines.LacksRoutines ∧
      finishes ((Machine.ofBound .empty 20).eval "xs.pop(0) + xs[0]" [] (some 0))
        stateWithoutRoutines = true ∧
      value? ((Machine.ofBound .empty 20).eval "xs.pop(0) + xs[0]" [] (some 0))
        stateWithoutRoutines = some (.int 9) ∧
      finishes ((Machine.ofBound .empty 20).eval "o.len(xs[xs[()" [] none)
        stateWithoutRoutines = true := by
  have hlacks : stateWithoutRoutines.LacksRoutines :=
    { functions := rfl
      classes := by simp [stateWithoutRoutines]
      objects := by simp [stateWithoutRoutines] }
  refine ⟨hlacks, ?_, by decide +kernel, ?_⟩
  · exact (evaluation_ends_without_routines .empty hlacks _ [] (some 0) (n := 19) (by decide)).1
  · exact (evaluation_ends_without_routines .empty hlacks _ [] none (n := 19) (by decide)).1

end LineScript
