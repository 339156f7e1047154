import LineScript.Exec

/-!
Two executions compared step by step. A comparison says which states go together. It carries over
from the parts of an execution to the whole: where the parts end alike, so does the whole.
-/

namespace LineScript

/-- What two executions are compared by. -/
structure Comparison where
  /-- The pairs of states that go together. -/
  rel : State → State → Prop
  /-- Whether the first execution may be cut off where the second one is not. -/
  slack : Prop := False
  /-- The current objects that may occur. -/
  selfs : Option Address → Prop := fun _ => True
  /-- The lines that may stand in the body of a function or a method. -/
  lines : Text → Prop := fun _ => True
  /-- The names that a line may give to a loop or a handler. -/
  names : Name → Prop := fun _ => True

namespace Exec

variable {α β : Type} {c : Comparison}

/-- Whether an execution comes to its end, by returning or by a fault, and is not cut off. -/
def finishes (x : Exec α) (s : State) : Bool :=
  match x s with
  | .error .exhausted _ => false
  | _ => true

/-- Two outcomes match: both are the same value or the same halt, in states that go together. With
slack, an execution that is cut off matches any other. -/
inductive Matches (c : Comparison) :
    EStateM.Result Halt State α → EStateM.Result Halt State α → Prop
  | ok (a : α) {s t : State} (h : c.rel s t) : Matches c (.ok a s) (.ok a t)
  | error (halt : Halt) {s t : State} (h : c.rel s t) : Matches c (.error halt s) (.error halt t)
  | cut (s : State) (o : EStateM.Result Halt State α) (h : c.slack) :
      Matches c (.error .exhausted s) o

/-- Two executions are alike: in states that go together their outcomes match. -/
def Alike (c : Comparison) (x y : Exec α) : Prop :=
  ∀ ⦃s t : State⦄, c.rel s t → Matches c (x s) (y t)

theorem Matches.exists_of_ok {x y : Exec α} {s t u : State} {a : α} (h : Matches c (x s) (y t))
    (hok : x s = .ok a u) : ∃ v, y t = .ok a v ∧ c.rel u v := by
  rw [hok] at h
  generalize y t = p at h
  cases h with
  | @ok _ _ v h => exact ⟨v, rfl, h⟩

theorem Matches.bind_of_ok {x y : Exec α} {f g : α → Exec β} {s t : State}
    (hx : Matches c (x s) (y t))
    (hf : ∀ a s' t', x s = .ok a s' → c.rel s' t' → Matches c (f a s') (g a t')) :
    Matches c ((x >>= f) s) ((y >>= g) t) := by
  change Matches c (EStateM.bind x f s) (EStateM.bind y g t)
  unfold EStateM.bind
  generalize x s = o at hx hf
  generalize y t = p at hx
  cases hx with
  | ok a h => exact hf a _ _ rfl h
  | error halt h => exact .error halt h
  | cut s o h => exact .cut s _ h

theorem Matches.bind {x y : Exec α} {f g : α → Exec β} {s t : State}
    (hx : Matches c (x s) (y t)) (hf : ∀ a, Alike c (f a) (g a)) :
    Matches c ((x >>= f) s) ((y >>= g) t) :=
  hx.bind_of_ok fun a _ _ _ h => hf a h

theorem Alike.bind {x y : Exec α} {f g : α → Exec β} (hx : Alike c x y)
    (hf : ∀ a, Alike c (f a) (g a)) : Alike c (x >>= f) (y >>= g) :=
  fun _ _ h => (hx h).bind hf

theorem Alike.pure (a : α) : Alike c (pure a) (pure a) :=
  fun _ _ h => .ok a h

theorem Alike.fail (cause : Fault) : Alike c (fail cause : Exec α) (fail cause) :=
  fun _ _ h => .error _ h

theorem Alike.exhaust : Alike c (exhaust : Exec α) exhaust :=
  fun _ _ h => .error _ h

theorem Alike.ofExcept (e : Except Fault α) : Alike c (ofExcept e) (ofExcept e) := by
  cases e with
  | ok a => exact Alike.pure a
  | error cause => exact Alike.fail cause

theorem Alike.map {x y : Exec α} (hx : Alike c x y) (f : α → β) :
    Alike c (f <$> x) (f <$> y) := by
  rw [map_eq_pure_bind, map_eq_pure_bind]
  exact hx.bind fun a => Alike.pure (f a)

theorem Alike.get {f g : State → Exec β} (h : ∀ s t, c.rel s t → Alike c (f s) (g t)) :
    Alike c (get >>= f) (get >>= g) :=
  fun s t hs => h s t hs hs

theorem Alike.modify {f g : State → State} (h : ∀ ⦃s t⦄, c.rel s t → c.rel (f s) (g t)) :
    Alike c (modify f) (modify g) :=
  fun _ _ hs => .ok () (h hs)

theorem Alike.mapM {ι : Type} {f g : ι → Exec α} {items : List ι}
    (h : ∀ i ∈ items, Alike c (f i) (g i)) : Alike c (items.mapM f) (items.mapM g) := by
  induction items with
  | nil =>
      rw [List.mapM_nil, List.mapM_nil]
      exact Alike.pure []
  | cons i items ih =>
      have hrest := ih fun j hj => h j (List.mem_cons_of_mem i hj)
      rw [List.mapM_cons, List.mapM_cons]
      exact (h i List.mem_cons_self).bind fun a => hrest.bind fun rest => Alike.pure (a :: rest)

theorem Matches.rescue {x y : Exec α} {f g : Fault → Exec α} {s t : State}
    (hx : Matches c (x s) (y t)) (hf : ∀ cause, Alike c (f cause) (g cause)) :
    Matches c (rescue x f s) (rescue y g t) := by
  unfold Exec.rescue
  generalize x s = o at hx
  generalize y t = p at hx
  cases hx with
  | ok a h => exact .ok a h
  | error halt h =>
      cases halt with
      | fault cause => exact hf cause h
      | exhausted => exact .error _ h
  | cut s o h => exact .cut s _ h

theorem Alike.rescue {x y : Exec α} {f g : Fault → Exec α} (hx : Alike c x y)
    (hf : ∀ cause, Alike c (f cause) (g cause)) :
    Alike c (rescue x f) (rescue y g) :=
  fun _ _ h => (hx h).rescue hf

theorem Alike.orElse {x x' : Exec (Option α)} {y y' : Exec α} (hx : Alike c x x')
    (hy : Alike c y y') : Alike c (orElse x y) (orElse x' y') := by
  refine hx.bind fun a => ?_
  cases a with
  | some a => exact Alike.pure a
  | none => exact hy

theorem Alike.firstOf {x x' y y' : Exec (Option α)} (hx : Alike c x x') (hy : Alike c y y') :
    Alike c (firstOf x y) (firstOf x' y') := by
  refine hx.bind fun a => ?_
  cases a with
  | some a => exact Alike.pure (some a)
  | none => exact hy

theorem Matches.leavingBlock {x y : Exec α} {s t : State} (hx : Matches c (x s) (y t)) :
    Matches c (leavingBlock x s) (leavingBlock y t) :=
  hx.rescue fun cause => Alike.fail cause.leaveBlock

theorem Alike.leavingBlock {x y : Exec α} (hx : Alike c x y) :
    Alike c (leavingBlock x) (leavingBlock y) :=
  fun _ _ h => (hx h).leavingBlock

theorem Matches.mono {c' : Comparison} {o p : EStateM.Result Halt State α} (h : Matches c o p)
    (hrel : ∀ ⦃s t : State⦄, c.rel s t → c'.rel s t) (hslack : c.slack → c'.slack) :
    Matches c' o p := by
  cases h with
  | ok a h => exact .ok a (hrel h)
  | error halt h => exact .error halt (hrel h)
  | cut s _ h => exact .cut s _ (hslack h)

end Exec

end LineScript
