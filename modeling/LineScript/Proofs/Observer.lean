import LineScript.Proofs.Bound

/-!
Observers. An observer sees each thing that a machine is asked for, together with the state in which
it is asked, and may change that state. Observers say what holds at every moment of an execution: an
observer that acts only where it does not hold is never noticed.
-/

namespace LineScript

open Exec

/-- What a machine can be asked for. -/
inductive Event where
  | eval (source : Text) (locals : Variables) (self : Option Address)
  | call (lines : List Text) (own : Variables) (self : Option Address)
  | line (source : Text) (self : Option Address)

def Event.self : Event → Option Address
  | eval _ _ self => self
  | call _ _ self => self
  | line _ self => self

/-- An observer changes the state that an event meets. -/
abbrev Observer := Event → State → State

namespace Machine

def watched (watch : Observer) (m : Machine) : Machine where
  eval source locals self := do
    modify (watch (.eval source locals self))
    m.eval source locals self
  call lines own self := do
    modify (watch (.call lines own self))
    m.call lines own self
  line source self := do
    modify (watch (.line source self))
    m.line source self

/-- The machine of the given bound where an observer sees all that any part of it is asked for. -/
def observed (disk : Disk) (watch : Observer) : Nat → Machine
  | 0 => idle
  | n + 1 => watched watch (next disk (observed disk watch n) n)

end Machine

/-- At every event of an execution a property of event and state holds: whatever an observer does
where it fails, the execution ends as it does without the observer. -/
def Throughout {α : Type} (disk : Disk) (P : Event → State → Prop) (x : Machine → Exec α)
    (s : State) : Prop :=
  ∀ watch : Observer, (∀ e t, P e t → watch e t = t) →
    ∀ n, x (Machine.observed disk watch n) s = x (Machine.ofBound disk n) s

namespace Comparison

/-- The events that may occur. -/
def Admits (c : Comparison) : Event → Prop
  | .eval _ _ self => c.selfs self
  | .call lines _ self => (∀ line ∈ lines, c.lines line) ∧ c.selfs self
  | .line source self => c.lines source ∧ c.selfs self

/-- A comparison that goes over from machines to the next ones. -/
def GoesOver (c : Comparison) (disk : Disk) : Prop :=
  ∀ {m m' : Machine} (bound : Nat), m.RunsAlike c m' →
    (Machine.next disk m bound).RunsAlike c (Machine.next disk m' bound)

theorem KeptByExecution.goesOver {c : Comparison} (hc : c.KeptByExecution) (disk : Disk) :
    c.GoesOver disk :=
  fun _ hm => hm.next hc disk (.inl rfl)

/-- Both states are the same and have a property. -/
def keeping (P : State → Prop) (selfs : Option Address → Prop := fun _ => True)
    (lines : Text → Prop := fun _ => True) (names : Name → Prop := fun _ => True) :
    Comparison where
  rel s t := s = t ∧ P s
  selfs := selfs
  lines := lines
  names := names

end Comparison

theorem Exec.Matches.eq_of_keeping {α : Type} {P : State → Prop} {selfs : Option Address → Prop}
    {lines : Text → Prop} {names : Name → Prop} {x y : Exec α} {s : State}
    (h : Matches (.keeping P selfs lines names) (x s) (y s)) : x s = y s ∧ P (after x s) := by
  unfold after
  generalize x s = o at h
  generalize y s = p at h
  cases h with
  | ok a ht =>
      obtain ⟨rfl, ht⟩ := ht
      exact ⟨rfl, ht⟩
  | error halt ht =>
      obtain ⟨rfl, ht⟩ := ht
      exact ⟨rfl, ht⟩
  | cut t o hslack => exact hslack.elim

theorem Exec.Alike.eq_of_keeping {α : Type} {P : State → Prop} {selfs : Option Address → Prop}
    {lines : Text → Prop} {names : Name → Prop} {x y : Exec α}
    (h : Alike (.keeping P selfs lines names) x y) {s : State} (hs : P s) :
    x s = y s ∧ P (after x s) :=
  (h (⟨rfl, hs⟩ : s = s ∧ P s)).eq_of_keeping

theorem Exec.Alike.holds_of_ok {α : Type} {P : State → Prop} {selfs : Option Address → Prop}
    {lines : Text → Prop} {x : Exec α} (h : Alike (.keeping P selfs lines) x x) {s t : State}
    {a : α} (hs : P s) (hx : x s = .ok a t) : P t := by
  have hafter := (h.eq_of_keeping hs).2
  rwa [after, hx] at hafter

theorem Exec.after_eq_of_eq {α : Type} {x y : Exec α} {s t : State} (h : x s = y t) :
    after x s = after y t := by
  rw [after, h, ← after]

/-- Why an execution stops, if it does not return. -/
def Exec.halt? {α : Type} (x : Exec α) (s : State) : Option Halt :=
  match x s with
  | .ok _ _ => none
  | .error halt _ => some halt

theorem Exec.halt?_eq_of_eq {α : Type} {x y : Exec α} {s t : State} (h : x s = y t) :
    halt? x s = halt? y t := by
  rw [halt?, h, ← halt?]

theorem Exec.eq_ok_of_halt? {x : Exec Unit} {s : State} (h : halt? x s = none) :
    x s = .ok () (after x s) := by
  unfold halt? at h
  unfold after
  cases ho : x s with
  | ok a t => rfl
  | error halt t => simp [ho] at h

theorem Exec.eq_error_of_halt? {α : Type} {x : Exec α} {s : State} {halt : Halt}
    (h : halt? x s = some halt) : x s = .error halt (after x s) := by
  unfold halt? at h
  unfold after
  cases hx : x s with
  | ok a t => simp [hx] at h
  | error other t =>
      rw [hx, Option.some.injEq] at h
      rw [h]

def Exec.value? {α : Type} (x : Exec α) (s : State) : Option α :=
  match x s with
  | .ok a _ => some a
  | .error _ _ => none

theorem Exec.eq_ok_of_value? {α : Type} {x : Exec α} {s : State} {a : α}
    (h : value? x s = some a) : x s = .ok a (after x s) := by
  unfold value? at h
  unfold after
  cases hx : x s with
  | ok b t =>
      rw [hx, Option.some.injEq] at h
      rw [h]
  | error halt t => simp [hx] at h

theorem Exec.after_bind {α β : Type} {x : Exec α} {f : α → Exec β} {s : State} {P : State → Prop}
    (hx : P (after x s)) (hf : ∀ a t, P t → P (after (f a) t)) : P (after (x >>= f) s) := by
  cases ho : x s with
  | ok a t =>
      rw [after, ho] at hx
      rw [after, bind_of_ok ho]
      exact hf a t hx
  | error halt t =>
      rw [after, ho] at hx
      rw [after, bind_of_error ho]
      exact hx

theorem Exec.after_rescue {α : Type} {x : Exec α} {handle : Fault → Exec α} {s : State}
    {P : State → Prop} (hx : P (after x s))
    (hhandle : ∀ cause t, P t → P (after (handle cause) t)) :
    P (after (rescue x handle) s) := by
  unfold after at hx
  unfold after rescue
  cases ho : x s with
  | ok a t => simpa [ho] using hx
  | error halt t =>
      rw [ho] at hx
      cases halt with
      | fault cause => exact hhandle cause t hx
      | exhausted => exact hx

theorem Exec.spend_cases (s : State) :
    (∃ allowance, spend s = .ok () { s with allowance := allowance }) ∨
      spend s = .error .exhausted s := by
  rw [spend, get_bind]
  rcases s.allowance with _ | _ | k
  · exact .inl ⟨s.allowance, rfl⟩
  · exact .inr rfl
  · exact .inl ⟨some k, rfl⟩

theorem Exec.Matches.keeping {α : Type} {P : State → Prop} {selfs : Option Address → Prop}
    {lines : Text → Prop} {x y : Exec α} {s : State} (heq : x s = y s) (hs : P (after x s)) :
    Matches (.keeping P selfs lines) (x s) (y s) := by
  unfold after at hs
  rw [← heq]
  generalize x s = o at hs
  cases o with
  | ok a t => exact .ok a ⟨rfl, hs⟩
  | error halt t => exact .error halt ⟨rfl, hs⟩

namespace Machine

variable {c : Comparison} {disk : Disk} {watch : Observer}

theorem idle_runsAlike : idle.RunsAlike c idle where
  eval _ _ _ _ := Alike.exhaust
  call _ _ _ _ _ := Alike.exhaust
  line _ _ _ _ := Alike.exhaust

theorem RunsAlike.watched {m m' : Machine} (hm : m.RunsAlike c m')
    (hwatch : ∀ e s t, c.Admits e → c.rel s t → c.rel (watch e s) t) :
    (watched watch m).RunsAlike c m' where
  eval source locals self hself s t h :=
    hm.eval source locals self hself (hwatch _ s t hself h)
  call lines own self hlines hself s t h :=
    hm.call lines own self hlines hself (hwatch _ s t ⟨hlines, hself⟩ h)
  line source self hline hself s t h :=
    hm.line source self hline hself (hwatch _ s t ⟨hline, hself⟩ h)

theorem observed_runsAlike (hc : c.GoesOver disk)
    (hwatch : ∀ e s t, c.Admits e → c.rel s t → c.rel (watch e s) t) (n : Nat) :
    (observed disk watch n).RunsAlike c (ofBound disk n) := by
  induction n with
  | zero => exact idle_runsAlike
  | succ n ih => exact (hc n ih).watched hwatch

theorem observed_runsAlike_self (hc : c.GoesOver disk)
    (hwatch : ∀ e s t, c.Admits e → c.rel s t → c.rel (watch e s) (watch e t)) (n : Nat) :
    (observed disk watch n).RunsAlike c (observed disk watch n) := by
  induction n with
  | zero => exact idle_runsAlike
  | succ n ih =>
      have hnext := hc n ih
      refine ⟨⟨?_, ?_⟩, ?_⟩
      · intro source locals self hself s t h
        exact hnext.eval source locals self hself (hwatch _ s t hself h)
      · intro lines own self hlines hself s t h
        exact hnext.call lines own self hlines hself (hwatch _ s t ⟨hlines, hself⟩ h)
      · intro source self hline hself s t h
        exact hnext.line source self hline hself (hwatch _ s t ⟨hline, hself⟩ h)

theorem ofBound_runsAlike_self (hc : c.GoesOver disk) (n : Nat) :
    (ofBound disk n).RunsAlike c (ofBound disk n) := by
  induction n with
  | zero => exact idle_runsAlike
  | succ n ih => exact hc n ih

end Machine

theorem Throughout.of_keeping_below {α : Type} {disk : Disk} {P : State → Prop}
    {selfs : Option Address → Prop} {lines : Text → Prop} {Q : Event → State → Prop}
    (hc : (Comparison.keeping P selfs lines).GoesOver disk)
    (hQ : ∀ e t, (Comparison.keeping P selfs lines).Admits e → P t → Q e t)
    {x : Machine → Exec α} {s : State}
    (hx : ∀ (n : Nat) (m : Machine), m.RunsAlike (.keeping P selfs lines) (.ofBound disk n) →
      x m s = x (.ofBound disk n) s) :
    Throughout disk Q x s := by
  intro watch hwatch n
  apply hx
  refine Machine.observed_runsAlike hc ?_ n
  rintro e u _ he ⟨rfl, hu⟩
  rw [hwatch e u (hQ e u he hu)]
  exact ⟨rfl, hu⟩

theorem Throughout.of_keeping {α : Type} {disk : Disk} {P : State → Prop}
    {selfs : Option Address → Prop} {lines : Text → Prop} {Q : Event → State → Prop}
    (hc : (Comparison.keeping P selfs lines).GoesOver disk)
    (hQ : ∀ e t, (Comparison.keeping P selfs lines).Admits e → P t → Q e t)
    {x : Machine → Exec α} {s : State}
    (hx : ∀ m m' : Machine, m.RunsAlike (.keeping P selfs lines) m' → x m s = x m' s) :
    Throughout disk Q x s :=
  .of_keeping_below hc hQ fun _ m hm => hx m _ hm

end LineScript
