import LineScript.Proofs.Observer

namespace LineScript

open Exec

/-- A list or a dictionary that stands in a heap. -/
def Value.IsStoredIn (heap : Heap) : Value → Prop
  | .list address => address < heap.lists.size
  | .dict address => address < heap.dicts.size
  | _ => False

/-- A collection has the same contents in two heaps. -/
def Value.SameIn (heap other : Heap) : Value → Prop
  | .list address => heap.items address = other.items address
  | .dict address => heap.entries address = other.entries address
  | _ => True

theorem Value.SameIn.refl (heap : Heap) (collection : Value) : collection.SameIn heap heap := by
  cases collection <;> trivial

/-- Since another heap no list and no dictionary has been taken away. -/
structure Heap.Extends (before heap : Heap) : Prop where
  lists : before.lists.size ≤ heap.lists.size
  dicts : before.dicts.size ≤ heap.dicts.size

theorem Value.IsStoredIn.of_extends {before heap : Heap} {collection : Value}
    (h : collection.IsStoredIn before) (hextends : before.Extends heap) :
    collection.IsStoredIn heap := by
  cases collection with
  | list address => exact Nat.lt_of_lt_of_le h hextends.lists
  | dict address => exact Nat.lt_of_lt_of_le h hextends.dicts
  | _ => exact h.elim

theorem Comparison.keptByExecution_extends (before : Heap) :
    (keeping fun s => before.Extends s.heap).KeptByExecution where
  self_none := trivial
  agrees := by rintro s _ ⟨rfl, _⟩; exact .refl s
  lists := by
    rintro s _ items hsize ⟨rfl, h⟩
    exact ⟨rfl, Nat.le_trans h.lists hsize, h.dicts⟩
  dicts := by
    rintro s _ entries hsize ⟨rfl, h⟩
    exact ⟨rfl, h.lists, Nat.le_trans h.dicts hsize⟩
  object := by rintro _ _ s _ name methods _ _ ⟨rfl, h⟩; exact ⟨rfl, h.lists, h.dicts⟩
  routine _ _ _ _ := trivial
  method _ _ := ⟨trivial, fun _ _ => trivial⟩
  spent := by rintro s _ n ⟨rfl, h⟩ _; exact ⟨rfl, h⟩
  body_lines _ _ := trivial
  vars := by rintro s _ own ⟨rfl, h⟩; exact ⟨rfl, h⟩
  faultCount := by rintro s _ n ⟨rfl, h⟩; exact ⟨rfl, h⟩
  output := by rintro s _ o ⟨rfl, h⟩; exact ⟨rfl, h⟩
  body := by rintro s _ ⟨rfl, h⟩; exact ⟨rfl, h⟩
  named _ := trivial
  blocks := by rintro s _ blocks ⟨rfl, h⟩ _ _; exact ⟨rfl, h⟩
  stored := by rintro s _ id line ⟨rfl, h⟩ _ _ _; exact .ok () ⟨rfl, h⟩
  field := by
    rintro s _ address field value ⟨rfl, h⟩ _
    exact .ok () ⟨rfl, h.lists, h.dicts⟩
  function := by rintro s _ ⟨rfl, h⟩ _; exact .ok () ⟨rfl, h⟩
  classDef := by rintro s _ ⟨rfl, h⟩ _; exact .ok () ⟨rfl, h⟩
  classMethod := by rintro s _ ⟨rfl, h⟩ _ _; exact .ok () ⟨rfl, h⟩

theorem Machine.extends_of_eval {disk : Disk} {n : Nat} {source : Text} {locals : Variables}
    {self : Option Address} {s t : State} {value : Value}
    (h : (ofBound disk n).eval source locals self s = .ok value t) : s.heap.Extends t.heap := by
  have hkept := Comparison.keptByExecution_extends s.heap
  have hm := ofBound_runsAlike_self (hkept.goesOver disk) n
  exact (hm.eval source locals self trivial).holds_of_ok ⟨Nat.le_refl _, Nat.le_refl _⟩ h

def readElement (collection index : Value) : Exec Value :=
  match collection with
  | .list address => readItem address index
  | .dict address => readEntry address index
  | _ => pure .null

def writeElement (collection index value : Value) : Exec Unit :=
  match collection with
  | .list address => writeItem address index value
  | .dict address => writeEntry address index value
  | _ => pure ()

theorem placeOf?_lt {length n : Nat} {i : Int} (h : placeOf? length i = some n) : n < length := by
  simp only [placeOf?, Option.ite_none_right_eq_some, Bool.and_eq_true, decide_eq_true_eq,
    Option.some.injEq] at h
  split at h <;> omega

theorem indexOf_eq_ok {length n : Nat} {index : Value} {outOfRange : Fault}
    (h : indexOf length outOfRange index = .ok n) :
    n < length ∧ ∀ other, indexOf length other index = .ok n := by
  unfold indexOf at h ⊢
  split at h
  · simp at h
  · split at h
    · rename_i hfits
      cases hplace : placeOf? length _ with
      | none => simp [hplace] at h
      | some place =>
          simp only [hplace, Except.ok.injEq] at h
          subst h
          simp [*, placeOf?_lt hplace]
    · simp at h

theorem lookupKey?_setEntry (key value : Value) (entries : List (Value × Value)) :
    Value.lookupKey? key (setEntry key value entries) = some value := by
  induction entries with
  | nil => simp [setEntry, Value.lookupKey?]
  | cons entry rest ih =>
      rw [setEntry]
      split
      · rename_i hkey
        simp [Value.lookupKey?, hkey]
      · rename_i hkey
        simp [Value.lookupKey?, hkey, ih]

theorem Heap.items_set {heap : Heap} {address : Address} (h : address < heap.lists.size)
    (items : List Value) :
    ({ heap with lists := heap.lists.setIfInBounds address items } : Heap).items address =
      items := by
  simp [Heap.items, h]

theorem Heap.entries_set {heap : Heap} {address : Address} (h : address < heap.dicts.size)
    (entries : List (Value × Value)) :
    ({ heap with dicts := heap.dicts.setIfInBounds address entries } : Heap).entries address =
      entries := by
  simp [Heap.entries, h]

theorem Heap.lt_of_lt_length {heap : Heap} {address : Address} {n : Nat}
    (h : n < (heap.items address).length) : address < heap.lists.size := by
  apply Nat.lt_of_not_le
  intro hout
  simp [Heap.items, Array.getElem?_eq_none hout] at h

variable {address : Address} {index value collection : Value} {s t w : State}

theorem readItem_of_writeItem (h : writeItem address index value s = .ok () t)
    (hw : w.heap.items address = t.heap.items address) :
    readItem address index w = .ok value w := by
  rw [writeItem, get_bind] at h
  cases hplace : indexOf (s.heap.items address).length .assignmentOutOfRange index with
  | error cause =>
      rw [hplace] at h
      cases h
  | ok n =>
      obtain ⟨hn, hread⟩ := indexOf_eq_ok hplace
      rw [hplace] at h
      cases h
      have hitems : w.heap.items address = (s.heap.items address).set n value :=
        hw.trans (Heap.items_set (Heap.lt_of_lt_length hn) _)
      have hvalue : ((s.heap.items address).set n value).getD n .null = value := by
        simp [List.getD_eq_getElem?_getD, hn]
      rw [readItem, get_bind, hitems, List.length_set, hread]
      change EStateM.Result.ok (((s.heap.items address).set n value).getD n .null) w = _
      rw [hvalue]

theorem readEntry_of_writeEntry (haddress : address < s.heap.dicts.size)
    (h : writeEntry address index value s = .ok () t)
    (hw : w.heap.entries address = t.heap.entries address) :
    readEntry address index w = .ok value w := by
  rw [writeEntry, get_bind] at h
  split at h
  · rename_i hhashable
    cases h
    have hentries : w.heap.entries address = setEntry index value (s.heap.entries address) :=
      hw.trans (Heap.entries_set haddress _)
    rw [readEntry, get_bind, if_pos hhashable, hentries, lookupKey?_setEntry]
    rfl
  · cases h

theorem readElement_of_writeElement (hcollection : collection.IsStoredIn s.heap)
    (h : writeElement collection index value s = .ok () t)
    (hw : collection.SameIn t.heap w.heap) : readElement collection index w = .ok value w := by
  cases collection with
  | list address => exact readItem_of_writeItem h hw.symm
  | dict address => exact readEntry_of_writeEntry hcollection h hw.symm
  | _ => exact hcollection.elim

end LineScript
