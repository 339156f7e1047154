import LineScript.Proofs.Comparison.Execution

namespace LineScript

open Exec

/-- The first execution does what the second one does, or is cut off. -/
def Comparison.cutOff : Comparison where
  rel := Eq
  slack := True

theorem Exec.Matches.refl {α : Type} {c : Comparison} (hc : ∀ s, c.rel s s)
    (o : EStateM.Result Halt State α) : Matches c o o := by
  cases o with
  | ok a s => exact .ok a (hc s)
  | error halt s => exact .error halt (hc s)

theorem Comparison.keptBySources_cutOff : cutOff.KeptBySources where
  self_none := trivial
  agrees h := by cases h; exact .refl _
  lists _ _ h := by cases h; rfl
  dicts _ _ h := by cases h; rfl
  object _ _ h := by cases h; rfl
  routine _ _ _ _ := trivial
  method _ _ := ⟨trivial, fun _ _ => trivial⟩
  spent h _ := by cases h; rfl
  body_lines _ _ := trivial
  vars _ h := by cases h; rfl
  faultCount _ h := by cases h; rfl
  lineNumber_eq h := congrArg _ h
  lineNumber _ h := by cases h; rfl
  output _ h := by cases h; rfl
  body h := by cases h; rfl
  named _ := trivial
  blocks h _ _ := by cases h; rfl
  stored h _ _ _ := by cases h; exact Matches.refl (fun _ => rfl) _
  field _ _ h _ := by cases h; exact Matches.refl (fun _ => rfl) _
  function h _ := by cases h; exact Matches.refl (fun _ => rfl) _
  classDef h _ := by cases h; exact Matches.refl (fun _ => rfl) _
  classMethod h _ _ := by cases h; exact Matches.refl (fun _ => rfl) _

theorem Exec.Alike.eq_of_finishes {α : Type} {x y : Exec α} (h : Alike .cutOff x y) {s : State}
    (hfin : finishes x s = true) : y s = x s := by
  have hs := h (rfl : s = s)
  unfold finishes at hfin
  generalize x s = o at hs hfin
  generalize y s = p at hs
  -- Outcomes that match are equal, unless the first execution has been cut off.
  cases hs with
  | ok a heq => rw [show _ = _ from heq]
  | error halt heq => rw [show _ = _ from heq]
  | cut t o _ => simp at hfin

namespace Machine

/-- A machine does what one of a greater bound does, or is cut off. -/
theorem ofBound_runsAlike (disk : Disk) {n k : Nat} (h : n ≤ k) :
    (ofBound disk n).RunsAlike .cutOff (ofBound disk k) := by
  induction n generalizing k with
  | zero =>
      exact
        { eval := fun _ _ _ _ s _ _ => .cut s _ trivial
          call := fun _ _ _ _ _ s _ _ => .cut s _ trivial
          line := fun _ _ _ _ s _ _ => .cut s _ trivial }
  | succ n ih =>
      obtain ⟨k, rfl⟩ := Nat.exists_eq_add_of_le' (Nat.le_of_add_left_le h)
      rw [ofBound_succ, ofBound_succ]
      have hle : n ≤ k := Nat.le_of_succ_le_succ h
      have hkept := Comparison.keptBySources_cutOff.toKeptByExecution
      exact (ih hle).next hkept disk (.inr ⟨trivial, hle⟩)

theorem eval_eq_of_finishes (disk : Disk) {n k : Nat} (h : n ≤ k) {source : Text}
    {locals : Variables} {self : Option Address} {s : State}
    (hfin : finishes ((ofBound disk n).eval source locals self) s = true) :
    (ofBound disk k).eval source locals self s = (ofBound disk n).eval source locals self s :=
  ((ofBound_runsAlike disk h).eval source locals self trivial).eq_of_finishes hfin

theorem eval_of_le {disk : Disk} {n k : Nat} (h : n ≤ k) {source : Text} {locals : Variables}
    {self : Option Address} {s t : State} {value : Value}
    (heval : (ofBound disk n).eval source locals self s = .ok value t) :
    (ofBound disk k).eval source locals self s = .ok value t := by
  have hfin : finishes ((ofBound disk n).eval source locals self) s = true := by
    rw [finishes, heval]
  rw [eval_eq_of_finishes disk h hfin, heval]

theorem line_eq_of_finishes (disk : Disk) {n k : Nat} (h : n ≤ k) {source : Text}
    {self : Option Address} {s : State}
    (hfin : finishes ((ofBound disk n).line source self) s = true) :
    (ofBound disk k).line source self s = (ofBound disk n).line source self s :=
  ((ofBound_runsAlike disk h).line source self trivial trivial).eq_of_finishes hfin

theorem runBody_eq_of_finishes (disk : Disk) {n k : Nat} (h : n ≤ k) {id : BodyId} {s : State}
    (hfin : finishes (Execution.runBody (ofBound disk n) n id) s = true) :
    Execution.runBody (ofBound disk k) k id s = Execution.runBody (ofBound disk n) n id s :=
  (Comparison.keptBySources_cutOff.runBody (ofBound_runsAlike disk h) id
    (.inr ⟨trivial, h⟩)).eq_of_finishes hfin

theorem run_eq_of_finishes (disk : Disk) {n k : Nat} (h : n ≤ k) {source : Source} {s : State}
    (hfin : finishes (Source.run disk (ofBound disk n) source) s = true) :
    Source.run disk (ofBound disk k) source s = Source.run disk (ofBound disk n) source s :=
  (Comparison.keptBySources_cutOff.run (ofBound_runsAlike disk h) disk source
    fun _ => trivial).eq_of_finishes hfin

end Machine

end LineScript
