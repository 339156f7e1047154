import LineScript.Proofs.Cutting
import LineScript.Proofs.Orderly
import LineScript.Proofs.Running
import LineScript.Proofs.Stripping

/-!
What binds names. An evaluation binds none: a body that it calls has variables of its own, and those
of the caller are there again after it. Where no block is open a line binds at most the target of
its assignment, as the last thing it does.
-/

namespace LineScript

open Exec

structure State.SameNames (before s : State) : Prop where
  vars : s.vars = before.vars
  consts : s.consts = before.consts

namespace Comparison

theorem keptByEvaluation_sameNames (before : State) :
    (keeping before.SameNames).KeptByEvaluation where
  self_none := trivial
  agrees := by rintro s _ ⟨rfl, _⟩; exact .refl s
  lists := by rintro s _ items - ⟨rfl, h⟩; exact ⟨rfl, h.vars, h.consts⟩
  dicts := by rintro s _ entries - ⟨rfl, h⟩; exact ⟨rfl, h.vars, h.consts⟩
  object := by rintro _ _ s _ name methods _ _ ⟨rfl, h⟩; exact ⟨rfl, h.vars, h.consts⟩
  routine _ _ _ _ := trivial
  method _ _ := ⟨trivial, fun _ _ => trivial⟩

end Comparison

namespace Machine

variable (disk : Disk) (n : Nat)

theorem consts_call (lines : List Text) (own : Variables) (self : Option Address) (s : State) :
    (after ((ofBound disk n).call lines own self) s).consts = s.consts := by
  have hkept := Comparison.keptByExecution_steady fun consts _ => consts = s.consts
  have hm := ofBound_runsAlike_self (hkept.goesOver disk) n
  exact ((hm.call lines own self (fun _ _ => trivial) trivial).eq_of_keeping rfl).2

theorem vars_call (lines : List Text) (own : Variables) (self : Option Address) (s : State) :
    (after ((ofBound disk n).call lines own self) s).vars = s.vars := by
  cases n with
  | zero => rfl
  | succ n => exact vars_withVariables own _ s

/-- Evaluations keep the names: all that they do beside the heap is done by calls. -/
theorem evaluatesAlike_sameNames (before : State) :
    (ofBound disk n).EvaluatesAlike (.keeping before.SameNames) (ofBound disk n) := by
  have hcall (k : Nat) (lines : List Text) (own : Variables) (self : Option Address) :
      Alike (.keeping before.SameNames) ((ofBound disk k).call lines own self)
        ((ofBound disk k).call lines own self) := by
    rintro s _ ⟨rfl, hs⟩
    refine .keeping rfl ⟨?_, ?_⟩
    · rw [vars_call, hs.vars]
    · rw [consts_call, hs.consts]
  induction n with
  | zero => exact idle_runsAlike.toEvaluatesAlike
  | succ n ih =>
      constructor
      · intro source locals self hself
        exact (Comparison.keptByEvaluation_sameNames before).eval ih disk source locals hself
      · intro lines own self _ _
        exact hcall (n + 1) lines own self

end Machine

/-- The name that a line assigns to: the stripped text between its keyword and its first equals
sign. -/
def Statement.Targets (line name : Text) : Prop :=
  ∃ before source, Text.strip line = ("tyrt " : Text) ++ before ++ '=' :: source ∧ '=' ∉ before ∧
    name = Text.strip before

theorem Statement.targets_of_assignment? {line target source : Text}
    (h : assignment? (Text.strip line) = some (target, source)) : Targets line target := by
  simp only [assignment?, Option.bind_eq_bind, Option.bind_eq_some_iff] at h
  obtain ⟨t, hafter, ⟨before, rest⟩, hcut, hparts⟩ := h
  simp only [Option.some.injEq, Prod.mk.injEq] at hparts
  obtain ⟨rfl, rfl⟩ := hparts
  obtain ⟨lead, trail, ht, hlead⟩ := Text.exists_eq_append_strip t
  refine ⟨lead ++ before, rest ++ trail, ?_, ?_, ?_⟩
  · have hstrip : Text.strip t = before ++ '=' :: rest := by
      simpa using Text.eq_of_cutFirst? hcut
    rw [Text.after?_eq_some_iff.mp hafter, ht, hstrip]
    simp
  · -- The equals sign is no blank, so it is not among those that were stripped.
    intro hmem
    rcases List.mem_append.mp hmem with hblank | hbefore
    · exact absurd (hlead '=' hblank) (by decide)
    · exact Text.not_mem_of_cutFirst? hcut hbefore
  · exact (Text.strip_append_left hlead before).symm

theorem Statement.header?_ne_assign (line target source : Text) :
    header? line ≠ some (assign target source) := by
  unfold header?
  intro h
  repeat' split at h
  all_goals simp at h

theorem Statement.assignment?_of_ofLine {line target source : Text}
    (h : ofLine line = assign target source) : assignment? line = some (target, source) := by
  unfold ofLine at h
  split at h
  · rename_i statement hheader
    exact absurd (h ▸ hheader) (header?_ne_assign line target source)
  · split at h
    · rename_i assigned hassigned
      simp only [assign.injEq] at h
      rw [hassigned, h.1, h.2]
    · repeat' split at h
      all_goals simp at h

/-- An outcome has the names that a state has. If it is no fault, the target of a line's assignment
may have been written. -/
inductive State.Rebinds (before : State) (line : Text) : EStateM.Result Halt State Unit → Prop
  | error (halt : Halt) {t : State} (h : before.SameNames t) : Rebinds before line (.error halt t)
  | ok {t : State} (h : before.SameNames t) : Rebinds before line (.ok () t)
  | target {t : State} (h : before.SameNames t) {name : Text} (hname : Statement.Targets line name)
      (value : Value) :
      Rebinds before line (.ok () { t with vars := t.vars.set (some name) value })

theorem State.Rebinds.of_sameNames {before : State} {line : Text} {x : Exec Unit} {s : State}
    (h : before.SameNames (after x s)) : before.Rebinds line (x s) := by
  rw [after] at h
  cases ho : x s with
  | ok _ t =>
      rw [ho] at h
      exact .ok h
  | error halt t =>
      rw [ho] at h
      exact .error halt h

namespace Execution

variable {m : Machine} {before s : State} (hm : m.EvaluatesAlike (.keeping before.SameNames) m)
  (hs : before.SameNames s)

include hm hs

theorem rebinds_write {line target : Text} (htarget : Statement.Targets line target)
    (value : Value) :
    before.Rebinds line ((do
      if ← assignElement m target value then pure () else assignVariable target value :
        Exec Unit) s) := by
  have hkept := (Comparison.keptByEvaluation_sameNames before).assignElement hm target value
  have helement := (hkept.eq_of_keeping hs).2
  rw [after] at helement
  cases ho : assignElement m target value s with
  | error halt t =>
      rw [ho] at helement
      rw [bind_of_error ho]
      exact .error halt helement
  | ok isElement t =>
      rw [ho] at helement
      rw [bind_of_ok ho]
      cases isElement with
      | true => exact .ok helement
      | false =>
          -- Only here a variable is written, and nothing can fail after it.
          rw [if_neg Bool.false_ne_true, assignVariable, get_bind]
          split
          · exact .error _ helement
          · exact .target helement htarget value

theorem rebinds_assign {line target : Text} (htarget : Statement.Targets line target)
    (source : Text) (self : Option Address) :
    before.Rebinds line (assign m target source self s) := by
  have hvalue := ((hm.eval source [] self trivial).eq_of_keeping hs).2
  rw [after] at hvalue
  cases ho : m.eval source [] self s with
  | error halt t =>
      rw [ho] at hvalue
      rw [assign, bind_of_error ho]
      exact .error halt hvalue
  | ok value t =>
      rw [ho] at hvalue
      rw [assign, bind_of_ok ho]
      have hwrite := rebinds_write hm hvalue htarget value
      cases self with
      | none => exact hwrite
      | some address =>
          cases Expression.field? target with
          | none => exact hwrite
          | some field => exact .ok ⟨hvalue.vars, hvalue.consts⟩

theorem sameNames_perform {statement : Statement} (line : Text) (self : Option Address)
    (hassign : ∀ target source, statement ≠ .assign target source) :
    before.SameNames (after (perform m line self statement) s) := by
  have hkept := Comparison.keptByEvaluation_sameNames before
  cases statement with
  | assign target source => exact absurd rfl (hassign target source)
  | openBranch condition =>
      have hcondition (t : State) (ht : before.SameNames t) :=
        ((hkept.condition hm condition).eq_of_keeping ht).2
      have hfresh : before.SameNames (after (newBody []) s) := ⟨hs.vars, hs.consts⟩
      refine after_bind hfresh fun fresh t ht => ?_
      have hmarked : before.SameNames { t with
          blocks := { t.blocks with branch.isOpen := true, branch.body := fresh } } :=
        ⟨ht.vars, ht.consts⟩
      refine after_bind (x := modifyBlocks _) hmarked fun _ u hu => ?_
      refine after_bind (hcondition u hu) fun isActive v hv => ?_
      exact ⟨hv.vars, hv.consts⟩
  | print source =>
      have hvalue := ((hm.eval source [] self trivial).eq_of_keeping hs).2
      refine after_bind hvalue fun value t ht => ?_
      rw [after, get_bind]
      cases value.display t.heap with
      | ok shown => exact ⟨ht.vars, ht.consts⟩
      | error cause => exact ht
  | call =>
      have hcall : Alike (.keeping before.SameNames) (callStatement m line self)
          (callStatement m line self) :=
        Comparison.KeptByEvaluation.callStatement hm line trivial
      exact (hcall.eq_of_keeping hs).2
  | _ => exact ⟨hs.vars, hs.consts⟩

theorem rebinds_capture {line : Text} (hopen : s.blocks.openBody? = none) (self : Option Address) :
    before.Rebinds line (capture m (Text.strip line) self s) := by
  rw [capture_of_none hopen]
  cases hstatement : Statement.ofLine (Text.strip line) with
  | assign target source =>
      have htarget := Statement.targets_of_assignment? (Statement.assignment?_of_ofLine hstatement)
      exact rebinds_assign hm hs htarget source self
  | _ =>
      refine .of_sameNames (sameNames_perform hm hs _ self ?_)
      intro target source
      simp

omit hm in
theorem sameNames_close (hopen : s.blocks.openCount = 0) (bound : Nat) :
    before.SameNames (after (close m bound) s) := by
  have hflags := hopen
  simp only [Blocks.openCount_eq, Nat.add_eq_zero_iff, Bool.toNat_eq_zero] at hflags
  obtain ⟨⟨⟨⟨⟨⟨⟨hbranch, hfor⟩, hwhile⟩, hfunction⟩, hclass⟩, _⟩, _⟩, hfinal⟩ := hflags
  rw [after, close_of_running hclass hfunction hfinal, closeRunning, hbranch, hfor, hwhile]
  exact ⟨hs.vars, hs.consts⟩

theorem rebinds_line (hopen : s.blocks.openCount = 0) (bound : Nat) (line : Text)
    (self : Option Address) : before.Rebinds line (Execution.line m bound line self s) := by
  rw [line_eq]
  rcases spend_cases s with ⟨allowance, hspent⟩ | hspent
  · have hnames : before.SameNames { s with allowance := allowance } := ⟨hs.vars, hs.consts⟩
    rw [bind_of_ok hspent]
    split
    · exact .ok hnames
    split
    · exact .of_sameNames (sameNames_close hnames hopen bound)
    · exact rebinds_capture hm hnames ((Blocks.openBody?_eq_none_iff _).mpr hopen) self
  · rw [bind_of_error hspent]
    exact .error _ hs

end Execution

/-- An evaluation leaves all names as they are. Where no block is open, so does a line, except that
an assignment that returns may have written its target. -/
theorem line_binds_only_its_target (disk : Disk) (n : Nat) (s : State) :
    (∀ source locals self,
      s.SameNames (after ((Machine.ofBound disk n).eval source locals self) s)) ∧
      (true ∉ s.blocks.flags →
        ∀ line self, s.Rebinds line ((Machine.ofBound disk n).line line self s)) := by
  have hsame : s.SameNames s := ⟨rfl, rfl⟩
  constructor
  · intro source locals self
    have hm := Machine.evaluatesAlike_sameNames disk n s
    exact ((hm.eval source locals self trivial).eq_of_keeping hsame).2
  · intro hopen line self
    have hcount : s.blocks.openCount = 0 := List.count_eq_zero.mpr hopen
    cases n with
    | zero => exact .error _ hsame
    | succ n =>
        exact Execution.rebinds_line (Machine.evaluatesAlike_sameNames disk n s) hsame hcount n line
          self

/-- A function that assigns to a variable of its caller's name, called in an assignment to another
one. -/
def callerOfAssigner : State :=
  State.initial.afterLines .empty 8
    ["tyrt x = 1", "func f(p) \x7b", "tyrt x = 2", "tyrt y = 3", "return_object x", "\x7d"]

theorem line_binds_only_its_target_call :
    true ∉ callerOfAssigner.blocks.flags ∧
      callerOfAssigner.Rebinds "tyrt y = f(5) + x"
        ((Machine.ofBound .empty 8).line "tyrt y = f(5) + x" none callerOfAssigner) ∧
      (after ((Machine.ofBound .empty 8).line "tyrt y = f(5) + x" none) callerOfAssigner).vars =
        [(some "x".toList, .int 1), (some "y".toList, .int 3)] :=
  ⟨by decide +kernel,
    (line_binds_only_its_target .empty 8 callerOfAssigner).2 (by decide +kernel) _ none,
    by decide +kernel⟩

end LineScript
