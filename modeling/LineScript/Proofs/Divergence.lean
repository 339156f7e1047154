import LineScript.Proofs.Closing

/-!
Closing a block whose lines only capture. Each line of the body is added to the end of that same
body when its turn comes, so the run never gets to the end: it is cut off at every bound, after more
and more lines.
-/

namespace LineScript

open Exec

/-- The states are the same up to the number of the current line. -/
def Comparison.unnumbered : Comparison where
  rel s t := ∃ n, s = { t with lineNumber := n }

theorem Comparison.keptByExecution_unnumbered : unnumbered.KeptByExecution where
  self_none := trivial
  agrees := by rintro _ t ⟨n, rfl⟩; constructor <;> rfl
  lists := by rintro _ t items - ⟨n, rfl⟩; exact ⟨n, rfl⟩
  dicts := by rintro _ t entries - ⟨n, rfl⟩; exact ⟨n, rfl⟩
  object := by rintro _ _ _ t name methods _ _ ⟨n, rfl⟩; exact ⟨n, rfl⟩
  routine _ _ _ _ := trivial
  method _ _ := ⟨trivial, fun _ _ => trivial⟩
  spent := by rintro _ t k ⟨n, rfl⟩ _; exact ⟨n, rfl⟩
  body_lines _ _ := trivial
  vars := by rintro _ t own ⟨n, rfl⟩; exact ⟨n, rfl⟩
  faultCount := by rintro _ t k ⟨n, rfl⟩; exact ⟨n, rfl⟩
  output := by rintro _ t o ⟨n, rfl⟩; exact ⟨n, rfl⟩
  body := by rintro _ t ⟨n, rfl⟩; exact ⟨n, rfl⟩
  named _ := trivial
  blocks := by rintro _ t blocks ⟨n, rfl⟩ _ _; exact ⟨n, rfl⟩
  stored := by rintro _ t id line ⟨n, rfl⟩ _ _ _; exact .ok () ⟨n, rfl⟩
  field := by rintro _ t address field value ⟨n, rfl⟩ _; exact .ok () ⟨n, rfl⟩
  function := by rintro _ t ⟨n, rfl⟩ _; exact .ok () ⟨n, rfl⟩
  classDef := by rintro _ t ⟨n, rfl⟩ _; exact .ok () ⟨n, rfl⟩
  classMethod := by rintro _ t ⟨n, rfl⟩ _ _; exact .ok () ⟨n, rfl⟩

/-- Counts the lines that a machine is asked to execute, in place of numbering them. -/
def tally : Observer
  | .line _ _, s => { s with lineNumber := s.lineNumber + 1 }
  | _, s => s

namespace Machine

/-- How many lines a machine of the given bound is asked to execute by a line, itself included. -/
def lineCalls (disk : Disk) (n : Nat) (source : Text) (self : Option Address) (s : State) : Nat :=
  (after ((observed disk tally n).line source self) { s with lineNumber := 0 }).lineNumber

theorem observed_unnumbered {watch : Observer}
    (hwatch : ∀ e s, ∃ k, watch e s = { s with lineNumber := k }) (disk : Disk) (n : Nat) :
    (observed disk watch n).RunsAlike .unnumbered (ofBound disk n) := by
  refine observed_runsAlike (Comparison.keptByExecution_unnumbered.goesOver disk) ?_ n
  rintro e _ t - ⟨k, rfl⟩
  obtain ⟨j, hj⟩ := hwatch e { t with lineNumber := k }
  exact ⟨j, hj⟩

theorem tally_runsAlike (disk : Disk) (n : Nat) :
    (observed disk tally n).RunsAlike .unnumbered (ofBound disk n) := by
  refine observed_unnumbered ?_ disk n
  intro e s
  cases e with
  | line source self => exact ⟨s.lineNumber + 1, rfl⟩
  | eval source locals self => exact ⟨s.lineNumber, rfl⟩
  | call lines own self => exact ⟨s.lineNumber, rfl⟩

end Machine

/-- An execution is cut off after at least the given number of lines. -/
def Exec.CutAfter {α : Type} (count : Nat) (x : Exec α) (s : State) : Prop :=
  ∃ t, x s = .error .exhausted t ∧ count ≤ t.lineNumber

namespace Exec.CutAfter

variable {α β : Type} {count : Nat} {x : Exec α} {s : State}

theorem bind (h : CutAfter count x s) (f : α → Exec β) : CutAfter count (x >>= f) s := by
  obtain ⟨t, hx, hcount⟩ := h
  exact ⟨t, bind_of_error hx f, hcount⟩

theorem bind_of_ok {a : α} {t : State} (hx : x s = .ok a t) {f : α → Exec β}
    (h : CutAfter count (f a) t) : CutAfter count (x >>= f) s := by
  rw [CutAfter, Exec.bind_of_ok hx]
  exact h

theorem get {f : State → Exec β} (h : CutAfter count (f s) s) : CutAfter count (get >>= f) s := h

theorem rescue (h : CutAfter count x s) (f : Fault → Exec α) :
    CutAfter count (rescue x f) s := by
  obtain ⟨t, hx, hcount⟩ := h
  refine ⟨t, ?_, hcount⟩
  -- A bound that is reached is no fault, so it is not handled.
  rw [Exec.rescue, hx]

end Exec.CutAfter

theorem Execution.returned?_eq_none_iff {line : Text} :
    returned? line = none ↔ ¬("return_object" : Text) <+: line := by
  rw [returned?, Option.map_eq_none_iff, Option.eq_none_iff_forall_ne_some]
  constructor
  · rintro h ⟨rest, hrest⟩
    exact h rest (Text.after?_eq_some_iff.mpr hrest.symm)
  · intro h rest hrest
    exact h ⟨rest, (Text.after?_eq_some_iff.mp hrest).symm⟩

/-- A body is open whose lines will all be captured again. -/
structure State.Recaptures (s : State) (id : BodyId) : Prop where
  isOpen : s.blocks.openBody? = some id
  unlimited : s.allowance = none
  lines : ∀ line ∈ s.body id, Statement.IsStored line ∧ Execution.returned? line = none

/-- The state after a line has been counted and added to a body. -/
def State.recapture (s : State) (id : BodyId) (line : Text) : State :=
  { s with bodies := s.bodies.modify id (·.push line), lineNumber := s.lineNumber + 1 }

theorem State.body_recapture {s : State} {id : BodyId} (h : 0 < (s.body id).size) (line : Text) :
    (s.recapture id line).body id = (s.body id).push line := by
  rw [State.body] at h ⊢
  rw [recapture, Array.getElem?_modify, if_pos rfl, State.body]
  cases hbody : s.bodies[id]? with
  | none => simp [hbody] at h
  | some body => rfl

theorem State.Recaptures.recapture {s : State} {id : BodyId} (h : s.Recaptures id) {line : Text}
    (hmem : line ∈ s.body id) : (s.recapture id line).Recaptures id := by
  refine ⟨h.isOpen, h.unlimited, ?_⟩
  intro other hother
  -- The new line of the body is one that it had before.
  rw [body_recapture (Array.size_pos_of_mem hmem), Array.mem_push] at hother
  rcases hother with hother | rfl
  · exact h.lines other hother
  · exact h.lines other hmem

namespace Execution

variable {disk : Disk} {n : Nat} {id : BodyId} {s : State}

theorem tally_line_of_recaptures (h : s.Recaptures id) {line : Text} (hmem : line ∈ s.body id) :
    (Machine.observed disk tally (n + 1)).line line none s = .ok () (s.recapture id line) :=
  Execution.line_of_stored (s := { s with lineNumber := s.lineNumber + 1 }) (h.lines line hmem).1
    h.isOpen h.unlimited

/-- The run of a body that is captured again is always cut off: the position stays inside the body,
which grows by a line with every line that is executed. -/
theorem runBodyFrom_cutAfter (h : s.Recaptures id) (position : Nat)
    (hposition : position < (s.body id).size) (bound : Nat) :
    CutAfter (s.lineNumber + bound)
      (runBodyFrom (Machine.observed disk tally (n + 1)) id bound position) s := by
  -- The induction is on the bound; that the position is inside the body carries it.
  induction bound generalizing s position with
  | zero => exact ⟨s, rfl, Nat.le_refl _⟩
  | succ bound ih =>
      obtain ⟨line, hline⟩ : ∃ line, (s.body id)[position]? = some line :=
        ⟨_, Array.getElem?_eq_getElem hposition⟩
      have hmem : line ∈ s.body id := Array.mem_of_getElem? hline
      have hinside : position + 1 < ((s.recapture id line).body id).size := by
        rw [State.body_recapture (Array.size_pos_of_mem hmem), Array.size_push]
        omega
      have hrest := ih (h.recapture hmem) (position + 1) hinside
      rw [runBodyFrom]
      refine .get ?_
      rw [hline]
      dsimp only
      rw [(h.lines line hmem).2]
      refine .bind_of_ok (tally_line_of_recaptures h hmem) ?_
      rwa [State.recapture, Nat.add_assoc, Nat.add_comm 1] at hrest

variable (h : s.Recaptures id) (hsize : 0 < (s.body id).size) (bound : Nat)

include h hsize

theorem runBody_cutAfter :
    CutAfter bound (runBody (Machine.observed disk tally (n + 1)) bound id) s := by
  have hlines : CutAfter (s.lineNumber + bound)
      (runBodyFrom (Machine.observed disk tally (n + 1)) id bound 0) s :=
    runBodyFrom_cutAfter h 0 hsize bound
  obtain ⟨t, hrun, hcount⟩ := hlines
  have hbound : CutAfter bound
      (runBodyFrom (Machine.observed disk tally (n + 1)) id bound 0) s :=
    ⟨t, hrun, Nat.le_trans (Nat.le_add_left _ _) hcount⟩
  exact .bind_of_ok (spend_of_unlimited h.unlimited) (hbound.rescue _)

theorem runRound_cutAfter :
    CutAfter bound (runRound (Machine.observed disk tally (n + 1)) bound id) s :=
  ((runBody_cutAfter h hsize bound).bind _).rescue _

end Execution

/-- Closing the open block runs its body: a branch whose condition was true, a loop with a round to
go, or a final block after an attempt without lines. -/
inductive State.Enters (disk : Disk) (s : State) : BodyId → Prop
  | branch (hopen : s.blocks.branch.isOpen = true) (hactive : s.blocks.branch.isActive = true) :
      Enters disk s s.blocks.branch.body
  | forLoop (hopen : s.blocks.forLoop.isOpen = true) {first last : Int}
      (hfirst : Execution.boundOf s.blocks.forLoop.first = .ok first)
      (hlast : Execution.boundOf s.blocks.forLoop.last = .ok last) (hle : first ≤ last) :
      Enters disk s s.blocks.forLoop.body
  | whileLoop (hopen : s.blocks.whileLoop.isOpen = true) {condition : Text}
      (hcondition : s.blocks.whileLoop.condition = some condition) {k : Nat} {value : Value}
      {t : State} (heval : (Machine.ofBound disk k).eval condition [] none s = .ok value t)
      (htrue : value.isTrue t.heap = true)
      (hbody : t.body s.blocks.whileLoop.body = s.body s.blocks.whileLoop.body) :
      Enters disk s s.blocks.whileLoop.body
  | final (hopen : s.blocks.final.isOpen = true)
      (hattempt : s.body s.blocks.attempt.body = #[]) :
      Enters disk s s.blocks.final.body

theorem State.Enters.openBody?_eq {disk : Disk} {s : State} {id : BodyId} (h : s.Enters disk id)
    (hone : s.blocks.openCount ≤ 1) : s.blocks.openBody? = some id := by
  rw [Blocks.openCount_eq] at hone
  unfold Blocks.openBody?
  cases h with
  | branch hopen => grind [Bool.toNat_eq_zero]
  | forLoop hopen => grind [Bool.toNat_eq_zero]
  | whileLoop hopen => grind [Bool.toNat_eq_zero]
  | final hopen => grind [Bool.toNat_eq_zero]

namespace Execution

variable {disk : Disk} {n : Nat} {s : State}

section

variable (hone : s.blocks.openCount ≤ 1)

include hone

theorem runOpen_branch_cutAfter (h : s.Recaptures s.blocks.branch.body)
    (hsize : 0 < (s.body s.blocks.branch.body).size) (hopen : s.blocks.branch.isOpen = true)
    (hactive : s.blocks.branch.isActive = true) (bound : Nat) :
    CutAfter bound (runOpen (Machine.observed disk tally (n + 1)) bound s.blocks) s := by
  rw [runOpen_of_branch hone hopen hactive]
  exact (runBody_cutAfter h hsize bound).bind _

theorem runOpen_forLoop_cutAfter (h : s.Recaptures s.blocks.forLoop.body)
    (hsize : 0 < (s.body s.blocks.forLoop.body).size) (hopen : s.blocks.forLoop.isOpen = true)
    {first last : Int} (hfirst : boundOf s.blocks.forLoop.first = .ok first)
    (hlast : boundOf s.blocks.forLoop.last = .ok last) (hle : first ≤ last) (bound : Nat) :
    CutAfter (bound + 1)
      (runOpen (Machine.observed disk tally (n + 1)) (bound + 1) s.blocks) s := by
  rw [runOpen_of_forLoop hone hopen, hfirst, hlast]
  refine .bind_of_ok rfl (.bind_of_ok rfl ?_)
  rw [forRounds, if_neg (Int.not_lt.mpr hle)]
  -- The variable of the loop is written before the first round.
  refine .get (.bind_of_ok rfl (.get ?_))
  have hset : State.Recaptures
      { s with vars := s.vars.set s.blocks.forLoop.variableName (.int first) }
      s.blocks.forLoop.body := ⟨h.isOpen, h.unlimited, h.lines⟩
  exact (runRound_cutAfter hset hsize (bound + 1)).bind _

theorem runOpen_whileLoop_cutAfter {t : State} {condition : Text}
    (hopen : s.blocks.whileLoop.isOpen = true)
    (hcondition : s.blocks.whileLoop.condition = some condition)
    (heval : Evaluation.condition (Machine.observed disk tally (n + 1)) condition s = .ok true t)
    (h : t.Recaptures s.blocks.whileLoop.body)
    (hsize : 0 < (t.body s.blocks.whileLoop.body).size) (bound : Nat) :
    CutAfter (bound + 1)
      (runOpen (Machine.observed disk tally (n + 1)) (bound + 1) s.blocks) s := by
  rw [runOpen_of_whileLoop hone hopen, whileRounds]
  refine .get ?_
  rw [hcondition]
  refine .bind_of_ok heval ?_
  rw [if_pos rfl]
  exact (runRound_cutAfter h hsize (bound + 1)).bind _

theorem runOpen_final_cutAfter (h : s.Recaptures s.blocks.final.body)
    (hsize : 0 < (s.body s.blocks.final.body).size) (hopen : s.blocks.final.isOpen = true)
    (hattempt : s.body s.blocks.attempt.body = #[]) (bound : Nat) :
    CutAfter (bound + 1)
      (runOpen (Machine.observed disk tally (n + 1)) (bound + 1) s.blocks) s := by
  rw [runOpen_of_final hone hopen, runParts]
  refine .get (.bind_of_ok (failureOf_of_empty hattempt h.unlimited bound) ?_)
  rw [runIfAny]
  refine .get ?_
  rw [if_pos (by simpa [Array.isEmpty_iff_size_eq_zero] using Nat.ne_of_gt hsize)]
  exact (runBody_cutAfter h hsize (bound + 1)).bind _

end

end Execution

theorem Machine.tally_condition {disk : Disk} {k n : Nat} (hle : k ≤ n) {condition : Text}
    {s t : State} {value : Value}
    (heval : (ofBound disk k).eval condition [] none s = .ok value t) (count : Nat) :
    ∃ j, Evaluation.condition (observed disk tally n) condition { s with lineNumber := count } =
      .ok (value.isTrue t.heap) { t with lineNumber := j } := by
  have hfin : finishes ((ofBound disk k).eval condition [] none) s = true := by
    rw [finishes, heval]
  have hplain := eval_eq_of_finishes disk hle hfin
  rw [heval] at hplain
  -- The machine that counts is compared with the plain one of the same bound.
  have halike := (tally_runsAlike disk n).eval condition [] none trivial
    (⟨count, rfl⟩ : Comparison.unnumbered.rel { s with lineNumber := count } s)
  rw [hplain] at halike
  generalize ho : (observed disk tally n).eval condition [] none _ = o at halike
  cases halike with
  | ok _ hrel =>
      obtain ⟨j, rfl⟩ := hrel
      exact ⟨j, bind_of_ok ho _⟩
  | cut _ _ hslack => exact hslack.elim

/-- If a line ended at some bound, it would end in the same way at every greater one, also on the
machine that counts. -/
theorem Machine.finishes_eq_false_of_cutAfter {disk : Disk} {n k count : Nat} (hle : n ≤ k)
    {source : Text} {self : Option Address} {s : State}
    (h : CutAfter count ((observed disk tally k).line source self) { s with lineNumber := 0 }) :
    finishes ((ofBound disk n).line source self) s = false := by
  rw [← Bool.not_eq_true]
  intro hends
  obtain ⟨t, hcut, _⟩ := h
  have halike := (tally_runsAlike disk k).line source self trivial trivial
    (⟨0, rfl⟩ : Comparison.unnumbered.rel { s with lineNumber := 0 } s)
  rw [hcut, line_eq_of_finishes disk hle hends] at halike
  rw [finishes] at hends
  generalize (ofBound disk n).line source self s = o at hends halike
  cases halike with
  | error _ hrel => simp at hends
  | cut _ _ hslack => exact hslack

theorem State.Enters.cutAfter {disk : Disk} {s : State} {id : BodyId} (h : s.Enters disk id)
    (horderly : s.IsOrderly fun _ => True) (hsize : 0 < (s.body id).size)
    (hreturn : ∀ line ∈ s.body id, Execution.returned? line = none) :
    ∃ least, ∀ n, least ≤ n → ∀ count,
      CutAfter (n + 1) (Execution.runOpen (Machine.observed disk tally (n + 1)) (n + 1) s.blocks)
        { s with lineNumber := count } := by
  have hone := horderly.openCount_le
  have hid := h.openBody?_eq hone
  have hrecaptures (count : Nat) : State.Recaptures { s with lineNumber := count } id :=
    ⟨hid, horderly.unlimited, fun line hline =>
      ⟨horderly.body_stored id line hline, hreturn line hline⟩⟩
  cases h with
  | branch hopen hactive =>
      exact ⟨0, fun n _ count => Execution.runOpen_branch_cutAfter
        (s := { s with lineNumber := count }) hone (hrecaptures count) hsize hopen hactive (n + 1)⟩
  | forLoop hopen hfirst hlast hle =>
      exact ⟨0, fun n _ count => Execution.runOpen_forLoop_cutAfter
        (s := { s with lineNumber := count }) hone (hrecaptures count) hsize hopen hfirst hlast hle
        n⟩
  | final hopen hattempt =>
      exact ⟨0, fun n _ count => Execution.runOpen_final_cutAfter
        (s := { s with lineNumber := count }) hone (hrecaptures count) hsize hopen hattempt n⟩
  | @whileLoop hopen condition hcondition k value t heval htrue hbody =>
      -- The evaluation of the condition captures, if it executes lines at all.
      have hm := Machine.ofBound_runsAlike_self (Comparison.goesOver_capturing hid disk) k
      have ht : s.IsCapturing t :=
        (hm.eval condition [] none trivial).holds_of_ok ⟨horderly, rfl, rfl⟩ heval
      refine ⟨k, fun n hn count => ?_⟩
      obtain ⟨j, hcounted⟩ := Machine.tally_condition (Nat.le_succ_of_le hn) heval count
      rw [htrue] at hcounted
      refine Execution.runOpen_whileLoop_cutAfter (s := { s with lineNumber := count }) hone hopen
        hcondition hcounted ⟨?_, ht.1.unlimited, ?_⟩ ?_ n
      · change t.blocks.openBody? = _
        rw [ht.2.1, hid]
      · intro line hline
        exact ⟨ht.1.body_stored _ line hline, hreturn line (hbody ▸ hline)⟩
      · change 0 < (t.body _).size
        rw [hbody]
        exact hsize

/-- The run of an open block that can only be captured again does not end: the closing brace is cut
off at every bound, and by then any number of lines can have been executed. -/
theorem closing_brace_diverges {disk : Disk} {s : State} (hs : Reachable (fun _ => True) s)
    {id : BodyId} (henters : s.Enters disk id) (hlines : s.body id ≠ #[])
    (hreturn : ∀ line ∈ s.body id, ¬("return_object" : Text) <+: line) (self : Option Address) :
    (∀ n, finishes ((Machine.ofBound disk n).line [Text.closeBrace] self) s = false) ∧
      ∀ count, ∃ n, count < Machine.lineCalls disk n [Text.closeBrace] self s := by
  have horderly := hs.isOrderly trivial
  have hunreturned : ∀ line ∈ s.body id, Execution.returned? line = none := fun line hline =>
    Execution.returned?_eq_none_iff.mpr (hreturn line hline)
  obtain ⟨least, hcut⟩ :=
    henters.cutAfter horderly (Array.size_pos_iff.mpr hlines) hunreturned
  have hclose (n : Nat) (hn : least ≤ n) : CutAfter (n + 1)
      ((Machine.observed disk tally (n + 2)).line [Text.closeBrace] self)
      { s with lineNumber := 0 } := by
    have hline : (Machine.observed disk tally (n + 2)).line [Text.closeBrace] self
        { s with lineNumber := 0 } = _ :=
      (Execution.line_closeBrace (s := { s with lineNumber := 1 }) horderly.unlimited).trans
        (Execution.close_eq horderly.openCount_le)
    rw [CutAfter, hline]
    exact (hcut n hn 1).bind _
  constructor
  · intro n
    exact Machine.finishes_eq_false_of_cutAfter (by omega : n ≤ n + least + 2)
      (hclose (n + least) (Nat.le_add_left _ _))
  · intro count
    obtain ⟨t, ht, hcount⟩ := hclose (least + count) (Nat.le_add_right _ _)
    refine ⟨least + count + 2, ?_⟩
    rw [Machine.lineCalls, after, ht]
    dsimp only
    omega

/-- A loop that could be left in its first round is not: that line is captured, too. -/
theorem closing_brace_diverges_break :
    (∀ n, finishes ((Machine.ofBound .empty n).line [Text.closeBrace] none)
        (State.initial.afterLines .empty 8 ["entr_i i ty 1:2 \x7b", "loop.break"]) = false) ∧
      ∀ count, ∃ n, count < Machine.lineCalls .empty n [Text.closeBrace] none
        (State.initial.afterLines .empty 8 ["entr_i i ty 1:2 \x7b", "loop.break"]) :=
  closing_brace_diverges (.afterLines .initial trivial (by decide +kernel))
    (.forLoop (by decide +kernel) (rfl : Execution.boundOf _ = .ok 1)
      (rfl : Execution.boundOf _ = .ok 2) (by decide))
    (by decide +kernel) (by decide +kernel) none

end LineScript
