import LineScript.Proofs.Blocks
import LineScript.Proofs.Comparison.Evaluation
import LineScript.Proofs.Rounds

namespace LineScript

open Exec

structure Machine.RunsAlike (c : Comparison) (m m' : Machine) : Prop
    extends Machine.EvaluatesAlike c m m' where
  line : ∀ source self, c.lines source → c.selfs self →
    Alike c (m.line source self) (m'.line source self)

namespace Comparison

/-- The bounds that two executions may have. -/
def Bounds (c : Comparison) (bound bound' : Nat) : Prop :=
  bound = bound' ∨ c.slack ∧ bound ≤ bound'

/-- A comparison that the running of bodies keeps. -/
structure KeptByBodies (c : Comparison) : Prop extends c.KeptByEvaluation where
  spent {s t : State} {n : Nat} : c.rel s t → s.allowance = some (n + 1) →
    c.rel { s with allowance := some n } { t with allowance := some n }
  body_lines {s t : State} {id : BodyId} {line : Text} : c.rel s t →
    line ∈ s.body id → c.lines line

/-- A comparison that calls keep: it does not depend on the variables, if both states have the
same. -/
structure KeptByCalls (c : Comparison) : Prop extends c.KeptByBodies where
  vars {s t : State} (own : Variables) : c.rel s t →
    c.rel { s with vars := own } { t with vars := own }

/-- A comparison that the bodies of functions keep, whatever blocks there are. -/
structure KeptByRoutines (c : Comparison) : Prop extends c.KeptByExpressions where
  allowance_eq {s t : State} : c.rel s t → s.allowance = t.allowance
  spent {s t : State} {n : Nat} : c.rel s t → s.allowance = some (n + 1) →
    c.rel { s with allowance := some n } { t with allowance := some n }
  vars {s t : State} (own : Variables) : c.rel s t →
    c.rel { s with vars := own } { t with vars := own }

/-- A comparison that the parts of an attempt keep, as far as they write no variables. -/
structure KeptByRounds (c : Comparison) : Prop extends c.KeptByBodies where
  faultCount {s t : State} (n : Nat) : c.rel s t →
    c.rel { s with faultCount := n } { t with faultCount := n }

variable {c : Comparison}

theorem Bounds.succ {bound bound' : Nat} (h : c.Bounds (bound + 1) bound') :
    ∃ k, bound' = k + 1 ∧ c.Bounds bound k := by
  rcases h with rfl | ⟨hslack, hle⟩
  · exact ⟨bound, rfl, .inl rfl⟩
  · obtain ⟨k, rfl⟩ := Nat.exists_eq_add_of_le' (Nat.le_of_add_left_le hle)
    exact ⟨k, rfl, .inr ⟨hslack, Nat.le_of_succ_le_succ hle⟩⟩

/-- An execution whose bound is reached is alike any other that has its bound or, with slack, a
greater one. -/
theorem Bounds.exhaust {α : Type} {y : Exec α} {bound' : Nat} (h : c.Bounds 0 bound')
    (hy : bound' = 0 → y = Exec.exhaust) : Alike c Exec.exhaust y := by
  rcases h with h | ⟨hslack, _⟩
  · rw [hy h.symm]
    exact Alike.exhaust
  · exact fun s t _ => .cut s _ hslack

theorem alike_spend (hallowance : ∀ {s t : State}, c.rel s t → s.allowance = t.allowance)
    (hspent : ∀ {s t : State} {n : Nat}, c.rel s t → s.allowance = some (n + 1) →
      c.rel { s with allowance := some n } { t with allowance := some n }) :
    Alike c Exec.spend Exec.spend := by
  intro s t h
  rw [Exec.spend, get_bind, get_bind, ← hallowance h]
  cases ha : s.allowance with
  | none => exact .ok () h
  | some n =>
      cases n with
      | zero => exact .error _ h
      | succ n => exact .ok () (hspent h ha)

/-- Two machines run a body alike, which has the same lines in states that go together. -/
structure RunsBodyAlike (c : Comparison) (m m' : Machine) (bound bound' : Nat) (id : BodyId) :
    Prop where
  body_eq : ∀ ⦃s t : State⦄, c.rel s t → s.body id = t.body id
  run : Alike c (Execution.runBody m bound id) (Execution.runBody m' bound' id)

namespace RunsBodyAlike

variable {m m' : Machine} {bound bound' : Nat} {id : BodyId}
  (h : c.RunsBodyAlike m m' bound bound' id)

include h

theorem runRound :
    Alike c (Execution.runRound m bound id) (Execution.runRound m' bound' id) := by
  refine (h.run.bind fun _ => Alike.pure true).rescue fun cause => ?_
  split
  · exact Alike.pure false
  · exact Alike.pure true
  · exact Alike.fail _

theorem failureOf :
    Alike c (Execution.failureOf m bound id) (Execution.failureOf m' bound' id) := by
  refine (h.run.bind fun _ => Alike.pure none).rescue fun cause => ?_
  split
  · exact Alike.pure _
  · exact Alike.fail _

theorem runIfAny :
    Alike c (Execution.runIfAny m bound id) (Execution.runIfAny m' bound' id) := by
  refine Alike.get fun s t hs => ?_
  rw [h.body_eq hs]
  split
  · exact h.run.bind fun _ => Alike.pure ()
  · exact Alike.pure ()

end RunsBodyAlike

theorem matches_forRounds {m m' : Machine}
    (hset : ∀ ⦃s t : State⦄ (i : Int), c.rel s t → c.rel (s.startRound i) (t.startRound i))
    {bound bound' rounds rounds' : Nat} (hr : c.Bounds rounds rounds') {i last : Int}
    {s t : State} (h : c.rel s t)
    (hround : ∀ u u', ForRound m bound last i s u → c.rel u u' →
      Matches c (Execution.runRound m bound u.blocks.forLoop.body u)
        (Execution.runRound m' bound' u'.blocks.forLoop.body u')) :
    Matches c (Execution.forRounds m bound rounds i last s)
      (Execution.forRounds m' bound' rounds' i last t) := by
  induction rounds generalizing rounds' i s t with
  | zero =>
      refine hr.exhaust (fun hzero => ?_) h
      rw [hzero, Execution.forRounds]
  | succ rounds ih =>
      obtain ⟨rounds', rfl, hrest⟩ := hr.succ
      rw [Execution.forRounds, Execution.forRounds]
      split
      · exact .ok () h
      · rename_i hlast
        have hle : i ≤ last := Int.not_lt.mp hlast
        have hfirst := hround _ _ (.here hle) (hset i h)
        -- The loop looks its body up when the variable has been set.
        refine Matches.bind_of_ok (s := s.startRound i) (t := t.startRound i) hfirst ?_
        intro goesOn u u' hok hu
        cases goesOn with
        | false => exact .ok () hu
        | true => exact ih hrest hu fun v v' hv => hround v v' (.later hle hok hv)

theorem matches_whileRounds {m m' : Machine}
    (hblocks : ∀ ⦃s t : State⦄, c.rel s t → s.blocks = t.blocks)
    (hcondition : ∀ source, Alike c (Execution.loopCondition m source)
      (Execution.loopCondition m' source))
    {bound bound' rounds rounds' : Nat} {id : BodyId} (hr : c.Bounds rounds rounds') {s t : State}
    (h : c.rel s t)
    (hround : ∀ u u', WhileRound m bound id s u → c.rel u u' →
      Matches c (Execution.runRound m bound id u) (Execution.runRound m' bound' id u')) :
    Matches c (Execution.whileRounds m bound id rounds s)
      (Execution.whileRounds m' bound' id rounds' t) := by
  induction rounds generalizing rounds' s t with
  | zero =>
      refine hr.exhaust (fun hzero => ?_) h
      rw [hzero, Execution.whileRounds]
  | succ rounds ih =>
      obtain ⟨rounds', rfl, hrest⟩ := hr.succ
      rw [Execution.whileRounds, Execution.whileRounds, get_bind, get_bind, ← hblocks h]
      refine (hcondition _ h).bind_of_ok fun holds u u' hok hu => ?_
      cases holds with
      | false => exact .ok () hu
      | true =>
          refine (hround u u' (.here hok) hu).bind_of_ok fun goesOn v v' hround' hv => ?_
          cases goesOn with
          | false => exact .ok () hv
          | true => exact ih hrest hv fun w w' hw => hround w w' (.later hok hround' hw)

theorem alike_runParts {m m' : Machine} {bound bound' : Nat}
    (hblocks : ∀ ⦃s t : State⦄, c.rel s t → s.blocks = t.blocks)
    (hcatch : ∀ cause, Alike c
      (do setVariable (← get).blocks.handler.variableName (← newFault cause))
      (do setVariable (← get).blocks.handler.variableName (← newFault cause)))
    (hattempt : ∀ ⦃s t : State⦄, c.rel s t →
      c.RunsBodyAlike m m' bound bound' s.blocks.attempt.body)
    (hhandler : ∀ ⦃s t : State⦄, c.rel s t →
      c.RunsBodyAlike m m' bound bound' s.blocks.handler.body)
    (hfinal : ∀ ⦃s t : State⦄, c.rel s t →
      c.RunsBodyAlike m m' bound bound' s.blocks.final.body) :
    Alike c (Execution.runParts m bound) (Execution.runParts m' bound') := by
  refine Alike.get fun s t h => ?_
  have hrunHandler := hhandler h
  have hrunFinal := (hfinal h).runIfAny
  rw [← hblocks h]
  refine (hattempt h).failureOf.bind fun failure => ?_
  cases failure with
  | none => exact hrunFinal
  | some cause =>
      refine Alike.get fun s' t' h' => ?_
      rw [hrunHandler.body_eq h']
      dsimp only
      split
      · have hall := (hcatch cause).bind fun _ =>
          hrunHandler.run.bind fun _ => hrunFinal
        simpa only [bind_assoc] using hall
      · exact hrunFinal

theorem KeptByExpressions.runBodyFrom (hc : c.KeptByExpressions) {m m' : Machine}
    (hm : m.RunsAlike c m') {id : BodyId}
    (hbody : ∀ ⦃s t : State⦄, c.rel s t → s.body id = t.body id)
    (hlines : ∀ ⦃s t : State⦄, c.rel s t → ∀ line ∈ s.body id, c.lines line) {bound bound' : Nat}
    (hb : c.Bounds bound bound') (position : Nat) :
    Alike c (Execution.runBodyFrom m id bound position)
      (Execution.runBodyFrom m' id bound' position) := by
  induction bound generalizing bound' position with
  | zero =>
      refine hb.exhaust fun hzero => ?_
      rw [hzero, Execution.runBodyFrom]
  | succ bound ih =>
      obtain ⟨bound', rfl, hrest⟩ := hb.succ
      -- The body is read anew for each position, in states that go together.
      refine Alike.get fun s t h => ?_
      rw [← hbody h]
      split
      · exact Alike.pure _
      · rename_i line hline
        have hok : c.lines line := hlines h line (Array.mem_of_getElem? hline)
        split
        · refine Alike.get fun s t h => ?_
          rw [hc.vars_eq h]
          exact hm.eval _ _ none hc.self_none
        · exact (hm.line line none hok hc.self_none).bind fun _ => ih hrest (position + 1)

theorem KeptByExpressions.loopCondition (hc : c.KeptByExpressions) {m m' : Machine}
    (hm : m.EvaluatesAlike c m') (source : Option Text) :
    Alike c (Execution.loopCondition m source) (Execution.loopCondition m' source) := by
  cases source with
  | some source => exact hc.condition hm source
  | none => exact Alike.fail _

namespace KeptByRoutines

variable (hc : c.KeptByRoutines)

include hc

theorem withVariables {α : Type} (own : Variables) {x y : Exec α} (hx : Alike c x y) :
    Alike c (withVariables own x) (withVariables own y) := by
  intro s t h
  have hown := hx (hc.vars own h)
  unfold Exec.withVariables
  rw [← hc.vars_eq h]
  generalize x { s with vars := own } = o at hown
  generalize y { t with vars := own } = p at hown
  cases hown with
  | ok a h' => exact .ok a (hc.vars s.vars h')
  | error halt h' => exact .error halt (hc.vars s.vars h')
  | cut s' p h' => exact .cut _ _ h'

variable {m m' : Machine} (hm : m.RunsAlike c m')

include hm

theorem runLines {self : Option Address} (hself : c.selfs self) (lines : List Text)
    (hlines : ∀ line ∈ lines, c.lines line) :
    Alike c (Execution.runLines m self lines) (Execution.runLines m' self lines) := by
  induction lines with
  | nil => exact Alike.pure _
  | cons line rest ih =>
      have hrest := ih fun line hline => hlines line (List.mem_cons_of_mem _ hline)
      rw [Execution.runLines, Execution.runLines]
      split
      · refine Alike.get fun s t h => ?_
        rw [hc.vars_eq h]
        exact hm.eval _ _ self hself
      · exact (hm.line line self (hlines line List.mem_cons_self) hself).bind fun _ => hrest

theorem runBlock {self : Option Address} (hself : c.selfs self) (lines : List Text)
    (hlines : ∀ line ∈ lines, c.lines line) :
    Alike c (Execution.runBlock m lines self) (Execution.runBlock m' lines self) :=
  (alike_spend hc.allowance_eq hc.spent).bind fun _ =>
    (hc.runLines hm hself lines hlines).leavingBlock

theorem call {self : Option Address} (hself : c.selfs self) (own : Variables) (lines : List Text)
    (hlines : ∀ line ∈ lines, c.lines line) :
    Alike c (Execution.call m lines own self) (Execution.call m' lines own self) :=
  hc.withVariables own (hc.runBlock hm hself lines hlines)

end KeptByRoutines

namespace KeptByBodies

variable (hc : c.KeptByBodies)

include hc

theorem body_eq {s t : State} (h : c.rel s t) (id : BodyId) : s.body id = t.body id := by
  rw [State.body, State.body, (hc.agrees h).bodies]

theorem spend : Alike c spend spend :=
  alike_spend (fun h => (hc.agrees h).allowance) hc.spent

variable {m m' : Machine} (hm : m.RunsAlike c m')

include hm

theorem runsBody (id : BodyId) {bound bound' : Nat} (hb : c.Bounds bound bound') :
    c.RunsBodyAlike m m' bound bound' id where
  body_eq _ _ h := hc.body_eq h id
  run := by
    refine hc.spend.bind fun _ => Alike.leavingBlock ?_
    exact hc.keptByExpressions.runBodyFrom hm (fun _ _ h => hc.body_eq h id)
      (fun _ _ h _ => hc.body_lines h) hb 0

theorem runBody (id : BodyId) {bound bound' : Nat} (hb : c.Bounds bound bound') :
    Alike c (Execution.runBody m bound id) (Execution.runBody m' bound' id) :=
  (hc.runsBody hm id hb).run

theorem forRounds
    (hset : ∀ ⦃s t : State⦄ (i : Int), c.rel s t → c.rel (s.startRound i) (t.startRound i))
    {bound bound' : Nat} (hb : c.Bounds bound bound') {rounds rounds' : Nat}
    (hr : c.Bounds rounds rounds') (i last : Int) :
    Alike c (Execution.forRounds m bound rounds i last)
      (Execution.forRounds m' bound' rounds' i last) := by
  intro s t h
  refine matches_forRounds hset hr h fun u u' _ hu => ?_
  rw [← (hc.agrees hu).blocks]
  exact (hc.runsBody hm _ hb).runRound hu

theorem whileRounds {bound bound' : Nat} (hb : c.Bounds bound bound') (id : BodyId)
    {rounds rounds' : Nat} (hr : c.Bounds rounds rounds') :
    Alike c (Execution.whileRounds m bound id rounds)
      (Execution.whileRounds m' bound' id rounds') := by
  intro s t h
  refine matches_whileRounds (fun _ _ h => (hc.agrees h).blocks)
    (hc.keptByExpressions.loopCondition hm.toEvaluatesAlike) hr h fun u u' _ hu => ?_
  exact (hc.runsBody hm id hb).runRound hu

end KeptByBodies

namespace KeptByCalls

variable (hc : c.KeptByCalls)

include hc

theorem keptByRoutines : c.KeptByRoutines :=
  { hc.keptByExpressions with
    allowance_eq := fun h => (hc.agrees h).allowance
    spent := hc.spent
    vars := hc.vars }

end KeptByCalls

namespace KeptByRounds

variable (hc : c.KeptByRounds)

include hc

variable {m m' : Machine} (hm : m.RunsAlike c m')

include hm

theorem runParts
    (hset : ∀ ⦃s t : State⦄ (value : Value), c.rel s t →
      c.rel { s with vars := s.vars.set s.blocks.handler.variableName value }
        { t with vars := t.vars.set t.blocks.handler.variableName value })
    {bound bound' : Nat} (hb : c.Bounds bound bound') :
    Alike c (Execution.runParts m bound) (Execution.runParts m' bound') := by
  refine alike_runParts (fun _ _ h => (hc.agrees h).blocks) (fun cause => ?_)
    (fun s _ _ => hc.runsBody hm s.blocks.attempt.body hb)
    (fun s _ _ => hc.runsBody hm s.blocks.handler.body hb)
    fun s _ _ => hc.runsBody hm s.blocks.final.body hb
  intro s t h
  have hnew := hset (.fault s.faultCount cause) (hc.faultCount (s.faultCount + 1) h)
  change Matches c (.ok () _)
    (.ok () { t with faultCount := t.faultCount + 1, vars := t.vars.set _ _ })
  rw [← (hc.agrees h).faultCount]
  exact .ok () hnew

end KeptByRounds

end Comparison

end LineScript
