import LineScript.Proofs.BranchHeader
import LineScript.Proofs.Divergence
import LineScript.Proofs.LoopBody

/-!
Loops that run while they are open. Lines are captured, so blocks stay as they are up to the first
closing brace. In the body of a loop over integers a closing brace starts the loop again, and that
does not end.
-/

namespace LineScript

open Exec

namespace Execution

theorem exists_of_captured {source : Text} {s : State} (hsource : Statement.NoBrace source)
    (hopen : true ∈ s.blocks.flags) (hunlimited : s.allowance = none) (m : Machine) (bound : Nat)
    (self : Option Address) :
    ∃ bodies, line m bound source self s = .ok () { s with bodies } ∧
      ∀ id lead, lead <+: (s.body id).toList → lead <+: (bodies[id]?.getD #[]).toList := by
  cases hsilent : Statement.isSilent (Text.strip source) with
  | true => exact ⟨s.bodies, line_of_silent hsilent hunlimited, fun _ _ h => h⟩
  | false =>
      obtain ⟨j, hj⟩ := Blocks.exists_openBody? hopen
      refine ⟨s.bodies.modify j (·.push (Text.strip source)), ?_, fun id lead h => ?_⟩
      · rw [line_eq, hsilent, if_neg Bool.false_ne_true, if_neg hsource,
          bind_of_ok (spend_of_unlimited hunlimited), capture_of_open hj]
        rfl
      · exact prefix_appendLine h j _

theorem passes_of_captured (disk : Disk) (n : Nat) {lines : List Text} {s : State}
    (hlines : ∀ line ∈ lines, Statement.NoBrace line)
    (hreturned : ∀ line ∈ lines, returned? line = none) (hopen : true ∈ s.blocks.flags)
    (hunlimited : s.allowance = none) :
    ∃ v, passes (Machine.ofBound disk (n + 1)) lines s = .ok true v ∧ v.blocks = s.blocks := by
  induction lines generalizing s with
  | nil => exact ⟨s, rfl, rfl⟩
  | cons line rest ih =>
      obtain ⟨bodies, hline, -⟩ := exists_of_captured (hlines line List.mem_cons_self) hopen
        hunlimited (.ofBound disk n) n none
      obtain ⟨v, hrest, hblocks⟩ := ih (s := { s with bodies })
        (fun other hother => hlines other (List.mem_cons_of_mem _ hother))
        (fun other hother => hreturned other (List.mem_cons_of_mem _ hother)) hopen hunlimited
      refine ⟨v, ?_, hblocks⟩
      rw [passes, hreturned line List.mem_cons_self]
      exact (bind_of_ok hline _).trans hrest

end Execution

/-- A loop over integers is open and has a round to go, and a closing brace would start it. Its body
begins with the given lines. -/
structure State.Restarts (s : State) (lead : List Text) : Prop where
  isOpen : s.blocks.forLoop.isOpen = true
  classDef : s.blocks.classDef.isOpen = false
  function : s.blocks.function.isOpen = false
  final : s.blocks.final.isOpen = false
  unlimited : s.allowance = none
  lead_prefix : lead <+: (s.body s.blocks.forLoop.body).toList
  bounds : ∃ first last, Execution.boundOf s.blocks.forLoop.first = .ok first ∧
    Execution.boundOf s.blocks.forLoop.last = .ok last ∧ first ≤ last

namespace State.Restarts

variable {s : State} {lead : List Text} (h : s.Restarts lead)

include h

theorem startRound (i : Int) : (s.startRound i).Restarts lead := { h with }

theorem cutAfter_brace {m : Machine} {bound : Nat}
    (hloop : ∀ ⦃t : State⦄, t.Restarts lead → CutAfter 0 (Execution.runFor m bound) t)
    {source : Text} (hsource : ¬Statement.NoBrace source) (self : Option Address) :
    CutAfter 0 (Execution.line m bound source self) s := by
  have hbrace : Text.strip source = [Text.closeBrace] := Classical.not_not.mp hsource
  have hclosed : State.Restarts
      { s with blocks := { s.blocks with handler.isOpen := false, attempt.isOpen := false } }
      lead := { h with }
  have hclose : CutAfter 0 (Execution.close m bound) s := by
    rw [CutAfter, Execution.close_of_running h.classDef h.function h.final]
    refine CutAfter.bind_of_ok rfl ?_
    rw [if_pos h.isOpen]
    exact (hloop hclosed).bind _
  rw [Execution.line_eq, hbrace, if_pos rfl]
  exact .bind_of_ok (spend_of_unlimited h.unlimited) hclose

theorem cutAfter_lines {disk : Disk} {n : Nat} (first : List Text) {rest : List Text}
    (hloop : ∀ ⦃t : State⦄, t.Restarts lead →
      CutAfter 0 (Execution.runFor (Machine.ofBound disk n) n) t)
    (hlead : lead = first ++ rest) (hreturned : ∀ line ∈ rest, Execution.returned? line = none)
    (hbrace : ∃ line ∈ rest, ¬Statement.NoBrace line) :
    (∀ bound, CutAfter 0 (Execution.runBodyFrom (Machine.ofBound disk (n + 1))
      s.blocks.forLoop.body bound first.length) s) ∧
    CutAfter 0 (Execution.passes (Machine.ofBound disk (n + 1)) rest) s := by
  induction rest generalizing s first with
  | nil =>
      obtain ⟨line, hline, -⟩ := hbrace
      exact absurd hline List.not_mem_nil
  | cons line rest ih =>
      have hline : (s.body s.blocks.forLoop.body)[first.length]? = some line := by
        apply getElem?_of_prefix
        rw [← hlead]
        exact h.lead_prefix
      have hvalue := hreturned line List.mem_cons_self
      have hflag := Blocks.mem_flags_of_forLoop h.isOpen
      -- What follows from the line for both runs; the bound of a body may be reached before it.
      have hstep {α : Type} {f : Unit → Exec α}
          (hrest : ∀ bodies, State.Restarts { s with bodies } lead →
            (∃ line ∈ rest, ¬Statement.NoBrace line) → CutAfter 0 (f ()) { s with bodies }) :
          CutAfter 0 ((Machine.ofBound disk (n + 1)).line line none >>= f) s := by
        by_cases hnone : Statement.NoBrace line
        · obtain ⟨bodies, hrun, hprefix⟩ :=
            Execution.exists_of_captured hnone hflag h.unlimited (.ofBound disk n) n none
          refine .bind_of_ok hrun (hrest bodies ?_ ?_)
          · exact { h with lead_prefix := hprefix _ _ h.lead_prefix }
          · obtain ⟨other, hother, hclose⟩ := hbrace
            rcases List.mem_cons.mp hother with rfl | hmem
            · exact absurd hnone hclose
            · exact ⟨other, hmem, hclose⟩
        · exact (h.cutAfter_brace hloop hnone none).bind f
      have hnext : lead = (first ++ [line]) ++ rest := by rw [hlead]; simp
      have hreturned' : ∀ line ∈ rest, Execution.returned? line = none := fun other hother =>
        hreturned other (List.mem_cons_of_mem _ hother)
      constructor
      · intro bound
        cases bound with
        | zero => exact ⟨s, rfl, Nat.zero_le _⟩
        | succ bound =>
            rw [CutAfter, Execution.runBodyFrom_of_line hline hvalue bound]
            refine hstep fun bodies hs hmore => ?_
            have hall := (ih hs (first ++ [line]) hnext hreturned' hmore).1 bound
            rwa [List.length_append] at hall
      · rw [Execution.passes, hvalue]
        exact hstep fun bodies hs hmore => (ih hs (first ++ [line]) hnext hreturned' hmore).2

theorem cutAfter_runFor {m : Machine} {bound : Nat}
    (hrounds : ∀ {i last : Int}, i ≤ last →
      CutAfter 0 (Execution.forRounds m bound bound i last) s) :
    CutAfter 0 (Execution.runFor m bound) s := by
  obtain ⟨first, last, hfirst, hlast, hle⟩ := h.bounds
  rw [Execution.runFor]
  refine .get ?_
  dsimp only
  rw [hfirst, hlast]
  exact .bind_of_ok rfl (.bind_of_ok rfl ((hrounds hle).bind _))

variable (hreturned : ∀ line ∈ lead, Execution.returned? line = none)
  (hbrace : ∃ line ∈ lead, ¬Statement.NoBrace line)

include hreturned hbrace

theorem cutAfter_runRound {disk : Disk} {n : Nat}
    (hloop : ∀ ⦃t : State⦄, t.Restarts lead →
      CutAfter 0 (Execution.runFor (Machine.ofBound disk n) n) t) (bound : Nat) :
    CutAfter 0
      (Execution.runRound (Machine.ofBound disk (n + 1)) bound s.blocks.forLoop.body) s := by
  have hlines := (h.cutAfter_lines [] hloop rfl hreturned hbrace).1 bound
  have hbody : CutAfter 0
      (Execution.runBody (Machine.ofBound disk (n + 1)) bound s.blocks.forLoop.body) s :=
    .bind_of_ok (spend_of_unlimited h.unlimited) (hlines.rescue _)
  exact (hbody.bind _).rescue _

/-- The rounds of the loop are cut off at every bound: the first one starts the loop again, with a
smaller bound. -/
theorem cutAfter_forRounds (disk : Disk) (n : Nat) {i last : Int} (hle : i ≤ last) :
    CutAfter 0 (Execution.forRounds (Machine.ofBound disk n) n n i last) s := by
  induction n generalizing s i last with
  | zero => exact ⟨s, rfl, Nat.zero_le _⟩
  | succ n ih =>
      have hround := (h.startRound i).cutAfter_runRound hreturned hbrace
        (fun _ ht => ht.cutAfter_runFor (ih ht)) (n + 1)
      rw [Execution.forRounds, if_neg (Int.not_lt.mpr hle)]
      exact .get (.bind_of_ok rfl (.get (hround.bind _)))

end State.Restarts

/-- The loop over integers stays as it is, and no other block has its body. -/
structure Circumstance.Restarted (id : BodyId) (loop : ForBlock BodyId) (b : Blocks BodyId)
    (_ _ : Array (Array Text)) : Prop where
  apart : b.Apart id False True
  forLoop_eq : b.forLoop = loop

theorem Circumstance.kept_restarted (id : BodyId) {loop : ForBlock BodyId}
    (hopen : loop.isOpen = true) : Circumstance.Kept (Restarted id loop) id where
  apart h := { h.apart with whileLoop := False.elim }
  push h := { h with }
  append _ h _ := { h with }
  change h h' hfor hwhile :=
    { apart :=
        { h' with
          whileLoop := by
            rw [hwhile]
            exact h.apart.whileLoop }
      forLoop_eq := hfor.trans h.forLoop_eq }
  openFor {b _ _ _} h hnone _ := by
    have hflag : b.forLoop.isOpen = true := by rw [h.forLoop_eq, hopen]
    exact absurd (Blocks.mem_flags_of_forLoop hflag) (List.count_eq_zero.mp hnone)
  openWhile h _ hne := { h with apart := { h.apart with whileLoop := fun _ => hne } }

namespace Comparison

section

variable {id : BodyId} {lead : List Text} {loop : ForBlock BodyId} (hopen : loop.isOpen = true)
  (hbody : loop.body = id)
  (hbounds : ∃ first last, Execution.boundOf loop.first = .ok first ∧
    Execution.boundOf loop.last = .ok last ∧ first ≤ last)
  (hreturned : ∀ line ∈ lead, Execution.returned? line = none)
  (hbrace : ∃ line ∈ lead, ¬Statement.NoBrace line)

include hbody hreturned hbrace

theorem runFor_restarted {disk : Disk} {n : Nat}
    (hm : (Machine.ofBound disk n).RunsAlike (beside id lead (.Restarted id loop))
      (Machine.ofBound disk n))
    {s t : State} (h : (beside id lead (.Restarted id loop)).rel s t) (hs : s.Restarts lead) :
    Matches (beside id lead (.Restarted id loop)) (Execution.runFor (Machine.ofBound disk n) n s)
      (Execution.runFor (Machine.ofBound disk n) n t) := by
  obtain ⟨first, last, hfirst, hlast, hle⟩ := hs.bounds
  have hrounds : Matches (beside id lead (.Restarted id loop))
      (Execution.forRounds (Machine.ofBound disk n) n n first last s)
      (Execution.forRounds (Machine.ofBound disk n) n n first last t) := by
    cases n with
    | zero => exact .error _ h
    | succ n =>
        have hstart := hs.startRound first
        have hloop ⦃u : State⦄ (hu : u.Restarts lead) :
            CutAfter 0 (Execution.runFor (Machine.ofBound disk n) n) u :=
          hu.cutAfter_runFor (hu.cutAfter_forRounds hreturned hbrace disk n)
        refine forRounds_beside h fun u u' hu hrel => ?_
        have hid : u.blocks.forLoop.body = id := by
          obtain ⟨_, -, -, hk⟩ := hrel.1
          rw [hk.forLoop_eq, hbody]
        rw [hid]
        cases hu with
        | here _ =>
            -- The lines do not come to their end, where the variants could differ.
            refine runRound_lead hm hrel (fun v v' hpasses => ?_) _
            obtain ⟨w, hcut, -⟩ := (hstart.cutAfter_lines [] hloop rfl hreturned hbrace).2
            cases hpasses.symm.trans hcut
        | later _ hround _ =>
            obtain ⟨w, hcut, -⟩ := hstart.cutAfter_runRound hreturned hbrace hloop (n + 1)
            cases hround.symm.trans hcut
  obtain ⟨w, hcut, -⟩ := hs.cutAfter_forRounds hreturned hbrace disk n hle
  rw [Execution.runFor, get_bind, get_bind, ← variants_blocks_eq h]
  dsimp only
  rw [hfirst, hlast]
  refine hrounds.bind_of_ok fun _ u u' hok _ => ?_
  cases hok.symm.trans hcut

include hopen hbounds

theorem runsAlike_restarted (disk : Disk) (n : Nat) :
    (Machine.ofBound disk n).RunsAlike (beside id lead (.Restarted id loop))
      (Machine.ofBound disk n) := by
  have hkept := Circumstance.kept_restarted id hopen
  induction n with
  | zero => exact Machine.idle_runsAlike
  | succ n ih =>
      refine ⟨ih.evaluates_next keptByStatements_variants.toKeptByRoutines disk n n, ?_⟩
      intro source self _ _
      refine line_beside hkept ih ?_ ?_ source self
      · intro s t h hclass hfunction hfinal hfor
        obtain ⟨_, -, hbodies, hk⟩ := h.1
        have hs : s.Restarts lead :=
          { isOpen := hfor
            classDef := hclass
            function := hfunction
            final := hfinal
            unlimited := h.2.2
            lead_prefix := by
              rw [hk.forLoop_eq, hbody]
              exact hbodies.lead_left
            bounds := by
              rw [hk.forLoop_eq]
              exact hbounds }
        obtain ⟨w, hcut, -⟩ :=
          hs.cutAfter_runFor (hs.cutAfter_forRounds hreturned hbrace disk n)
        have hrun := runFor_restarted hbody hreturned hbrace ih h hs
        refine hrun.bind_of_ok fun _ u u' hok _ => ?_
        cases hok.symm.trans hcut
      · intro s t h hclosed _
        obtain ⟨_, -, -, hk⟩ := h.1
        rw [hk.forLoop_eq, hopen] at hclosed
        cases hclosed

end

end Comparison

/-- The loop with a condition is open, and no other block has its body. -/
def Circumstance.whileOpen (id : BodyId) : Circumstance :=
  fun b _ _ => b.Apart id True False ∧ b.whileLoop.isOpen = true

theorem Comparison.goesOver_whileOpen (id : BodyId) (lead : List Text) (disk : Disk) :
    (variants id lead (.whileOpen id) Statement.NoBrace).GoesOver disk := by
  intro m m' bound hm
  refine ⟨hm.evaluates_next keptByStatements_variants.toKeptByRoutines disk bound bound, ?_⟩
  intro source self hsource _
  refine alike_line spend_variants variants_blocks_eq (fun hbrace => absurd hbrace hsource) ?_ ?_
  · rintro s _ j ⟨⟨bodies, rfl, hbodies, hk⟩, hs⟩ _ _
    exact .ok () ⟨⟨_, rfl, hbodies.appendLine j _, hk⟩, hs⟩
  · intro s t h hnone
    obtain ⟨_, -, -, -, hwhile⟩ := h.1
    exact absurd (Blocks.mem_flags_of_whileLoop hwhile) (List.count_eq_zero.mp hnone)

end LineScript
