import LineScript.Proofs.Attempt
import LineScript.Proofs.OpenLoop
import LineScript.View

namespace LineScript

open Exec

namespace Execution

theorem line_continue {m : Machine} {s : State} (hnone : s.blocks.openCount = 0)
    (hunlimited : s.allowance = none) (bound : Nat) :
    line m bound "loop.continue" none s = .error (.fault .loopContinue) s := by
  have hsilent : Statement.isSilent (Text.strip "loop.continue") = false := rfl
  exact line_of_none hsilent (by decide) hnone hunlimited bound none

theorem goesOn_continue {disk : Disk} {n : Nat} {id : BodyId} {position : Nat} {s : State}
    (hline : (s.body id)[position]? = some "loop.continue") (hnone : s.blocks.openCount = 0)
    (hunlimited : s.allowance = none) (bound : Nat) :
    goesOn (runBodyFrom (Machine.ofBound disk (n + 1)) id (bound + 1) position) s =
      .ok true s := by
  have hrun : runBodyFrom (Machine.ofBound disk (n + 1)) id (bound + 1) position s =
      (fail .loopContinue : Exec Value) s := by
    rw [runBodyFrom_of_line hline rfl]
    exact bind_of_error (line_continue hnone hunlimited n) _
  exact goesOn_congr hrun

theorem goesOn_end {m : Machine} {id : BodyId} {position : Nat} {s : State}
    (hend : (s.body id)[position]? = none) (bound : Nat) :
    goesOn (runBodyFrom m id (bound + 1) position) s = .ok true s :=
  goesOn_congr (runBodyFrom_of_end hend bound : _ = (pure .null : Exec Value) s)

end Execution

/-- Lines, then the line that continues the loop, and then others. -/
def continued (lead rest : List Text) : List Text :=
  lead ++ ("loop.continue" : Text) :: rest

def State.withLines (s : State) (id : BodyId) (lines : List Text) : State :=
  { s with bodies := s.bodies.setIfInBounds id lines.toArray }

/-- The lines come to their end in a round of the loop over integers that has the same body as at
its start, and then there is the given state. -/
def State.ForReaches (disk : Disk) (n : Nat) (lines : List Text) (s v : State) : Prop :=
  ∃ first last u, Execution.boundOf s.blocks.forLoop.first = .ok first ∧
    Execution.boundOf s.blocks.forLoop.last = .ok last ∧
    ForRound (Machine.ofBound disk n) n last first s u ∧
    u.blocks.forLoop.body = s.blocks.forLoop.body ∧
    Execution.passes (Machine.ofBound disk n) lines u = .ok true v

/-- The lines come to their end in a round of the loop with a condition, and then there is the given
state. -/
def State.WhileReaches (disk : Disk) (n : Nat) (lines : List Text) (s v : State) : Prop :=
  ∃ u, WhileRound (Machine.ofBound disk n) n s.blocks.whileLoop.body s u ∧
    Execution.passes (Machine.ofBound disk n) lines u = .ok true v

namespace Comparison

theorem withLines_rel (lead rest : List Text) (known : Circumstance) {id : BodyId} {s : State}
    (hid : id < s.bodies.size) (hunlimited : s.allowance = none)
    (hknown : known s.blocks (s.bodies.setIfInBounds id (continued lead rest).toArray)
      (s.bodies.setIfInBounds id lead.toArray)) {lines : Text → Prop}
    (hroutines : s.EveryRoutine lines) :
    (variants id lead known lines).rel (s.withLines id (continued lead rest))
      (s.withLines id lead) := by
  have hvariants : Variants id lead
      (s.bodies.setIfInBounds id (continued lead rest).toArray)
      (s.bodies.setIfInBounds id lead.toArray) :=
    { size_eq := by rw [Array.size_setIfInBounds, Array.size_setIfInBounds]
      lt_size := by rwa [Array.size_setIfInBounds]
      same := fun j hj => by
        rw [Array.getElem?_setIfInBounds_ne hj.symm, Array.getElem?_setIfInBounds_ne hj.symm]
      lead_left := by
        rw [Array.getElem?_setIfInBounds_self_of_lt hid]
        exact List.prefix_append _ _
      lead_right := by
        rw [Array.getElem?_setIfInBounds_self_of_lt hid]
        exact List.prefix_rfl }
  exact ⟨⟨_, rfl, hvariants, hknown⟩, hroutines, hunlimited⟩

/-- Where a body is not captured into, its variants differ as they did at first. -/
abbrev untouched (id : BodyId) (notFor notWhile : Prop) (lead rest : List Text) : Comparison :=
  beside id lead
    (.Unread id notFor notWhile (continued lead rest).toArray lead.toArray)

theorem untouched_rel (lead rest : List Text) {id : BodyId} {notFor notWhile : Prop} {s : State}
    (hid : id < s.bodies.size) (hunlimited : s.allowance = none)
    (hapart : s.blocks.Apart id notFor notWhile)
    (hfor : s.blocks.forLoop.isOpen = true → s.blocks.forLoop.body ≠ id)
    (hwhile : s.blocks.whileLoop.isOpen = true → s.blocks.whileLoop.body ≠ id) :
    (untouched id notFor notWhile lead rest).rel (s.withLines id (continued lead rest))
      (s.withLines id lead) := by
  refine withLines_rel lead rest _ hid hunlimited ?_ s.everyRoutine_true
  exact
    { apart := hapart
      forLoop := hfor
      whileLoop := hwhile
      left := Array.getElem?_setIfInBounds_self_of_lt hid
      right := Array.getElem?_setIfInBounds_self_of_lt hid }

theorem runsAlike_untouched (id : BodyId) (notFor notWhile : Prop) (lead rest : List Text)
    (disk : Disk) (n : Nat) :
    (Machine.ofBound disk n).RunsAlike (untouched id notFor notWhile lead rest)
      (Machine.ofBound disk n) :=
  runsAlike_unread notFor disk n

variable {id : BodyId} {lead rest : List Text} {notFor notWhile : Prop} {disk : Disk} {n : Nat}

theorem goesOn_untouched {v v' : State} (h : (untouched id notFor notWhile lead rest).rel v v')
    (hnone : v.blocks.openCount = 0) (bound : Nat) :
    Matches (untouched id notFor notWhile lead rest)
      (Execution.goesOn (Execution.runBodyFrom (Machine.ofBound disk (n + 1)) id bound
        lead.length) v)
      (Execution.goesOn (Execution.runBodyFrom (Machine.ofBound disk (n + 1)) id bound
        lead.length) v') := by
  cases bound with
  | zero => exact Matches.goesOn (.error _ h)
  | succ bound =>
      have hline : (v.body id)[lead.length]? = some "loop.continue" := by
        obtain ⟨_, -, -, hk⟩ := h.1
        rw [State.body, hk.left]
        simp [continued]
      have hend : (v'.body id)[lead.length]? = none := by
        obtain ⟨⟨_, rfl, -, hk⟩, -⟩ := h
        rw [State.body, hk.right]
        simp
      rw [Execution.goesOn_continue hline hnone h.2.2, Execution.goesOn_end hend]
      exact .ok true h

theorem runRound_untouched {u u' : State} (h : (untouched id notFor notWhile lead rest).rel u u')
    {j : BodyId}
    (hreach : j = id → ∀ v, Execution.passes (Machine.ofBound disk (n + 1)) lead u = .ok true v →
      true ∉ v.blocks.flags) (bound : Nat) :
    Matches (untouched id notFor notWhile lead rest)
      (Execution.runRound (Machine.ofBound disk (n + 1)) bound j u)
      (Execution.runRound (Machine.ofBound disk (n + 1)) bound j u') := by
  have hm := runsAlike_untouched id notFor notWhile lead rest disk (n + 1)
  by_cases hj : j = id
  · subst hj
    refine runRound_lead hm h (fun v v' hpasses hv => goesOn_untouched hv ?_) bound
    exact List.count_eq_zero.mpr (hreach rfl v hpasses)
  · exact (runsBody_beside hm hj bound).runRound h

section

variable {s : State} (hid : s.blocks.forLoop.body < s.bodies.size)
  (hapart : s.blocks.Apart s.blocks.forLoop.body False True) (hunlimited : s.allowance = none)

include hid hapart hunlimited

/-- While the loop over integers is open, its rounds do not get behind the common lines: these are
captured, or a closing brace starts the loop again. -/
theorem forRounds_of_open (hopen : s.blocks.forLoop.isOpen = true)
    (hreturned : ∀ line ∈ lead, Execution.returned? line = none) {first last : Int}
    (hfirst : Execution.boundOf s.blocks.forLoop.first = .ok first)
    (hlast : Execution.boundOf s.blocks.forLoop.last = .ok last)
    (hreach : ∀ u v, ForRound (Machine.ofBound disk (n + 1)) (n + 1) last first
      (s.withLines s.blocks.forLoop.body (continued lead rest)) u →
      u.blocks.forLoop.body = s.blocks.forLoop.body →
      Execution.passes (Machine.ofBound disk (n + 1)) lead u = .ok true v →
      true ∉ v.blocks.flags) :
    Matches (beside s.blocks.forLoop.body lead (.Restarted s.blocks.forLoop.body s.blocks.forLoop))
      (Execution.forRounds (Machine.ofBound disk (n + 1)) (n + 1) (n + 1) first last
        (s.withLines s.blocks.forLoop.body (continued lead rest)))
      (Execution.forRounds (Machine.ofBound disk (n + 1)) (n + 1) (n + 1) first last
        (s.withLines s.blocks.forLoop.body lead)) := by
  have hrel := withLines_rel lead rest (.Restarted s.blocks.forLoop.body s.blocks.forLoop) hid
    hunlimited ⟨hapart, rfl⟩ s.everyRoutine_true
  have hflag ⦃b : Blocks BodyId⦄ (hb : b.forLoop = s.blocks.forLoop) : true ∈ b.flags := by
    apply Blocks.mem_flags_of_forLoop
    rw [hb, hopen]
  refine forRounds_beside hrel fun u u' hu hrel' => ?_
  obtain ⟨_, -, -, hk⟩ := hrel'.1
  have hbody : u.blocks.forLoop.body = s.blocks.forLoop.body := by rw [hk.forLoop_eq]
  by_cases hbrace : ∃ line ∈ lead, ¬Statement.NoBrace line
  · have hm := runsAlike_restarted hopen rfl ⟨first, last, hfirst, hlast, hu.le⟩ hreturned hbrace
      disk (n + 1)
    rw [hbody]
    refine runRound_lead hm hrel' (fun v v' hpasses hv => ?_) (n + 1)
    obtain ⟨_, -, -, hend⟩ := hv.1
    exact absurd (hflag hend.forLoop_eq) (hreach u v hu hbody hpasses)
  · have hlines : ∀ line ∈ lead, Statement.NoBrace line := by
      simpa only [not_exists, not_and, Classical.not_not] using hbrace
    obtain ⟨v, hpasses, hblocks⟩ :=
      Execution.passes_of_captured disk n hlines hreturned (hflag hk.forLoop_eq) hrel'.2.2
    rw [← hblocks] at hk
    exact absurd (hflag hk.forLoop_eq) (hreach u v hu hbody hpasses)

theorem forRounds_continued
    (hreach : ∀ v, (s.withLines s.blocks.forLoop.body (continued lead rest)).ForReaches disk n lead
      v → true ∉ v.blocks.flags) {first last : Int}
    (hfirst : Execution.boundOf s.blocks.forLoop.first = .ok first)
    (hlast : Execution.boundOf s.blocks.forLoop.last = .ok last) :
    Matches (beside s.blocks.forLoop.body lead (.apart s.blocks.forLoop.body False True))
      (Execution.forRounds (Machine.ofBound disk n) n n first last
        (s.withLines s.blocks.forLoop.body (continued lead rest)))
      (Execution.forRounds (Machine.ofBound disk n) n n first last
        (s.withLines s.blocks.forLoop.body lead)) := by
  have hrel := withLines_rel lead rest (.apart s.blocks.forLoop.body False True) hid hunlimited
    hapart
    s.everyRoutine_true
  have hreach' (u v : State) (hu : ForRound (Machine.ofBound disk n) n last first
      (s.withLines s.blocks.forLoop.body (continued lead rest)) u)
      (hbody : u.blocks.forLoop.body = s.blocks.forLoop.body)
      (hpasses : Execution.passes (Machine.ofBound disk n) lead u = .ok true v) :
      true ∉ v.blocks.flags :=
    hreach v ⟨first, last, u, hfirst, hlast, hu, hbody, hpasses⟩
  cases n with
  | zero => exact .error _ hrel
  | succ n =>
      by_cases hreturned : ∃ line ∈ lead, Execution.returned? line ≠ none
      · have hm := Machine.ofBound_runsAlike_self
          (goesOver_of_returned s.blocks.forLoop.body hreturned False True disk) (n + 1)
        exact forRounds_beside hrel fun u u' _ hu =>
          runRound_of_returned hm hreturned _ _ hu
      · cases hopen : s.blocks.forLoop.isOpen with
        | true =>
            have hnone : ∀ line ∈ lead, Execution.returned? line = none := by
              simpa only [not_exists, not_and, Classical.not_not] using hreturned
            exact (forRounds_of_open hid hapart hunlimited hopen hnone hfirst hlast hreach').mono
              (beside_of_variants fun _ _ _ hk => hk.apart) False.elim
        | false =>
            have huntouched := untouched_rel lead rest hid hunlimited hapart (by simp [hopen])
              fun _ => hapart.whileLoop trivial
            refine (forRounds_beside huntouched fun u u' hu hrel' => ?_).mono
              (beside_of_variants fun _ _ _ hk => hk.apart) False.elim
            exact runRound_untouched hrel' (fun hbody v => hreach' u v hu hbody) (n + 1)

end

section

variable {s : State} (hid : s.blocks.whileLoop.body < s.bodies.size)
  (hapart : s.blocks.Apart s.blocks.whileLoop.body True False) (hunlimited : s.allowance = none)

include hid hapart hunlimited

theorem whileRounds_of_open (hopen : s.blocks.whileLoop.isOpen = true)
    (hroutines : s.EveryRoutine Statement.NoBrace)
    (hlines : ∀ line ∈ lead, Statement.NoBrace line)
    (hreturned : ∀ line ∈ lead, Execution.returned? line = none)
    (hreach : ∀ v, (s.withLines s.blocks.whileLoop.body (continued lead rest)).WhileReaches disk
      (n + 1) lead v → true ∉ v.blocks.flags) :
    Matches (variants s.blocks.whileLoop.body lead (.whileOpen s.blocks.whileLoop.body)
        Statement.NoBrace)
      (Execution.whileRounds (Machine.ofBound disk (n + 1)) (n + 1) s.blocks.whileLoop.body (n + 1)
        (s.withLines s.blocks.whileLoop.body (continued lead rest)))
      (Execution.whileRounds (Machine.ofBound disk (n + 1)) (n + 1) s.blocks.whileLoop.body (n + 1)
        (s.withLines s.blocks.whileLoop.body lead)) := by
  have hrel := withLines_rel lead rest (.whileOpen s.blocks.whileLoop.body) hid hunlimited
    ⟨hapart, hopen⟩ hroutines
  have hm := Machine.ofBound_runsAlike_self
    (goesOver_whileOpen s.blocks.whileLoop.body lead disk) (n + 1)
  refine matches_whileRounds variants_blocks_eq
    (keptByStatements_variants.loopCondition hm.toEvaluatesAlike) (.inl rfl) hrel ?_
  intro u u' hu hrel'
  obtain ⟨_, -, -, -, hstays⟩ := hrel'.1
  have hflag := Blocks.mem_flags_of_whileLoop hstays
  obtain ⟨v, hpasses, hblocks⟩ :=
    Execution.passes_of_captured disk n hlines hreturned hflag hrel'.2.2
  rw [← hblocks] at hflag
  exact absurd hflag (hreach v ⟨u, hu, hpasses⟩)

theorem whileRounds_continued
    (hreach : ∀ v, (s.withLines s.blocks.whileLoop.body (continued lead rest)).WhileReaches disk n
      lead v → true ∉ v.blocks.flags)
    (hclosed : s.blocks.whileLoop.isOpen = true →
      (∃ line ∈ lead, Execution.returned? line ≠ none) ∨
        s.EveryRoutine Statement.NoBrace ∧ ∀ line ∈ lead, Statement.NoBrace line) :
    Matches (beside s.blocks.whileLoop.body lead (.apart s.blocks.whileLoop.body True False))
      (Execution.whileRounds (Machine.ofBound disk n) n s.blocks.whileLoop.body n
        (s.withLines s.blocks.whileLoop.body (continued lead rest)))
      (Execution.whileRounds (Machine.ofBound disk n) n s.blocks.whileLoop.body n
        (s.withLines s.blocks.whileLoop.body lead)) := by
  have hrel := withLines_rel lead rest (.apart s.blocks.whileLoop.body True False) hid hunlimited
    hapart
    s.everyRoutine_true
  cases n with
  | zero => exact .error _ hrel
  | succ n =>
      by_cases hreturned : ∃ line ∈ lead, Execution.returned? line ≠ none
      · have hm := Machine.ofBound_runsAlike_self
          (goesOver_of_returned s.blocks.whileLoop.body hreturned True False disk) (n + 1)
        exact whileRounds_beside hm.toEvaluatesAlike hrel fun u u' _ hu =>
          runRound_of_returned hm hreturned _ _ hu
      · cases hopen : s.blocks.whileLoop.isOpen with
        | true =>
            have hnone : ∀ line ∈ lead, Execution.returned? line = none := by
              simpa only [not_exists, not_and, Classical.not_not] using hreturned
            obtain ⟨hroutines, hlines⟩ := (hclosed hopen).resolve_left hreturned
            exact (whileRounds_of_open hid hapart hunlimited hopen hroutines hlines hnone
              hreach).mono (beside_of_variants fun _ _ _ hk => hk.1) False.elim
        | false =>
            have huntouched := untouched_rel lead rest hid hunlimited hapart
              (fun _ => hapart.forLoop trivial) (by simp [hopen])
            have hm := runsAlike_untouched s.blocks.whileLoop.body True False lead rest disk (n + 1)
            refine (whileRounds_beside hm.toEvaluatesAlike huntouched fun u u' hu hrel' => ?_).mono
              (beside_of_variants fun _ _ _ hk => hk.apart) False.elim
            exact runRound_untouched hrel' (fun _ v hpasses => hreach v ⟨u, hu, hpasses⟩) (n + 1)

end

end Comparison

/-- An execution ends in the same way in two states that have different lines in one body, which no
block has but the loop: returning or halting, and in states that are the same but for these lines.
If it returns, no difference can be seen. -/
structure EndsAlike (id : BodyId) (notFor notWhile : Prop) (x : Exec Unit) (s t : State) :
    Prop where
  halt_eq : halt? x s = halt? x t
  state_eq : (after x s).withLines id [] = (after x t).withLines id []
  apart : (after x s).blocks.Apart id notFor notWhile
  view_eq : halt? x s = none → (after x s).view = (after x t).view

theorem Variants.setIfInBounds_eq {id : BodyId} {lead : List Text}
    {bodies others : Array (Array Text)} (h : Variants id lead bodies others) (body : Array Text) :
    bodies.setIfInBounds id body = others.setIfInBounds id body := by
  apply Array.ext_getElem?
  intro j
  by_cases hj : id = j
  · rw [← hj, Array.getElem?_setIfInBounds_self_of_lt h.lt_size,
      Array.getElem?_setIfInBounds_self_of_lt (h.size_eq ▸ h.lt_size)]
  · rw [Array.getElem?_setIfInBounds_ne hj, Array.getElem?_setIfInBounds_ne hj,
      h.same j (Ne.symm hj)]

theorem Exec.after_of_ok {α : Type} {x : Exec α} {s t : State} {a : α} (h : x s = .ok a t) :
    after x s = t := by
  rw [after, h]

namespace EndsAlike

variable {id : BodyId} {lead : List Text} {notFor notWhile : Prop} {x : Exec Unit} {s t : State}

theorem view_eq_of_apart
    (h : (Comparison.beside id lead (.apart id notFor notWhile)).rel s t)
    (hapart : s.blocks.Apart id True True) : s.view = t.view := by
  have hbody (j : BodyId) (hj : j ≠ id) : s.body j = t.body j := Comparison.body_variants hj h
  obtain ⟨⟨bodies, rfl, -, -⟩, -⟩ := h
  unfold State.view Blocks.map
  dsimp only
  rw [hbody _ hapart.branch, hbody _ hapart.function, hbody _ hapart.attempt,
    hbody _ hapart.handler, hbody _ hapart.final, hbody _ (hapart.forLoop trivial),
    hbody _ (hapart.whileLoop trivial)]

theorem of_matches
    (h : Matches (.beside id lead (.apart id notFor notWhile)) (x s) (x t))
    (hreturn : ∀ v, x s = .ok () v → v.blocks.Apart id notFor notWhile →
      v.blocks.Apart id True True) :
    EndsAlike id notFor notWhile x s t := by
  have hstate ⦃u u' : State⦄
      (hu : (Comparison.beside id lead (.apart id notFor notWhile)).rel u u') :
      u.withLines id [] = u'.withLines id [] ∧ u.blocks.Apart id notFor notWhile := by
    obtain ⟨⟨bodies, rfl, hbodies, hk⟩, -⟩ := hu
    refine ⟨?_, hk⟩
    rw [State.withLines, State.withLines, hbodies.setIfInBounds_eq]
  generalize ho : x s = o at h
  generalize hp : x t = p at h
  cases h with
  | @ok a u u' hu =>
      have hs : after x s = u := after_of_ok ho
      have ht : after x t = u' := after_of_ok hp
      refine ⟨by rw [halt?, halt?, ho, hp], ?_, ?_, fun _ => ?_⟩
      · rw [hs, ht]
        exact (hstate hu).1
      · rw [hs]
        exact (hstate hu).2
      · rw [hs, ht]
        exact view_eq_of_apart hu (hreturn u ho (hstate hu).2)
  | @error halt u u' hu =>
      have hs : after x s = u := after_eq_of_eq (y := throw halt) ho
      have ht : after x t = u' := after_eq_of_eq (y := throw halt) hp
      refine ⟨by rw [halt?, halt?, ho, hp], ?_, ?_, fun hnone => ?_⟩
      · rw [hs, ht]
        exact (hstate hu).1
      · rw [hs]
        exact (hstate hu).2
      · rw [halt?, ho] at hnone
        cases hnone
  | cut _ _ hslack => exact hslack.elim

end EndsAlike

section

variable {disk : Disk} {n : Nat} {s : State} {lead rest : List Text} {id : BodyId}
  (hunlimited : s.allowance = none) (hid : id < s.bodies.size)

include hunlimited hid

theorem Execution.runFor_endsAlike (hbody : s.blocks.forLoop.body = id)
    (hapart : s.blocks.Apart id False True)
    (hreach : ∀ v, (s.withLines id (continued lead rest)).ForReaches disk n lead v →
      true ∉ v.blocks.flags) :
    EndsAlike id False True (runFor (Machine.ofBound disk n) n)
      (s.withLines id (continued lead rest)) (s.withLines id lead) := by
  subst hbody
  have hrel := Comparison.withLines_rel lead rest (.apart s.blocks.forLoop.body False True) hid
    hunlimited hapart s.everyRoutine_true
  have hrounds (first last : Int) (hfirst : boundOf s.blocks.forLoop.first = .ok first)
      (hlast : boundOf s.blocks.forLoop.last = .ok last) :=
    Comparison.forRounds_continued hid hapart hunlimited hreach hfirst hlast
  have hrun := Comparison.runFor_beside hrel hrounds (Circumstance.kept_apart _ _ _)
    fun _ _ _ _ hk hj => { hk with forLoop := fun _ => hj }
  refine .of_matches hrun fun v hok hv => ?_
  exact { hv with forLoop := fun _ => Comparison.forLoop_body_ne hrounds hok }

theorem Execution.runWhile_endsAlike (hbody : s.blocks.whileLoop.body = id)
    (hapart : s.blocks.Apart id True False)
    (hreach : ∀ v, (s.withLines id (continued lead rest)).WhileReaches disk n lead v →
      true ∉ v.blocks.flags)
    (hclosed : s.blocks.whileLoop.isOpen = true →
      (∃ line ∈ lead, returned? line ≠ none) ∨
        s.EveryRoutine Statement.NoBrace ∧ ∀ line ∈ lead, Statement.NoBrace line) :
    EndsAlike id True False (runWhile (Machine.ofBound disk n) n)
      (s.withLines id (continued lead rest)) (s.withLines id lead) := by
  subst hbody
  have hrel := Comparison.withLines_rel lead rest (.apart s.blocks.whileLoop.body True False) hid
    hunlimited hapart s.everyRoutine_true
  have hrounds := Comparison.whileRounds_continued hid hapart hunlimited hreach hclosed
  have hrun := Comparison.runWhile_beside hrel hrounds (Circumstance.kept_apart _ _ _)
    fun _ _ _ _ hk hj => { hk with whileLoop := fun _ => hj }
  refine .of_matches hrun fun v hok hv => ?_
  exact { hv with whileLoop := fun _ => Comparison.whileLoop_body_ne hrounds hok }

end

theorem Blocks.apart_of_nodup {blocks : Blocks BodyId} (hown : blocks.bodyIds.Nodup) :
    blocks.Apart blocks.forLoop.body False True ∧
      blocks.Apart blocks.whileLoop.body True False := by
  simp only [bodyIds, List.nodup_cons, List.mem_cons, not_or] at hown
  constructor
  · constructor <;> grind
  · constructor <;> grind

/-- In the body of a loop, a line that continues it and all lines behind it may be left out, if no
block is open whenever a round has got over the lines before it. A loop with a condition must not be
open, either, unless a value is returned before that line, or nothing can close the loop. -/
theorem continue_acts_as_end_of_body (disk : Disk) (n : Nat) {s : State}
    (hunlimited : s.allowance = none) (hown : s.blocks.bodyIds.Nodup)
    (hstored : ∀ id ∈ s.blocks.bodyIds, id < s.bodies.size) (lead rest : List Text) :
    ((∀ v, (s.withLines s.blocks.forLoop.body (continued lead rest)).ForReaches disk n lead v →
        true ∉ v.blocks.flags) →
      EndsAlike s.blocks.forLoop.body False True (Execution.runFor (Machine.ofBound disk n) n)
        (s.withLines s.blocks.forLoop.body (continued lead rest))
        (s.withLines s.blocks.forLoop.body lead)) ∧
    ((∀ v, (s.withLines s.blocks.whileLoop.body (continued lead rest)).WhileReaches disk n lead v →
        true ∉ v.blocks.flags) →
      (s.blocks.whileLoop.isOpen = true →
        (∃ line ∈ lead, ("return_object" : Text) <+: line) ∨
          s.EveryRoutine Statement.NoBrace ∧ ∀ line ∈ lead, Statement.NoBrace line) →
      EndsAlike s.blocks.whileLoop.body True False (Execution.runWhile (Machine.ofBound disk n) n)
        (s.withLines s.blocks.whileLoop.body (continued lead rest))
        (s.withLines s.blocks.whileLoop.body lead)) := by
  have hapart := Blocks.apart_of_nodup hown
  constructor
  · intro hreach
    have hid := hstored s.blocks.forLoop.body (by simp [Blocks.bodyIds])
    exact Execution.runFor_endsAlike hunlimited hid rfl hapart.1 hreach
  · intro hreach hclosed
    have hid := hstored s.blocks.whileLoop.body (by simp [Blocks.bodyIds])
    refine Execution.runWhile_endsAlike hunlimited hid rfl hapart.2 hreach fun hopen => ?_
    refine (hclosed hopen).imp_left ?_
    rintro ⟨line, hline, hvalue⟩
    exact ⟨line, hline, fun hnone => Execution.returned?_eq_none_iff.mp hnone hvalue⟩

theorem WhileRound.eq_of_once {m : Machine} {bound : Nat} {id : BodyId} {s t u v : State}
    (h : WhileRound m bound id s v)
    (ht : after (Execution.loopCondition m s.blocks.whileLoop.condition) s = t)
    (hu : after (Execution.runRound m bound id) t = u)
    (honce : value? (Execution.loopCondition m u.blocks.whileLoop.condition) u ≠ some true) :
    v = t := by
  cases h with
  | here htrue => rw [← ht, after_of_ok htrue]
  | later htrue hround hrest =>
      rw [← after_of_ok htrue, ht] at hround
      rw [← after_of_ok hround, hu] at hrest
      obtain ⟨w, hagain⟩ := hrest.first
      rw [value?, hagain] at honce
      exact absurd rfl honce

/-- A loop over integers with two rounds to go, and a loop with a condition with one. -/
def twoLoops : State :=
  { vars := [(some "xs", .list 0)]
    heap := { lists := #[[.int 0, .int 1]] }
    blocks :=
      { Blocks.initial with
        forLoop := ⟨false, 1, some "i", some "1", some "2"⟩
        whileLoop := ⟨false, 2, some "xs.pop()"⟩ } }

/-- Both loops print and run another loop before they are continued. That one takes the place of the
loop over integers, so the second round is empty. -/
theorem continue_acts_as_end_of_body_nested :
    EndsAlike 1 False True (Execution.runFor (.ofBound .empty 8) 8)
        (twoLoops.withLines 1
          (continued ["print|[xs]", "entr_i j ty 1:1 \x7b", "\x7d"] ["print|[0]"]))
        (twoLoops.withLines 1 ["print|[xs]", "entr_i j ty 1:1 \x7b", "\x7d"]) ∧
      EndsAlike 2 True False (Execution.runWhile (.ofBound .empty 8) 8)
        (twoLoops.withLines 2
          (continued ["print|[xs]", "entr_i j ty 1:1 \x7b", "\x7d"] ["print|[0]"]))
        (twoLoops.withLines 2 ["print|[xs]", "entr_i j ty 1:1 \x7b", "\x7d"]) := by
  have hboth := continue_acts_as_end_of_body .empty 8 (s := twoLoops) rfl (by decide) (by decide)
    ["print|[xs]", "entr_i j ty 1:1 \x7b", "\x7d"] ["print|[0]"]
  constructor
  · apply hboth.1
    rintro v ⟨first, last, u, hfirst, hlast, hround, hbody, hpasses⟩
    obtain rfl : 1 = first := Except.ok.inj hfirst
    obtain rfl : 2 = last := Except.ok.inj hlast
    rw [← after_of_ok hpasses]
    cases hround with
    | here _ => decide +kernel
    | later _ hone hrest =>
        rw [← after_of_ok hone] at hrest
        cases hrest with
        | here _ => exact absurd hbody (by decide +kernel)
        | later _ _ hmore => exact absurd hmore.le (by decide)
  · refine hboth.2 ?_ fun hopen => nomatch hopen
    rintro v ⟨u, hround, hpasses⟩
    rw [← after_of_ok hpasses, hround.eq_of_once rfl rfl (by decide +kernel)]
    decide +kernel

/-- An open loop with a condition, which is true once. -/
def openWhileLoop : State :=
  { vars := [(some "xs", .list 0)]
    heap := { lists := #[[.int 0, .int 1]] }
    blocks := { Blocks.initial with whileLoop := ⟨true, 2, some "xs.pop()"⟩ } }

/-- In a loop that is open, a closing brace before the line ends the loop, and it does so inside the
round. What has been captured until then stands where the line stood. -/
theorem continue_hides_captured_lines :
    (∀ v, (openWhileLoop.withLines 2 (continued ["print|[1]", "\x7d"] [])).WhileReaches .empty 8
        ["print|[1]", "\x7d"] v → true ∉ v.blocks.flags) ∧
      halt? (Execution.runWhile (.ofBound .empty 8) 8)
        (openWhileLoop.withLines 2 (continued ["print|[1]", "\x7d"] [])) =
          some (.fault (.memberMissing "NoneType" "strip")) ∧
      (after (Execution.runWhile (.ofBound .empty 8) 8)
        (openWhileLoop.withLines 2 (continued ["print|[1]", "\x7d"] []))).output = "" ∧
      (after (Execution.runWhile (.ofBound .empty 8) 8)
        (openWhileLoop.withLines 2 ["print|[1]", "\x7d"])).output = "1\n" := by
  refine ⟨?_, ?_, ?_, ?_⟩
  · rintro v ⟨u, hround, hpasses⟩
    rw [← after_of_ok hpasses, hround.eq_of_once rfl rfl (by decide +kernel)]
    decide +kernel
  · decide +kernel
  · decide +kernel
  · decide +kernel

end LineScript
