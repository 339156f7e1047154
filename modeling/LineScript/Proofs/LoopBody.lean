import LineScript.Proofs.CallChain
import LineScript.Proofs.Variant

namespace LineScript

open Exec

namespace Execution

/-- Whether a loop goes on after the lines of its body. -/
def goesOn (x : Exec Value) : Exec Bool :=
  rescue (do let _ ← leavingBlock x; pure true) fun cause =>
    match cause with
    | .loopBreak => pure false
    | .loopContinue => pure true
    | cause => fail cause

theorem goesOn_congr {x y : Exec Value} {s t : State} (h : x s = y t) :
    goesOn x s = goesOn y t :=
  rescue_eq_of_eq (bind_eq_of_eq (leavingBlock_congr h) _) _

theorem runRound_eq {s : State} (hunlimited : s.allowance = none) (m : Machine) (bound : Nat)
    (id : BodyId) : runRound m bound id s = goesOn (runBodyFrom m id bound 0) s :=
  rescue_eq_of_eq (bind_eq_of_eq (runBody_of_unlimited hunlimited id) _) _

theorem runBodyFrom_of_returned {m : Machine} {id : BodyId} {s : State} {position : Nat}
    {line source : Text} (hline : (s.body id)[position]? = some line)
    (hreturned : returned? line = some source) (bound : Nat) :
    runBodyFrom m id (bound + 1) position s = m.eval source s.vars none s := by
  rw [runBodyFrom, get_bind, hline]
  dsimp only
  rw [hreturned]
  rfl

theorem runBodyFrom_of_line {m : Machine} {id : BodyId} {s : State} {position : Nat}
    {line : Text} (hline : (s.body id)[position]? = some line) (hreturned : returned? line = none)
    (bound : Nat) :
    runBodyFrom m id (bound + 1) position s =
      (do m.line line none; runBodyFrom m id bound (position + 1) : Exec Value) s := by
  rw [runBodyFrom, get_bind, hline]
  dsimp only
  rw [hreturned]

theorem runBodyFrom_of_end {m : Machine} {id : BodyId} {s : State} {position : Nat}
    (hend : (s.body id)[position]? = none) (bound : Nat) :
    runBodyFrom m id (bound + 1) position s = .ok .null s := by
  rw [runBodyFrom, get_bind, hend]
  rfl

theorem exists_of_runFor_ok {m : Machine} {bound : Nat} {s v : State}
    (h : runFor m bound s = .ok () v) :
    ∃ first last u, boundOf s.blocks.forLoop.first = .ok first ∧
      boundOf s.blocks.forLoop.last = .ok last ∧ forRounds m bound bound first last s = .ok () u ∧
      v.blocks.forLoop.body = u.bodies.size := by
  rw [runFor, get_bind] at h
  dsimp only at h
  cases hfirst : boundOf s.blocks.forLoop.first with
  | error cause =>
      rw [hfirst] at h
      cases h
  | ok first =>
      cases hlast : boundOf s.blocks.forLoop.last with
      | error cause =>
          rw [hfirst, hlast] at h
          cases h
      | ok last =>
          rw [hfirst, hlast, bind_of_ok (rfl : ofExcept (.ok first) s = .ok first s),
            bind_of_ok (rfl : ofExcept (.ok last) s = .ok last s)] at h
          obtain ⟨_, u, hrounds, hnew⟩ := exists_of_bind_ok h
          cases hnew
          exact ⟨first, last, u, rfl, rfl, hrounds, rfl⟩

end Execution

theorem Exec.Matches.goesOn {c : Comparison} {x y : Exec Value} {s t : State}
    (h : Matches c (x s) (y t)) :
    Matches c (Execution.goesOn x s) (Execution.goesOn y t) := by
  refine (h.leavingBlock.bind fun _ => Alike.pure true).rescue fun cause => ?_
  split
  · exact Alike.pure false
  · exact Alike.pure true
  · exact Alike.fail _

theorem Exec.Matches.goesOn_bind {c : Comparison} {α : Type} {x y : Exec α} {f g : α → Exec Value}
    {s t : State} (hx : Matches c (x s) (y t))
    (hf : ∀ a s' t', x s = .ok a s' → c.rel s' t' →
      Matches c (Execution.goesOn (f a) s') (Execution.goesOn (g a) t')) :
    Matches c (Execution.goesOn (x >>= f) s) (Execution.goesOn (y >>= g) t) := by
  generalize ho : x s = o at hx
  generalize hp : y t = p at hx
  cases hx with
  | ok a h =>
      rw [Execution.goesOn_congr (Exec.bind_of_ok ho f),
        Execution.goesOn_congr (Exec.bind_of_ok hp g)]
      exact hf a _ _ ho h
  | error halt h =>
      apply Matches.goesOn
      rw [Exec.bind_of_error ho, Exec.bind_of_error hp]
      exact .error halt h
  | cut s' _ h =>
      apply Matches.goesOn
      rw [Exec.bind_of_error ho]
      exact .cut s' _ h

theorem getElem?_of_prefix {body : Array Text} {first rest : List Text} {line : Text}
    (h : first ++ line :: rest <+: body.toList) : body[first.length]? = some line := by
  obtain ⟨behind, hbehind⟩ := h
  rw [← Array.getElem?_toList, ← hbehind, List.append_assoc, List.getElem?_append_right (by simp)]
  simp

namespace Comparison

variable {id : BodyId} {lead : List Text} {known : Circumstance} {m m' : Machine}

theorem goesOn_lead (hm : m.RunsAlike (beside id lead known) m') (first : List Text)
    {rest : List Text} (hlead : lead = first ++ rest) {s t : State}
    (h : (beside id lead known).rel s t)
    (hend : ∀ v v', Execution.passes m rest s = .ok true v → (beside id lead known).rel v v' →
      ∀ bound, Matches (beside id lead known)
        (Execution.goesOn (Execution.runBodyFrom m id bound lead.length) v)
        (Execution.goesOn (Execution.runBodyFrom m' id bound lead.length) v')) (bound : Nat) :
    Matches (beside id lead known)
      (Execution.goesOn (Execution.runBodyFrom m id bound first.length) s)
      (Execution.goesOn (Execution.runBodyFrom m' id bound first.length) t) := by
  induction rest generalizing first s t bound with
  | nil =>
      rw [List.append_nil] at hlead
      rw [← hlead]
      exact hend s t rfl h bound
  | cons line rest ih =>
      obtain ⟨bodies, -, hbodies, -⟩ := h.1
      have hline : (s.body id)[first.length]? = some line := by
        apply getElem?_of_prefix
        rw [← hlead]
        exact hbodies.lead_left
      have hline' : (t.body id)[first.length]? = some line := by
        obtain ⟨⟨bodies, rfl, hbodies, -⟩, -⟩ := h
        apply getElem?_of_prefix
        rw [← hlead]
        exact hbodies.lead_right
      cases bound with
      | zero => exact Matches.goesOn (.error _ h)
      | succ bound =>
          cases hreturned : Execution.returned? line with
          | some source =>
              apply Matches.goesOn
              rw [Execution.runBodyFrom_of_returned hline hreturned,
                Execution.runBodyFrom_of_returned hline' hreturned,
                keptByStatements_variants.vars_eq h]
              exact hm.eval source _ none trivial h
          | none =>
              rw [Execution.goesOn_congr (Execution.runBodyFrom_of_line hline hreturned bound),
                Execution.goesOn_congr (Execution.runBodyFrom_of_line hline' hreturned bound)]
              refine (hm.line line none trivial trivial h).goesOn_bind fun _ u u' hok hu => ?_
              have hnext : lead = (first ++ [line]) ++ rest := by rw [hlead]; simp
              rw [show first.length + 1 = (first ++ [line]).length by simp]
              refine ih (first ++ [line]) hnext hu (fun v v' hpasses => hend v v' ?_) bound
              rw [Execution.passes, hreturned]
              exact (bind_of_ok hok _).trans hpasses

theorem runRound_lead (hm : m.RunsAlike (beside id lead known) m') {s t : State}
    (h : (beside id lead known).rel s t)
    (hend : ∀ v v', Execution.passes m lead s = .ok true v → (beside id lead known).rel v v' →
      ∀ bound, Matches (beside id lead known)
        (Execution.goesOn (Execution.runBodyFrom m id bound lead.length) v)
        (Execution.goesOn (Execution.runBodyFrom m' id bound lead.length) v')) (bound : Nat) :
    Matches (beside id lead known) (Execution.runRound m bound id s)
      (Execution.runRound m' bound id t) := by
  have hfree : t.allowance = none := by
    rw [← keptByStatements_variants.allowance_eq h]
    exact h.2.2
  rw [Execution.runRound_eq h.2.2, Execution.runRound_eq hfree]
  exact goesOn_lead hm [] rfl h hend bound

theorem forRounds_beside {bound rounds : Nat} {i last : Int} {s t : State}
    (h : (beside id lead known).rel s t)
    (hround : ∀ u u', ForRound m bound last i s u → (beside id lead known).rel u u' →
      Matches (beside id lead known) (Execution.runRound m bound u.blocks.forLoop.body u)
        (Execution.runRound m' bound u.blocks.forLoop.body u')) :
    Matches (beside id lead known) (Execution.forRounds m bound rounds i last s)
      (Execution.forRounds m' bound rounds i last t) := by
  refine matches_forRounds startRound_variants (.inl rfl) h fun u u' hu hrel => ?_
  rw [← variants_blocks_eq hrel]
  exact hround u u' hu hrel

section

variable {bound : Nat} {s t : State} (h : (beside id lead known).rel s t)
  (hrounds : ∀ first last, Execution.boundOf s.blocks.forLoop.first = .ok first →
    Execution.boundOf s.blocks.forLoop.last = .ok last →
    Matches (beside id lead known) (Execution.forRounds m bound bound first last s)
      (Execution.forRounds m' bound bound first last t))

include h hrounds

theorem runFor_beside (hknown : known.Kept id)
    (hend : ∀ ⦃b s t j⦄, known b s t → j ≠ id → known { b with forLoop.body := j } s t) :
    Matches (beside id lead known) (Execution.runFor m bound s) (Execution.runFor m' bound t) := by
  rw [Execution.runFor, Execution.runFor, get_bind, get_bind, ← variants_blocks_eq h]
  dsimp only
  cases hfirst : Execution.boundOf s.blocks.forLoop.first with
  | error cause => exact .error _ h
  | ok first =>
      cases hlast : Execution.boundOf s.blocks.forLoop.last with
      | error cause => exact .error _ h
      | ok last =>
          refine (hrounds first last hfirst hlast).bind fun _ u u' hu => ?_
          exact openWith_beside hknown hu fun fresh others hfresh hk => hend hk hfresh

omit h in
theorem forLoop_body_ne {v : State} (hok : Execution.runFor m bound s = .ok () v) :
    v.blocks.forLoop.body ≠ id := by
  obtain ⟨first, last, u, hfirst, hlast, hrun, hbody⟩ := Execution.exists_of_runFor_ok hok
  obtain ⟨_, -, hu⟩ := (hrounds first last hfirst hlast).exists_of_ok hrun
  obtain ⟨bodies, -, hbodies, -⟩ := hu.1
  rw [hbody]
  exact hbodies.size_ne

end

section

variable {bound : Nat} {s t : State} (h : (beside id lead known).rel s t)
  (hrounds : Matches (beside id lead known)
    (Execution.whileRounds m bound s.blocks.whileLoop.body bound s)
    (Execution.whileRounds m' bound s.blocks.whileLoop.body bound t))

include h hrounds

theorem runWhile_beside (hknown : known.Kept id)
    (hend : ∀ ⦃b s t j⦄, known b s t → j ≠ id →
      known { b with whileLoop.condition := none, whileLoop.body := j } s t) :
    Matches (beside id lead known) (Execution.runWhile m bound s)
      (Execution.runWhile m' bound t) := by
  rw [Execution.runWhile, Execution.runWhile, get_bind, get_bind, ← variants_blocks_eq h]
  refine hrounds.bind fun _ u u' hu => ?_
  exact openWith_beside hknown hu fun fresh others hfresh hk => hend hk hfresh

omit h in
theorem whileLoop_body_ne {v : State} (hok : Execution.runWhile m bound s = .ok () v) :
    v.blocks.whileLoop.body ≠ id := by
  rw [Execution.runWhile, get_bind] at hok
  obtain ⟨_, u, hrun, hnew⟩ := exists_of_bind_ok hok
  obtain ⟨_, -, hu⟩ := hrounds.exists_of_ok hrun
  obtain ⟨bodies, -, hbodies, -⟩ := hu.1
  cases hnew
  exact hbodies.size_ne

end

theorem whileRounds_beside (hm : m.EvaluatesAlike (beside id lead known) m') {bound rounds : Nat}
    {j : BodyId} {s t : State} (h : (beside id lead known).rel s t)
    (hround : ∀ u u', WhileRound m bound j s u → (beside id lead known).rel u u' →
      Matches (beside id lead known) (Execution.runRound m bound j u)
        (Execution.runRound m' bound j u')) :
    Matches (beside id lead known) (Execution.whileRounds m bound j rounds s)
      (Execution.whileRounds m' bound j rounds t) :=
  matches_whileRounds variants_blocks_eq (keptByStatements_variants.loopCondition hm) (.inl rfl) h
    hround

end Comparison

/-!
Lines of which one returns a value: the body may be run anywhere, by loops only.
-/

/-- No block but a loop has the body. -/
def Circumstance.apart (id : BodyId) (notFor notWhile : Prop) : Circumstance :=
  fun b _ _ => b.Apart id notFor notWhile

theorem Circumstance.kept_apart (id : BodyId) (notFor notWhile : Prop) :
    (Circumstance.apart id notFor notWhile).Kept id where
  apart h := { h with forLoop := False.elim, whileLoop := False.elim }
  push h := h
  append _ h _ := h
  change h h' hfor hwhile :=
    { h' with
      forLoop := by rw [hfor]; exact h.forLoop
      whileLoop := by rw [hwhile]; exact h.whileLoop }
  openFor h _ hne := { h with forLoop := fun _ => hne }
  openWhile h _ hne := { h with whileLoop := fun _ => hne }

namespace Comparison

variable {id : BodyId} {lead : List Text} {known : Circumstance} {m m' : Machine}

theorem runRound_of_returned (hm : m.RunsAlike (beside id lead known) m')
    (hreturned : ∃ line ∈ lead, Execution.returned? line ≠ none) (bound : Nat) (j : BodyId) :
    Alike (beside id lead known) (Execution.runRound m bound j)
      (Execution.runRound m' bound j) := by
  intro s t h
  by_cases hj : j = id
  · subst hj
    refine runRound_lead hm h (fun v v' hpasses => ?_) bound
    exact absurd hpasses (Execution.not_passes_of_returned hreturned s v)
  · exact (runsBody_beside hm hj bound).runRound h

theorem goesOver_of_returned (id : BodyId)
    (hreturned : ∃ line ∈ lead, Execution.returned? line ≠ none) (notFor notWhile : Prop)
    (disk : Disk) :
    (beside id lead (.apart id notFor notWhile)).GoesOver disk := by
  have hkept := Circumstance.kept_apart id notFor notWhile
  intro m m' bound hm
  have hround := runRound_of_returned hm hreturned bound
  refine ⟨hm.evaluates_next keptByStatements_variants.toKeptByRoutines disk bound bound, ?_⟩
  intro source self _ _
  refine line_beside hkept hm ?_ ?_ source self
  · intro s t h _ _ _ _
    refine (runFor_beside h ?_ hkept ?_).bind fun _ => ?_
    · intro first last _ _
      exact forRounds_beside h fun u u' _ hu => hround _ hu
    · intro b _ _ j hk hj
      exact { hk with forLoop := fun _ => hj }
    · exact modifyBlocks_beside _ fun b _ _ hk => { hk with }
  · intro s t h _ _
    refine (runWhile_beside h ?_ hkept ?_).bind fun _ => ?_
    · exact whileRounds_beside hm.toEvaluatesAlike h fun u u' _ hu => hround _ hu
    · intro b _ _ j hk hj
      exact { hk with whileLoop := fun _ => hj }
    · exact modifyBlocks_beside _ fun b _ _ hk => { hk with }

end Comparison

/-!
A loop that is not open: its body is not captured into, and no other loop runs it.
-/

/-- No open block has the body, and its two variants are given. -/
structure Circumstance.Unread (id : BodyId) (notFor notWhile : Prop) (left right : Array Text)
    (b : Blocks BodyId) (s t : Array (Array Text)) : Prop where
  apart : b.Apart id notFor notWhile
  forLoop : b.forLoop.isOpen = true → b.forLoop.body ≠ id
  whileLoop : b.whileLoop.isOpen = true → b.whileLoop.body ≠ id
  left : s[id]? = some left
  right : t[id]? = some right

theorem getElem?_push_of_some {bodies : Array (Array Text)} {id : BodyId} {body : Array Text}
    (h : bodies[id]? = some body) : (bodies.push #[])[id]? = some body := by
  obtain ⟨hlt, -⟩ := Array.getElem?_eq_some_iff.mp h
  rw [Array.getElem?_push, if_neg (Nat.ne_of_lt hlt), h]

theorem Circumstance.Unread.openBody?_ne {id j : BodyId} {notFor notWhile : Prop}
    {left right : Array Text} {b : Blocks BodyId} {s t : Array (Array Text)}
    (h : Unread id notFor notWhile left right b s t) (hopen : b.openBody? = some j) : j ≠ id := by
  have hloop := h.apart
  rw [Blocks.openBody?] at hopen
  grind [Blocks.Apart, Circumstance.Unread]

theorem Circumstance.kept_unread (id : BodyId) (notFor notWhile : Prop) (left right : Array Text) :
    Circumstance.Kept (Unread id notFor notWhile left right) id where
  apart h := { h.apart with forLoop := False.elim, whileLoop := False.elim }
  push h :=
    { h with left := getElem?_push_of_some h.left, right := getElem?_push_of_some h.right }
  append line h hopen := by
    have hne := h.openBody?_ne hopen
    exact { h with
      left := by rw [Array.getElem?_modify, if_neg hne, h.left]
      right := by rw [Array.getElem?_modify, if_neg hne, h.right] }
  change h h' hfor hwhile :=
    { h with
      apart :=
        { h' with
          forLoop := by rw [hfor]; exact h.apart.forLoop
          whileLoop := by rw [hwhile]; exact h.apart.whileLoop }
      forLoop := by rw [hfor]; exact h.forLoop
      whileLoop := by rw [hwhile]; exact h.whileLoop }
  openFor h _ hne :=
    { h with apart := { h.apart with forLoop := fun _ => hne }, forLoop := fun _ => hne }
  openWhile h _ hne :=
    { h with apart := { h.apart with whileLoop := fun _ => hne }, whileLoop := fun _ => hne }

namespace Comparison

variable {id : BodyId} {lead : List Text} {notFor notWhile : Prop} {left right : Array Text}

theorem unread_next {m m' : Machine}
    (hm : m.RunsAlike (beside id lead (.Unread id notFor notWhile left right)) m')
    (hinner : m.RunsAlike (beside id lead (.Unread id True notWhile left right)) m')
    (disk : Disk) (bound : Nat) :
    (Machine.next disk m bound).RunsAlike (beside id lead (.Unread id notFor notWhile left right))
      (Machine.next disk m' bound) := by
  have hkept := Circumstance.kept_unread id notFor notWhile left right
  refine ⟨hm.evaluates_next keptByStatements_variants.toKeptByRoutines disk bound bound, ?_⟩
  intro source self _ _
  refine line_beside hkept hm ?_ ?_ source self
  · intro s t h _ _ _ hopen
    refine (runFor_beside h ?_ hkept ?_).bind fun _ => ?_
    · intro first last _ _
      have hother : (beside id lead (.Unread id True notWhile left right)).rel s t := by
        obtain ⟨⟨bodies, rfl, hbodies, hk⟩, hs⟩ := h
        have hne := hk.forLoop hopen
        exact ⟨⟨bodies, rfl, hbodies,
          { hk with apart := { hk.apart with forLoop := fun _ => hne } }⟩, hs⟩
      refine (forRounds_beside hother fun u u' _ hu => ?_).mono (beside_of_variants ?_) False.elim
      · obtain ⟨_, -, -, hk⟩ := hu.1
        exact (runsBody_beside hinner (hk.apart.forLoop trivial) bound).runRound hu
      · intro b _ _ hk
        exact { hk with apart := { hk.apart with forLoop := fun _ => hk.apart.forLoop trivial } }
    · intro b _ _ j hk hj
      exact { hk with apart := { hk.apart with forLoop := fun _ => hj }, forLoop := fun _ => hj }
    · refine modifyBlocks_beside _ fun b _ _ hk => ?_
      exact { hk with apart := { hk.apart with }, forLoop := fun hopen => nomatch hopen }
  · intro s t h _ hopen
    obtain ⟨_, -, -, hk⟩ := h.1
    have hround := (runsBody_beside hm (hk.whileLoop hopen) bound).runRound
    refine (runWhile_beside h ?_ hkept ?_).bind fun _ => ?_
    · exact whileRounds_beside hm.toEvaluatesAlike h fun u u' _ hu => hround hu
    · intro b _ _ j hk hj
      exact { hk with
        apart := { hk.apart with whileLoop := fun _ => hj }, whileLoop := fun _ => hj }
    · refine modifyBlocks_beside _ fun b _ _ hk => ?_
      exact { hk with apart := { hk.apart with }, whileLoop := fun hopen => nomatch hopen }

theorem runsAlike_unread (notFor : Prop) (disk : Disk) (n : Nat) :
    (Machine.ofBound disk n).RunsAlike (beside id lead (.Unread id notFor notWhile left right))
      (Machine.ofBound disk n) := by
  have hinner (k : Nat) : (Machine.ofBound disk k).RunsAlike
      (beside id lead (.Unread id True notWhile left right)) (Machine.ofBound disk k) :=
    Machine.ofBound_runsAlike_self (fun bound hm => unread_next hm hm disk bound) k
  induction n with
  | zero => exact Machine.idle_runsAlike
  | succ n ih => exact unread_next ih (hinner n) disk n

end Comparison

end LineScript
