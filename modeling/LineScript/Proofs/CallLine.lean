import LineScript.Proofs.Observer
import LineScript.Proofs.Word

/-!
Lines that are calls. Headers are looked for first, and some of them by a keyword alone. So a line
calls the function that it names unless the name starts with such a keyword: then it opens a block
or fails, and the function is not called.
-/

namespace LineScript

open Exec

namespace Text

theorem startsWith_iff {lead t : Text} : startsWith lead t = true ↔ lead <+: t := by
  simp only [startsWith, Option.isSome_iff_exists, after?_eq_some_iff]
  constructor
  · rintro ⟨rest, rfl⟩
    exact List.prefix_append lead rest
  · rintro ⟨rest, rfl⟩
    exact ⟨rest, rfl⟩

theorem after?_subset {lead t rest : Text} (h : after? lead t = some rest) : rest ⊆ t := by
  rw [after?_eq_some_iff.mp h]
  exact List.subset_append_right lead rest

theorem startsWith_append_cons {lead : Text} {c : Char} (hc : c ∉ lead) (t rest : Text) :
    startsWith lead (t ++ c :: rest) = startsWith lead t := by
  induction lead generalizing t with
  | nil => simp [startsWith, after?]
  | cons d lead ih =>
      rw [List.mem_cons, not_or] at hc
      cases t with
      | nil => simp [startsWith, after?, Ne.symm hc.1]
      | cons e t =>
          have ih := ih hc.2 t
          simp only [startsWith, List.cons_append, after?] at ih ⊢
          split
          · exact ih
          · rfl

theorem startsWith_of_not_mem {lead t : Text} {c : Char} (hlead : c ∈ lead) (ht : c ∉ t) :
    startsWith lead t = false := by
  rw [startsWith, after?_of_not_mem hlead ht, Option.isSome_none]

end Text

namespace Header

theorem digits?_subset {t digits rest : Text} (h : digits? t = some (digits, rest)) :
    rest ⊆ t := by
  unfold digits? at h
  split at h
  · simp at h
  · simp only [Option.some.injEq, Prod.mk.injEq] at h
    rw [← h.2]
    exact (List.dropWhile_suffix _).subset

theorem mem_of_opensBody {t : Text} (h : opensBody t = true) : Text.openBrace ∈ t := by
  rw [opensBody, beq_iff_eq] at h
  exact (List.dropWhile_suffix _).subset (List.mem_of_head? h)

theorem bounds?_of_not_mem {t : Text} (h : Text.openBrace ∉ t) : bounds? t = none := by
  rw [← Option.not_isSome_iff_eq_none, Option.isSome_iff_exists]
  rintro ⟨bounds, hbounds⟩
  simp only [bounds?, Option.bind_eq_bind, Option.bind_eq_some_iff] at hbounds
  obtain ⟨t₁, h₁, ⟨first, t₂⟩, h₂, t₃, h₃, ⟨last, t₄⟩, h₄, hbody⟩ := hbounds
  dsimp only at h₃ h₄ hbody
  split at hbody
  · rename_i hopens
    have hmark : (Text.after? "_CS-TINK" (Text.dropBlanks t₄)).getD (Text.dropBlanks t₄) ⊆
        Text.dropBlanks t₄ := by
      cases hafter : Text.after? "_CS-TINK" (Text.dropBlanks t₄) with
      | none => exact List.Subset.refl _
      | some rest => exact Text.after?_subset hafter
    have hblanks (u : Text) : Text.dropBlanks u ⊆ u := (List.dropWhile_suffix _).subset
    apply h
    apply hblanks
    apply Text.after?_subset h₁
    apply hblanks
    apply digits?_subset h₂
    apply Text.after?_subset h₃
    apply digits?_subset h₄
    apply hblanks
    exact hmark (mem_of_opensBody hopens)
  · simp at hbody

theorem loopVariable?_of_not_mem {word rest : Text} (hword : Text.openBrace ∉ word)
    (hrest : Text.openBrace ∉ rest) (length : Nat) : loopVariable? word rest length = none := by
  induction length with
  | zero => rfl
  | succ length ih =>
      have hnone : bounds? (word.drop (length + 1) ++ rest) = none := by
        apply bounds?_of_not_mem
        intro hmem
        rcases List.mem_append.mp hmem with hdrop | hmem
        · exact hword (List.mem_of_mem_drop hdrop)
        · exact hrest hmem
      rw [loopVariable?, hnone]
      exact ih

theorem forLoop?_of_not_mem {line : Text} (h : Text.openBrace ∉ line) : forLoop? line = none := by
  rw [← Option.not_isSome_iff_eq_none, Option.isSome_iff_exists]
  rintro ⟨loop, hloop⟩
  simp only [forLoop?, Option.bind_eq_bind, Option.bind_eq_some_iff] at hloop
  obtain ⟨t, ht, ⟨word, rest⟩, hword, hloop⟩ := hloop
  have hline : Text.dropBlanks t ⊆ line :=
    fun c hc => Text.after?_subset ht ((List.dropWhile_suffix _).subset hc)
  unfold word? at hword
  split at hword
  · simp at hword
  · simp only [Option.some.injEq, Prod.mk.injEq] at hword
    obtain ⟨rfl, rfl⟩ := hword
    dsimp only at hloop
    rw [loopVariable?_of_not_mem] at hloop
    · simp at hloop
    · intro hmem
      exact h (hline ((List.takeWhile_prefix _).subset hmem))
    · intro hmem
      exact h (hline ((List.dropWhile_suffix _).subset hmem))

end Header

/-- What a line says that calls a function of the given name. -/
def Statement.ofCall (name : Text) : Statement :=
  if Text.startsWith "Try" name then openTry
  else if Text.startsWith "Except" name then malformed .handler
  else if Text.startsWith "Now" name then openFinal
  else if Text.startsWith "entr_i" name then malformed .forLoop
  else if Text.startsWith "BILHETE_NADA" name then malformed .branch
  else call

namespace Word

variable (f : Word) {a : Text}

theorem startsWith_call {lead : Text} (h : '(' ∉ lead) (a : Text) :
    Text.startsWith lead (f.call a) = Text.startsWith lead f.text :=
  Text.startsWith_append_cons h _ _

theorem startsWith_call_of_mem {lead : Text} {c : Char} (h : '(' ∉ lead) (hc : c ∈ lead)
    (hword : Text.isWord c = false) (a : Text) : Text.startsWith lead (f.call a) = false := by
  rw [f.startsWith_call h]
  exact Text.startsWith_of_not_mem hc (f.not_mem hword)

theorem handlerName?_call (a : Text) : Header.handlerName? (f.call a) = none := by
  rw [Header.handlerName?]
  cases hafter : Text.after? "Except" (f.call a) with
  | none => rfl
  | some t =>
      have hstarts : Text.startsWith "Except" f.text = true := by
        rw [← f.startsWith_call (by decide) a, Text.startsWith, hafter]
        rfl
      obtain ⟨rest, hrest⟩ := Text.startsWith_iff.mp hstarts
      have ht : t = rest ++ '(' :: (a ++ [')']) := by
        have hcall := Text.after?_eq_some_iff.mp hafter
        rw [call, bracket, ← hrest, List.append_assoc] at hcall
        exact (List.append_cancel_left hcall).symm
      have hblanks : Header.blanks? t = none := by
        rw [ht]
        cases rest with
        | nil => rfl
        | cons c rest =>
            have hc : Text.isWord c = true := f.isWord_of_mem (by simp [← hrest])
            simp [Header.blanks?, Text.isBlank_of_isWord hc]
      simp [hblanks]

theorem condition?_call (keyword a : Text) : Statement.condition? keyword (f.call a) = none := by
  rw [Statement.condition?, call, endsWithChar_bracket]
  rfl

theorem assignment?_call (a : Text) : Statement.assignment? (f.call a) = none := by
  have hstarts : Text.startsWith "tyrt " (f.call a) = false :=
    f.startsWith_call_of_mem (c := ' ') (by decide) (by decide) (by decide) a
  rw [Text.startsWith, Option.isSome_eq_false_iff, Option.isNone_iff_eq_none] at hstarts
  rw [Statement.assignment?, hstarts]
  rfl

theorem call_ne {line : Text} (h : Text.endsWithChar ')' line = false) (a : Text) :
    f.call a ≠ line := by
  rintro rfl
  rw [call, endsWithChar_bracket] at h
  exact absurd h (by decide)

theorem ofLine_call (ha : Text.openBrace ∉ a) :
    Statement.ofLine (f.call a) = Statement.ofCall f.text := by
  have hfor : Header.forLoop? (f.call a) = none := by
    have hword : Text.openBrace ∉ f.text := f.not_mem (by decide)
    have hparens : Text.openBrace ≠ '(' ∧ Text.openBrace ≠ ')' := by decide
    apply Header.forLoop?_of_not_mem
    simp [call, bracket, ha, hword, hparens]
  have hwhile : Text.startsWith "/1" (f.call a) = false :=
    f.startsWith_call_of_mem (c := '/') (by decide) (by decide) (by decide) a
  have hclass : Text.startsWith "class " (f.call a) = false :=
    f.startsWith_call_of_mem (c := ' ') (by decide) (by decide) (by decide) a
  have hfunc : Text.startsWith "func " (f.call a) = false :=
    f.startsWith_call_of_mem (c := ' ') (by decide) (by decide) (by decide) a
  have hprint : Text.startsWith "print|[" (f.call a) = false :=
    f.startsWith_call_of_mem (c := '|') (by decide) (by decide) (by decide) a
  rw [Statement.ofLine, Statement.header?, hwhile, hclass, hfunc, f.startsWith_call (by decide),
    f.startsWith_call (by decide), f.startsWith_call (by decide), f.startsWith_call (by decide),
    f.startsWith_call (by decide), handlerName?_call, hfor, f.condition?_call "BILHETE_NADA",
    Statement.ofCall]
  -- The keywords are tried in turn, and behind each of them only the form without a body is left.
  cases Text.startsWith "Try" f.text with
  | true => rfl
  | false =>
  cases Text.startsWith "Except" f.text with
  | true => exact if_neg (f.call_ne (by decide) a)
  | false =>
  cases Text.startsWith "Now" f.text with
  | true => rfl
  | false =>
  cases Text.startsWith "entr_i" f.text with
  | true => rfl
  | false =>
  cases Text.startsWith "BILHETE_NADA" f.text with
  | true => rfl
  | false =>
      simp only [Bool.false_eq_true, if_false]
      rw [assignment?_call]
      dsimp only
      rw [if_neg (f.call_ne (by decide) a), if_neg (f.call_ne (by decide) a), hprint,
        if_neg Bool.false_ne_true, f.isCall_call, if_pos rfl]

theorem line_call {s : State} (hnone : s.blocks.openCount = 0) (hunlimited : s.allowance = none)
    (ha : Text.openBrace ∉ a) (disk : Disk) (n : Nat) :
    (Machine.ofBound disk (n + 1)).line (f.call a) none s =
      Execution.perform (.ofBound disk n) (f.call a) none (Statement.ofCall f.text) s := by
  have hstrip := f.strip_call a
  have hsilent : Statement.isSilent (Text.strip (f.call a)) = false := by
    rw [hstrip, Statement.isSilent,
      f.startsWith_call_of_mem (c := '/') (by decide) (by decide) (by decide)]
    simp [call, bracket]
  have hbrace : Text.strip (f.call a) ≠ [Text.closeBrace] := by
    rw [hstrip]
    exact f.call_ne (by decide) a
  change Execution.line _ n _ none s = _
  rw [Execution.line_of_none hsilent hbrace hnone hunlimited, hstrip, f.ofLine_call ha]

end Word

theorem Execution.callStatement_eq_ok_iff {m : Machine} {line : Text} {self : Option Address}
    {s t : State} :
    callStatement m line self s = .ok () t ↔ ∃ value, m.eval line [] self s = .ok value t := by
  cases heval : m.eval line [] self s with
  | ok value u =>
      have hbody : (do let _ ← m.eval line [] self; pure () : Exec Unit) s = .ok () u :=
        bind_of_ok heval _
      rw [callStatement, rescue_of_ok hbody]
      constructor
      · intro h
        cases h
        exact ⟨value, rfl⟩
      · rintro ⟨value, h⟩
        cases h
        rfl
  | error halt u =>
      have hbody : (do let _ ← m.eval line [] self; pure () : Exec Unit) s = .error halt u :=
        bind_of_error heval _
      constructor
      · intro h
        rw [callStatement, rescue, hbody] at h
        cases halt <;> cases h
      · rintro ⟨value, h⟩
        cases h

/-- Where no block is open, a line that is a call returns exactly if the call does, and leaves the
same state, unless the name starts with the keyword of a header. Then the function is not called:
the line opens an attempt or a final block, or fails as a malformed header. -/
theorem call_line_calls_unless_keyword {s : State} (hnone : true ∉ s.blocks.flags)
    (hunlimited : s.allowance = none) (disk : Disk) (n : Nat) (f : Word) {a : Text}
    (ha : Text.openBrace ∉ a) :
    ((∀ keyword ∈ ["Try", "Except", "Now", "entr_i", "BILHETE_NADA"],
        ¬keyword.toList <+: f.text) →
      ∀ t, (Machine.ofBound disk (n + 1)).line (f.call a) none s = .ok () t ↔
        ∃ value, (Machine.ofBound disk n).eval (f.call a) [] none s = .ok value t) ∧
    ("Try".toList <+: f.text →
      ∃ t, (Machine.ofBound disk (n + 1)).line (f.call a) none s = .ok () t ∧
        t.blocks.attempt.isOpen = true ∧ t.vars = s.vars ∧ t.heap = s.heap ∧
        t.output = s.output) ∧
    ("Now".toList <+: f.text →
      ∃ t, (Machine.ofBound disk (n + 1)).line (f.call a) none s = .ok () t ∧
        t.blocks.final.isOpen = true ∧ t.vars = s.vars ∧ t.heap = s.heap ∧ t.output = s.output) ∧
    ∀ keyword ∈ ["Except", "entr_i", "BILHETE_NADA"], keyword.toList <+: f.text →
      ∃ header, (Machine.ofBound disk (n + 1)).line (f.call a) none s =
        .error (.fault (.malformedHeader header)) s := by
  have hclosed : s.blocks.openCount = 0 := List.count_eq_zero.mpr hnone
  have hline := f.line_call hclosed hunlimited ha disk n
  refine ⟨?_, ?_, ?_, ?_⟩
  · intro hkeywords t
    have hcall : Statement.ofCall f.text = .call := by
      have hnot (keyword : String)
          (hmem : keyword ∈ ["Try", "Except", "Now", "entr_i", "BILHETE_NADA"]) :
          Text.startsWith keyword f.text = false := by
        rw [← Bool.not_eq_true, Text.startsWith_iff]
        exact hkeywords keyword hmem
      rw [Statement.ofCall, hnot "Try" (by decide), hnot "Except" (by decide),
        hnot "Now" (by decide), hnot "entr_i" (by decide), hnot "BILHETE_NADA" (by decide)]
      rfl
    rw [hline, hcall]
    exact Execution.callStatement_eq_ok_iff
  · rintro ⟨rest, hrest⟩
    rw [hline, ← hrest]
    exact ⟨_, rfl, rfl, rfl, rfl, rfl⟩
  · rintro ⟨rest, hrest⟩
    rw [hline, ← hrest]
    exact ⟨_, rfl, rfl, rfl, rfl, rfl⟩
  · intro keyword hkeyword
    simp only [List.mem_cons, List.not_mem_nil, or_false] at hkeyword
    rw [hline]
    rcases hkeyword with rfl | rfl | rfl
    · rintro ⟨rest, hrest⟩
      rw [← hrest]
      exact ⟨_, rfl⟩
    · rintro ⟨rest, hrest⟩
      rw [← hrest]
      exact ⟨_, rfl⟩
    · rintro ⟨rest, hrest⟩
      rw [← hrest]
      exact ⟨_, rfl⟩

/-- A function that prints, under two names. -/
def printers : State :=
  { functions := [(some "go", ⟨[], ["print|[1]"]⟩), (some "Trying", ⟨[], ["print|[1]"]⟩)] }

theorem call_line_calls_unless_keyword_print :
    true ∉ printers.blocks.flags ∧
      ∃ t, (Machine.ofBound .empty 5).eval "go()" [] none printers = .ok .null t ∧
        (Machine.ofBound .empty 6).line "go()" none printers = .ok () t ∧ t.output = "1\n" := by
  have hnone : true ∉ printers.blocks.flags := by decide +kernel
  have hvalue : value? ((Machine.ofBound .empty 5).eval "go()" [] none) printers = some .null := by
    decide +kernel
  have heval := eq_ok_of_value? hvalue
  refine ⟨hnone, _, heval, ?_, by decide +kernel⟩
  exact ((call_line_calls_unless_keyword hnone rfl .empty 5 ⟨"go", by decide, by decide⟩
    (a := []) (by simp)).1 (by decide) _).mpr ⟨_, heval⟩

/-- A function whose name starts with a keyword prints when it is called in an expression, and opens
an attempt when it is called by a line. -/
theorem keyword_takes_call_line :
    true ∉ printers.blocks.flags ∧
      value? ((Machine.ofBound .empty 5).eval "Trying()" [] none) printers = some .null ∧
      (after ((Machine.ofBound .empty 5).eval "Trying()" [] none) printers).output = "1\n" ∧
      value? ((Machine.ofBound .empty 6).line "Trying()" none) printers = some () ∧
      (after ((Machine.ofBound .empty 6).line "Trying()" none) printers).output = "" ∧
      (after ((Machine.ofBound .empty 6).line "Trying()" none) printers).blocks.attempt.isOpen =
        true := by
  decide +kernel

end LineScript
