import LineScript.View
import LineScript.Proofs.Definition

/-!
The header of a loop over integers. The name of its variable may hold the mark that follows it, and
what a reader takes for the name is the longest start of a word that leaves a header. In a header
that is written with blanks, that is the whole name.
-/

namespace LineScript

open Exec

theorem Text.isBlank_of_isDigit {c : Char} (h : isDigit c = true) : isBlank c = false := by
  by_cases hdigit : c.isDigit = true
  · exact isBlank_of_isAtomic (isAtomic_of_isDigit hdigit)
  · -- Beyond ASCII a digit is one of the ten that start with a zero.
    have hfound : (zeroDigits.find? fun first =>
        first ≤ c.toNat && c.toNat < first + 10).isSome = true := by
      unfold isDigit digitValue? at h
      dsimp only at h
      split at h
      · exact Bool.noConfusion h
      · rwa [Option.isSome_map] at h
    obtain ⟨first, hfirst, hten⟩ := List.find?_isSome.mp hfound
    have hrange : inRanges (zeroDigits.map fun first => (first, first + 9)) c.toNat = true := by
      apply List.any_eq_true.mpr
      refine ⟨(first, first + 9), List.mem_map_of_mem hfirst, ?_⟩
      simp only [Bool.and_eq_true, decide_eq_true_eq] at hten ⊢
      omega
    exact inRanges_eq_false (by decide +kernel) hrange

/-- A bound of a loop as a script can write it: at least one character, and digits only. -/
structure Digits where
  text : Text
  nonempty : text ≠ []
  valid : text.all Text.isDigit = true

namespace Digits

variable (d : Digits)

theorem isDigit_of_mem {c : Char} (h : c ∈ d.text) : Text.isDigit c = true :=
  List.all_eq_true.mp d.valid c h

theorem exists_cons : ∃ c rest, d.text = c :: rest ∧ Text.isDigit c = true := by
  obtain ⟨c, rest, htext⟩ := List.exists_cons_of_ne_nil d.nonempty
  exact ⟨c, rest, htext, d.isDigit_of_mem (by simp [htext])⟩

theorem dropBlanks_text_append (rest : Text) :
    Text.dropBlanks (d.text ++ rest) = d.text ++ rest := by
  obtain ⟨c, digits, htext, hc⟩ := d.exists_cons
  simp [htext, Text.dropBlanks, Text.isBlank_of_isDigit hc]

theorem digits?_text_append {c : Char} (hc : Text.isDigit c = false) (t : Text) :
    Header.digits? (d.text ++ c :: t) = some (d.text, c :: t) := by
  have hmem : ∀ a ∈ d.text, Text.isDigit a = true := fun a ha => d.isDigit_of_mem ha
  have htake : (d.text ++ c :: t).takeWhile Text.isDigit = d.text := by
    rw [List.takeWhile_append_of_pos hmem, List.takeWhile_cons_of_neg (by simp [hc]),
      List.append_nil]
  have hdrop : (d.text ++ c :: t).dropWhile Text.isDigit = c :: t := by
    rw [List.dropWhile_append_of_pos hmem, List.dropWhile_cons_of_neg (by simp [hc])]
  obtain ⟨a, digits, htext, -⟩ := d.exists_cons
  rw [Header.digits?, htake, hdrop, htext]

end Digits

/-- What stands between the bounds of a loop and its body. -/
def loopMark (isMarked : Bool) : Text := if isMarked then " _CS-TINK " else " "

def loopBounds (first last : Digits) (isMarked : Bool) (rest : Text) : Text :=
  (" ty " : Text) ++
    (first.text ++ ':' :: (last.text ++ (loopMark isMarked ++ Text.openBrace :: rest)))

def loopHeader (w : Word) (first last : Digits) (isMarked : Bool) (rest : Text) : Text :=
  ("entr_i " : Text) ++ (w.text ++ loopBounds first last isMarked rest)

section

variable (w : Word) (first last : Digits) (isMarked : Bool) (rest : Text)

theorem bounds?_loopBounds :
    Header.bounds? (loopBounds first last isMarked rest) = some (first.text, last.text) := by
  change (Header.digits? (Text.dropBlanks (first.text ++ _))).bind _ = _
  rw [first.dropBlanks_text_append, first.digits?_text_append (by decide)]
  change (Header.digits? (last.text ++ (loopMark isMarked ++ Text.openBrace :: rest))).bind _ = _
  cases isMarked with
  | true =>
      change (Header.digits? (last.text ++ ' ' :: _)).bind _ = _
      rw [last.digits?_text_append (by decide)]
      rfl
  | false =>
      change (Header.digits? (last.text ++ ' ' :: Text.openBrace :: rest)).bind _ = _
      rw [last.digits?_text_append (by decide)]
      rfl

theorem forLoop?_loopHeader :
    Header.forLoop? (loopHeader w first last isMarked rest) =
      some (w.text, first.text, last.text) := by
  have hword : Header.word? (w.text ++ loopBounds first last isMarked rest) =
      some (w.text, loopBounds first last isMarked rest) :=
    Header.word?_append w (by decide) _
  obtain ⟨k, hk⟩ : ∃ k, w.text.length = k + 1 :=
    Nat.exists_eq_succ_of_ne_zero (mt List.length_eq_zero_iff.mp w.nonempty)
  change (Header.word? (Text.dropBlanks (w.text ++ _))).bind _ = _
  rw [w.dropBlanks_text_append, hword]
  -- The whole word is tried first, and leaves the bounds.
  change Header.loopVariable? w.text (loopBounds first last isMarked rest) w.text.length = _
  rw [hk, Header.loopVariable?, ← hk, List.drop_length, List.nil_append, bounds?_loopBounds,
    List.take_length]

theorem ofLine_loopHeader :
    Statement.ofLine (loopHeader w first last isMarked rest) =
      .openFor w.text first.text last.text := by
  have hheader : Statement.header? (loopHeader w first last isMarked rest) =
      some (.openFor w.text first.text last.text) := by
    change some _ = _
    rw [forLoop?_loopHeader]
  rw [Statement.ofLine, hheader]

theorem strip_loopHeader :
    Text.strip (loopHeader w first last isMarked rest) =
      loopHeader w first last isMarked (Text.stripEnd Text.isBlank rest) := by
  let between : Text := w.text ++ ((" ty " : Text) ++
    (first.text ++ ':' :: (last.text ++ loopMark isMarked)))
  have hsplit (behind : Text) : loopHeader w first last isMarked behind =
      ("entr_i " : Text) ++ (between ++ Text.openBrace :: behind) := by
    change ("entr_i " : Text) ++ (w.text ++ ((" ty " : Text) ++ (first.text ++ ':' ::
      (last.text ++ (loopMark isMarked ++ Text.openBrace :: behind))))) = _
    simp only [between, List.append_assoc, List.cons_append]
  have hlead : Text.strip ("entr_i " : Text) ≠ [] :=
    Text.strip_ne_nil (c := 'e') (by decide) (by decide)
  have hbrace : Text.strip (Text.openBrace :: rest) ≠ [] :=
    Text.strip_ne_nil List.mem_cons_self (by decide)
  rw [hsplit, hsplit, Text.strip_append hlead hbrace, Text.stripEnd_cons_of_not (by decide)]
  rfl

end

/-- The state in which a loop over integers has just been opened, with everything else as it was. -/
def State.openLoop (s : State) (name first last : Text) : State :=
  { s with
    bodies := s.bodies.push #[]
    blocks :=
      { s.blocks with forLoop := ⟨true, s.bodies.size, some name, some first, some last⟩ } }

theorem State.body_push (s : State) (id : BodyId) :
    ((s.bodies.push #[])[id]?.getD #[]) = s.body id := by
  rw [State.body, Array.getElem?_push]
  split
  · rename_i hid
    rw [hid, Array.getElem?_eq_none (Nat.le_refl _)]
    rfl
  · rfl

theorem State.view_openLoop (s : State) (name first last : Text) :
    (s.openLoop name first last).view =
      { s.view with
        blocks :=
          { s.view.blocks with forLoop := ⟨true, [], some name, some first, some last⟩ } } := by
  have hbody (id : BodyId) : (s.openLoop name first last).body id = s.body id := s.body_push id
  have hfresh : s.body s.bodies.size = #[] := by
    rw [State.body, Array.getElem?_eq_none (Nat.le_refl _)]
    rfl
  have hblocks : (s.openLoop name first last).blocks.map
      (fun id => ((s.openLoop name first last).body id).toList) =
      { s.view.blocks with forLoop := ⟨true, [], some name, some first, some last⟩ } := by
    simp only [hbody]
    change ({ (s.blocks.map fun id => (s.body id).toList) with
      forLoop := ⟨true, (s.body s.bodies.size).toList, _, _, _⟩ } : Blocks (List Text)) = _
    rw [hfresh]
    rfl
  unfold State.view at hblocks ⊢
  rw [hblocks]
  rfl

/-- Where no block is open, the header of a loop over integers opens it with the name and the bounds
that are written there and with an empty body, whatever stands behind the brace, and changes nothing
else. -/
theorem loop_header_is_read_back (disk : Disk) (n : Nat) {s : State}
    (hnone : true ∉ s.blocks.flags) (hunlimited : s.allowance = none) (w : Word)
    (first last : Digits) (isMarked : Bool) (rest : Text) (self : Option Address) :
    (Machine.ofBound disk (n + 1)).line (loopHeader w first last isMarked rest) self s =
        .ok () (s.openLoop w.text first.text last.text) ∧
      (s.openLoop w.text first.text last.text).view =
        { s.view with
          blocks :=
            { s.view.blocks with
              forLoop := ⟨true, [], some w.text, some first.text, some last.text⟩ } } := by
  have hsilent :
      Statement.isSilent (Text.strip (loopHeader w first last isMarked rest)) = false := by
    rw [strip_loopHeader]
    rfl
  have hbrace : Text.strip (loopHeader w first last isMarked rest) ≠ [Text.closeBrace] := by
    rw [strip_loopHeader]
    apply ne_of_apply_ne List.head?
    change some 'e' ≠ some Text.closeBrace
    decide
  refine ⟨?_, s.view_openLoop _ _ _⟩
  change Execution.line _ n _ self s = _
  rw [Execution.line_of_none hsilent hbrace (List.count_eq_zero.mpr hnone) hunlimited,
    strip_loopHeader, ofLine_loopHeader]
  rfl

/-- The name of the variable ends as the mark does that follows it, and the bounds start with
zeros. -/
theorem loop_header_is_read_back_ty :
    true ∉ State.initial.blocks.flags ∧ State.initial.allowance = none ∧
      (Machine.ofBound .empty 1).line "entr_i 7ty ty 007:0012 _CS-TINK \x7b ty 1:2 \x7b  " none
          State.initial =
        .ok () (State.initial.openLoop "7ty" "007" "0012") := by
  have hnone : true ∉ State.initial.blocks.flags := by decide
  have hline := (loop_header_is_read_back .empty 0 hnone rfl ⟨"7ty", by decide, by decide⟩
    ⟨"007", by decide, by decide⟩ ⟨"0012", by decide, by decide⟩ true " ty 1:2 \x7b  " none).1
  exact ⟨hnone, rfl, hline⟩

end LineScript
