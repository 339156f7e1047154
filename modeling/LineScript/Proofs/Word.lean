import LineScript.Proofs.Atom

namespace LineScript

namespace Text

theorem inRanges_eq_false {ranges others : List (Nat × Nat)}
    (hapart : (ranges.all fun range =>
      others.all fun other => range.2 < other.1 || other.2 < range.1) = true)
    {n : Nat} (hn : inRanges ranges n = true) : inRanges others n = false := by
  obtain ⟨range, hrange, hin⟩ := List.any_eq_true.mp hn
  apply List.any_eq_false.mpr
  intro other hother
  have hdisjoint := List.all_eq_true.mp (List.all_eq_true.mp hapart range hrange) other hother
  simp only [Bool.and_eq_true, Bool.or_eq_true, decide_eq_true_eq] at hin hdisjoint ⊢
  omega

theorem isBlank_of_isWord {c : Char} (h : isWord c = true) : isBlank c = false := by
  unfold isWord at h
  split at h
  · apply isBlank_of_isAtomic
    rw [isAtomic, h, Bool.true_or]
  · exact inRanges_eq_false (by decide +kernel) h

end Text

/-- A name as a script can write it: at least one character, and word characters only. -/
structure Word where
  text : Text
  nonempty : text ≠ []
  valid : text.all Text.isWord = true

namespace Word

variable (w : Word)

theorem isWord_of_mem {c : Char} (h : c ∈ w.text) : Text.isWord c = true :=
  List.all_eq_true.mp w.valid c h

theorem not_mem {c : Char} (h : Text.isWord c = false) : c ∉ w.text := by
  intro hmem
  rw [w.isWord_of_mem hmem] at h
  exact Bool.noConfusion h

theorem exists_cons : ∃ c rest, w.text = c :: rest ∧ Text.isWord c = true := by
  obtain ⟨c, rest, htext⟩ := List.exists_cons_of_ne_nil w.nonempty
  exact ⟨c, rest, htext, w.isWord_of_mem (by simp [htext])⟩

theorem strip_text : Text.strip w.text = w.text := by
  obtain ⟨c, rest, htext, hc⟩ := w.exists_cons
  obtain ⟨front, d, hlast⟩ : ∃ front d, w.text = front ++ [d] :=
    (List.eq_nil_or_concat' w.text).resolve_left w.nonempty
  have hd : Text.isWord d = true := w.isWord_of_mem (by simp [hlast])
  exact Text.strip_eq_self htext (Text.isBlank_of_isWord hc) hlast (Text.isBlank_of_isWord hd)

theorem takeWhile_text_append {c : Char} (hc : Text.isWord c = false) (t : Text) :
    (w.text ++ c :: t).takeWhile Text.isWord = w.text := by
  rw [List.takeWhile_append_of_pos (fun d hd => w.isWord_of_mem hd),
    List.takeWhile_cons_of_neg (by simp [hc]), List.append_nil]

theorem dropWhile_text_append {c : Char} (hc : Text.isWord c = false) (t : Text) :
    (w.text ++ c :: t).dropWhile Text.isWord = c :: t := by
  rw [List.dropWhile_append_of_pos (fun d hd => w.isWord_of_mem hd),
    List.dropWhile_cons_of_neg (by simp [hc])]

theorem dropBlanks_text_append (rest : Text) :
    Text.dropBlanks (w.text ++ rest) = w.text ++ rest := by
  obtain ⟨c, word, htext, hc⟩ := w.exists_cons
  simp [htext, Text.dropBlanks, Text.isBlank_of_isWord hc]

def bracket (opening closing : Char) (inner : Text) : Text :=
  w.text ++ opening :: (inner ++ [closing])

def call (arguments : Text) : Text := w.bracket '(' ')' arguments

def element (index : Text) : Text := w.bracket '[' ']' index

theorem strip_bracket {closing : Char} (hclosing : Text.isBlank closing = false) (opening : Char)
    (inner : Text) :
    Text.strip (w.bracket opening closing inner) = w.bracket opening closing inner := by
  obtain ⟨c, rest, htext, hc⟩ := w.exists_cons
  have hhead : w.bracket opening closing inner =
      c :: (rest ++ opening :: (inner ++ [closing])) := by
    simp [bracket, htext]
  have hlast : w.bracket opening closing inner = (w.text ++ opening :: inner) ++ [closing] := by
    simp [bracket]
  exact Text.strip_eq_self hhead (Text.isBlank_of_isWord hc) hlast hclosing

theorem strip_call (arguments : Text) : Text.strip (w.call arguments) = w.call arguments :=
  w.strip_bracket (by decide) _ _

theorem strip_element (index : Text) : Text.strip (w.element index) = w.element index :=
  w.strip_bracket (by decide) _ _

theorem endsWithChar_bracket (opening closing : Char) (inner : Text) (c : Char) :
    Text.endsWithChar c (w.bracket opening closing inner) = (closing == c) := by
  have hlast : w.bracket opening closing inner = (w.text ++ opening :: inner) ++ [closing] := by
    simp [bracket]
  rw [Text.endsWithChar, hlast, List.getLast?_concat]
  rfl

theorem bracketed?_bracket {opening closing : Char} (hword : Text.isWord opening = false)
    (hblank : Text.isBlank opening = false) (inner : Text) :
    Expression.bracketed? opening closing (w.bracket opening closing inner) =
      if '\n' ∈ inner then none else some (w.text, inner) := by
  have hblanks : Text.dropBlanks (opening :: (inner ++ [closing])) =
      opening :: (inner ++ [closing]) := by
    rw [Text.dropBlanks, List.dropWhile_cons_of_neg (by simp [hblank])]
  have hends : Text.endsWithChar closing (inner ++ [closing]) = true := by
    simp [Text.endsWithChar]
  rw [Expression.bracketed?, bracket, w.takeWhile_text_append hword, w.dropWhile_text_append hword,
    hblanks]
  by_cases hnewline : '\n' ∈ inner
  · simp [hnewline]
  · simp [hnewline, hends, w.nonempty]

theorem call?_call {arguments : Text} (h : '\n' ∉ arguments) :
    Expression.call? (w.call arguments) = some (w.text, arguments) := by
  rw [Expression.call?, call, w.bracketed?_bracket (by decide) (by decide), if_neg h]

theorem index?_element (index : Text) :
    Expression.index? (w.element index) = if '\n' ∈ index then none else some (w.text, index) :=
  w.bracketed?_bracket (by decide) (by decide) index

theorem isCall_call (arguments : Text) : Expression.isCall (w.call arguments) = true := by
  rw [Expression.isCall, call, endsWithChar_bracket]
  simp [bracket]

theorem isCall_element (index : Text) : Expression.isCall (w.element index) = false := by
  rw [Expression.isCall, element, endsWithChar_bracket]
  rfl

end Word

end LineScript
