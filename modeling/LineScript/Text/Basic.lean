/-!
Texts are lists of characters. This module holds the ways a text is cut: at its start, at the first
or last place where a mark stands, and at every separator.
-/

namespace LineScript

/-- A line, an expression or a name, as the characters it is written with. -/
abbrev Text := List Char

instance : Coe String Text := ⟨String.toList⟩

namespace Text

def join (parts : List Text) : Text := parts.flatten

def joinWith (sep : Text) (parts : List Text) : Text := sep.intercalate parts

def openBrace : Char := '\x7b'

def closeBrace : Char := '\x7d'

/-- What follows `lead` in a text that starts with it. -/
def after? : Text → Text → Option Text
  | [], t => some t
  | _ :: _, [] => none
  | c :: lead, d :: t => if c = d then after? lead t else none

theorem after?_eq_some_iff {lead t rest : Text} : after? lead t = some rest ↔ t = lead ++ rest := by
  induction lead generalizing t with
  | nil => simp [after?]
  | cons c lead ih =>
      cases t with
      | nil => simp [after?]
      | cons d t =>
          by_cases h : c = d
          · simp [after?, h, ih]
          · simp [after?, h, Ne.symm h]

def startsWith (lead t : Text) : Bool := (after? lead t).isSome

def endsWithChar (c : Char) (t : Text) : Bool := t.getLast? == some c

/-- The parts before and after the first place where `mark` stands. -/
def cutFirst? (mark : Text) : Text → Option (Text × Text)
  | [] => (after? mark []).map fun rest => ([], rest)
  | c :: t =>
      match after? mark (c :: t) with
      | some rest => some ([], rest)
      | none => (cutFirst? mark t).map fun parts => (c :: parts.1, parts.2)

theorem eq_of_cutFirst? {mark t before rest : Text} (h : cutFirst? mark t = some (before, rest)) :
    t = before ++ mark ++ rest := by
  induction t generalizing before with
  | nil =>
      simp only [cutFirst?, Option.map_eq_some_iff, Prod.mk.injEq] at h
      obtain ⟨_, ha, rfl, rfl⟩ := h
      simpa using after?_eq_some_iff.mp ha
  | cons c t ih =>
      rw [cutFirst?] at h
      split at h
      · rename_i found ha
        simp only [Option.some.injEq, Prod.mk.injEq] at h
        obtain ⟨rfl, rfl⟩ := h
        simpa using after?_eq_some_iff.mp ha
      · simp only [Option.map_eq_some_iff, Prod.mk.injEq] at h
        obtain ⟨parts, hp, rfl, rfl⟩ := h
        simpa using ih hp

/-- The last place where the character `c` stands. Places are counted from `place`; `found` is the
last one before. -/
def lastPlace? (c : Char) : (place : Nat) → (found : Option Nat) → Text → Option Nat
  | _, found, [] => found
  | place, found, d :: t => lastPlace? c (place + 1) (if d = c then some place else found) t

theorem eq_of_lastPlace? {c : Char} {place n : Nat} {found : Option Nat} {t : Text}
    (h : lastPlace? c place found t = some n) :
    (found = some n ∧ c ∉ t) ∨
      ∃ before rest, t = before ++ c :: rest ∧ c ∉ rest ∧ n = place + before.length := by
  induction t generalizing place found with
  | nil => exact Or.inl ⟨h, by simp⟩
  | cons d t ih =>
      rcases ih h with ⟨hf, hc⟩ | ⟨before, rest, rfl, hc, hn⟩
      · by_cases hd : d = c
        · rw [if_pos hd, Option.some.injEq] at hf
          exact Or.inr ⟨[], t, by rw [hd]; rfl, hc, by simp [hf]⟩
        · rw [if_neg hd] at hf
          exact Or.inl ⟨hf, by simp [Ne.symm hd, hc]⟩
      · exact Or.inr ⟨d :: before, rest, rfl, hc, by rw [hn, List.length_cons]; omega⟩

def cutLast? (c : Char) (t : Text) : Option (Text × Text) :=
  (lastPlace? c 0 none t).map fun n => (t.take n, t.drop (n + 1))

theorem eq_of_cutLast? {c : Char} {t before rest : Text}
    (h : cutLast? c t = some (before, rest)) : t = before ++ c :: rest ∧ c ∉ rest := by
  obtain ⟨n, hn, hparts⟩ := Option.map_eq_some_iff.mp h
  rcases eq_of_lastPlace? hn with ⟨hf, _⟩ | ⟨start, tail, rfl, hc, rfl⟩
  · simp at hf
  · simp only [Nat.zero_add, Prod.mk.injEq] at hparts
    obtain ⟨rfl, rfl⟩ := hparts
    simpa using hc

/-- The parts of a text between separators. There is one part more than there are separators, so
the empty text has one empty part. -/
def splitAll (sep : Char) : Text → List Text
  | [] => [[]]
  | c :: t =>
      if c = sep then [] :: splitAll sep t
      else
        match splitAll sep t with
        | [] => [[c]]
        | part :: parts => (c :: part) :: parts

theorem splitAll_ne_nil (sep : Char) (t : Text) : splitAll sep t ≠ [] := by
  cases t with
  | nil => simp [splitAll]
  | cons c t =>
      rw [splitAll]
      split
      · simp
      · split <;> simp

theorem joinWith_splitAll (sep : Char) (t : Text) : joinWith [sep] (splitAll sep t) = t := by
  induction t with
  | nil => simp [splitAll, joinWith]
  | cons c t ih =>
      obtain ⟨part, parts, hp⟩ := List.exists_cons_of_ne_nil (splitAll_ne_nil sep t)
      rw [splitAll]
      rw [hp] at ih ⊢
      by_cases h : c = sep
      · rw [← ih, h]
        simp [joinWith, List.intercalate]
      · rw [← ih]
        cases parts <;> simp [joinWith, List.intercalate, h]

/-- The lines of a text, each with the newline that ends it. A text that ends with a newline has no
empty line after it. -/
def linesKept : Text → List Text
  | [] => []
  | c :: t =>
      if c = '\n' then [c] :: linesKept t
      else
        match linesKept t with
        | [] => [[c]]
        | line :: lines => (c :: line) :: lines

theorem join_linesKept (t : Text) : join (linesKept t) = t := by
  induction t with
  | nil => rfl
  | cons c t ih =>
      rw [join] at ih ⊢
      by_cases h : c = '\n'
      · simp [linesKept, h, ih]
      · cases hl : linesKept t with
        | nil =>
            simp only [hl, List.flatten_nil] at ih
            simp [linesKept, h, hl, ih]
        | cons line lines =>
            simp only [hl, List.flatten_cons] at ih
            simp [linesKept, h, hl, ih]

/-- A carriage return, alone or before a newline, counts as one newline. -/
def unifyNewlines : Text → Text
  | [] => []
  | '\r' :: '\n' :: t => '\n' :: unifyNewlines t
  | c :: t => (if c = '\r' then '\n' else c) :: unifyNewlines t

def stripEnd (p : Char → Bool) (t : Text) : Text :=
  if t.getLast?.any p then (t.reverse.dropWhile p).reverse else t

theorem stripEnd_eq (p : Char → Bool) (t : Text) :
    stripEnd p t = (t.reverse.dropWhile p).reverse := by
  rw [stripEnd]
  split
  · rfl
  · rename_i h
    rw [List.getLast?_eq_head?_reverse] at h
    cases hr : t.reverse with
    | nil => simpa using hr
    | cons c rest =>
        have hc : p c = false := by simpa [hr] using h
        have := congrArg List.reverse hr
        simpa [hc] using this

def stripBoth (p : Char → Bool) (t : Text) : Text := stripEnd p (t.dropWhile p)

/-- Whether the number lies in one of the ranges, ends included. -/
def inRanges (ranges : List (Nat × Nat)) (n : Nat) : Bool :=
  ranges.any fun range => range.1 ≤ n && n ≤ range.2

end Text

end LineScript
