import LineScript.Text.Digit
import LineScript.Text.Blank

/-!
Integers and their decimal texts. Neither direction goes beyond 4300 digits.
-/

namespace LineScript.Numeral

open Text

/-- The greatest number of digits that is read or written. -/
def digitLimit : Nat := 4300

/-- Whether a character may stand around a numeral: a blank that is no ASCII record separator. -/
def isPadding (c : Char) : Bool := isBlank c && !(0x1c ≤ c.toNat && c.toNat ≤ 0x1f)

/-- What a digit with `width` digits after it counts for. -/
def weight : (width : Nat) → Nat
  | 0 => 1
  | width + 1 => 10 * weight width

/-- How many digits are read or written at a time. -/
def groupWidth : Nat := 18

/-- What the digit before a group counts for. -/
def groupWeight : Nat := 1000000000000000000

/-- Reads the digits that follow a number. The number is `high * scale + low`, where `scale` is a
power of ten; the digits go to `low` until a group is full, so that the great number is seldom
multiplied. -/
def readDigits : (high low scale : Nat) → Text → Nat
  | high, low, scale, [] => high * scale + low
  | high, low, scale, c :: rest =>
      let digit := (digitValue? c).getD 0
      if scale = groupWeight then readDigits (high * scale + low) digit 10 rest
      else readDigits high (low * 10 + digit) (scale * 10) rest

theorem readDigits_eq (high low scale : Nat) (digits : Text) :
    readDigits high low scale digits =
      digits.foldl (fun n c => n * 10 + (digitValue? c).getD 0) (high * scale + low) := by
  induction digits generalizing high low scale with
  | nil => rfl
  | cons c rest ih =>
      rw [readDigits, List.foldl_cons]
      split
      · rw [ih]
      · rw [ih, Nat.add_mul, Nat.mul_assoc, Nat.add_assoc]

def ofDigits (digits : Text) : Nat := readDigits 0 0 1 digits

theorem ofDigits_eq (digits : Text) :
    ofDigits digits = digits.foldl (fun n c => n * 10 + (digitValue? c).getD 0) 0 := by
  rw [ofDigits, readDigits_eq]

/-- What reading a text as an integer gives. -/
inductive Reading where
  | value (i : Int)
  /-- The text has too many digits. -/
  | tooLong (digits : Nat)
  /-- The text is no numeral. -/
  | invalid
  deriving DecidableEq, Repr

/-- The sign at the start of a text, as whether it is a minus, and what follows it. -/
def splitSign : Text → Bool × Text
  | '+' :: t => (false, t)
  | '-' :: t => (true, t)
  | t => (false, t)

/-- Reads a numeral: padding, a sign or none, digits with single underscores between them, padding.
The digits are counted before the end of the text is looked at. -/
def read (t : Text) : Reading :=
  let (negative, t) := splitSign (t.dropWhile isPadding)
  let groups := splitAll '_' (t.takeWhile fun c => isDigit c || c == '_')
  let rest := t.dropWhile fun c => isDigit c || c == '_'
  let digits := groups.flatten
  if groups.any (·.isEmpty) then .invalid
  else if digitLimit < digits.length then .tooLong digits.length
  else if rest.all isPadding then
    .value (if negative then -(ofDigits digits : Int) else ofDigits digits)
  else .invalid

/-- Whether a text is an integer literal: digits after a minus or none. -/
def isLiteral : Text → Bool
  | '-' :: t => !t.isEmpty && t.all isDigit
  | t => !t.isEmpty && t.all isDigit

/-- The last `width` digits of a number, before `after`. -/
def lastDigits : (width n : Nat) → (after : Text) → Text
  | 0, _, after => after
  | width + 1, n, after => lastDigits width (n / 10) (Nat.digitChar (n % 10) :: after)

/-- The decimal digits of a number, before `after`. Whole groups of digits are cut off at the end,
at most as many as `groups`. -/
def digitsBefore : (groups n : Nat) → (after : Text) → Text
  | 0, n, after => Nat.toDigits 10 n ++ after
  | groups + 1, n, after =>
      if n < groupWeight then Nat.toDigits 10 n ++ after
      else digitsBefore groups (n / groupWeight) (lastDigits groupWidth (n % groupWeight) after)

theorem weight_pos (width : Nat) : 0 < weight width := by
  induction width with
  | zero => decide
  | succ width ih => rw [weight]; omega

theorem toDigits_append_lastDigits (width high low : Nat) (after : Text) (h : 0 < high)
    (hlow : low < weight width) :
    Nat.toDigits 10 high ++ lastDigits width low after =
      Nat.toDigits 10 (high * weight width + low) ++ after := by
  induction width generalizing low after with
  | zero =>
      have : low = 0 := by rw [weight] at hlow; omega
      simp [lastDigits, weight, this]
  | succ width ih =>
      have hdiv : low / 10 < weight width := by
        rw [weight] at hlow
        omega
      have hpos : 0 < high * weight width + low / 10 :=
        Nat.add_pos_left (Nat.mul_pos h (weight_pos width)) _
      have hsum : high * weight (width + 1) + low =
          10 * (high * weight width + low / 10) + low % 10 := by
        rw [weight, Nat.mul_left_comm]
        omega
      rw [lastDigits, ih (low / 10) _ hdiv, hsum,
        ← Nat.toDigits_append_toDigits (by decide) hpos (Nat.mod_lt low (by decide)),
        Nat.toDigits_of_lt_base (Nat.mod_lt low (by decide))]
      simp

theorem digitsBefore_eq (groups n : Nat) (after : Text) :
    digitsBefore groups n after = Nat.toDigits 10 n ++ after := by
  induction groups generalizing n after with
  | zero => rfl
  | succ groups ih =>
      rw [digitsBefore]
      split
      · rfl
      · rename_i h
        have hweight : weight groupWidth = groupWeight := by decide
        have hpos : 0 < n / groupWeight := Nat.div_pos (Nat.le_of_not_lt h) (by decide)
        have hmod : n % groupWeight < weight groupWidth := Nat.mod_lt n (by decide)
        rw [ih, toDigits_append_lastDigits groupWidth _ _ after hpos hmod, hweight,
          Nat.div_add_mod']

def digits (n : Nat) : Text := digitsBefore (Nat.log2 n) n []

theorem digits_eq (n : Nat) : digits n = Nat.toDigits 10 n := by
  rw [digits, digitsBefore_eq, List.append_nil]

/-- The decimal text of a number with the given digits. -/
def signed (i : Int) (digits : Text) : Text := if i < 0 then '-' :: digits else digits

/-- The decimal text of an integer, of any length. -/
def write (i : Int) : Text := signed i (digits i.natAbs)

/-- The decimal text of an integer, if it is not too long. -/
def write? (i : Int) : Option Text :=
  let digits := digits i.natAbs
  if digitLimit < digits.length then none else some (signed i digits)

end LineScript.Numeral
