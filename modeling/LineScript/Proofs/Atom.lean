import Mathlib.Data.List.Basic
import Mathlib.Data.Nat.Digits.Defs
import LineScript.Collection
import LineScript.Proofs.Cutting
import LineScript.Proofs.Stripping

namespace LineScript

namespace Text

theorem range_of_isDigit {c : Char} (h : c.isDigit = true) : 48 ≤ c.toNat ∧ c.toNat ≤ 57 := by
  simp only [Char.isDigit, Bool.and_eq_true, decide_eq_true_eq, ge_iff_le,
    UInt32.le_iff_toNat_le] at h
  exact h

theorem range_of_isAlpha {c : Char} (h : c.isAlpha = true) : 65 ≤ c.toNat ∧ c.toNat ≤ 122 := by
  change (decide (65 ≤ c.val ∧ c.val ≤ 90) ||
    decide (97 ≤ c.val) && decide (c.val ≤ 122)) = true at h
  simp only [Bool.or_eq_true, Bool.and_eq_true, decide_eq_true_eq, UInt32.le_iff_toNat_le] at h
  change 65 ≤ c.toNat ∧ c.toNat ≤ 90 ∨ 97 ≤ c.toNat ∧ c.toNat ≤ 122 at h
  omega

def isAtomic (c : Char) : Bool := c.isAlphanum || c == '_' || c == '-'

theorem isBlank_of_isAtomic {c : Char} (h : isAtomic c = true) : isBlank c = false := by
  have hrange : 45 ≤ c.toNat ∧ c.toNat ≤ 122 := by
    simp only [isAtomic, Char.isAlphanum, Bool.or_eq_true, beq_iff_eq] at h
    rcases h with ((h | h) | rfl) | rfl
    · have := range_of_isAlpha h
      omega
    · have := range_of_isDigit h
      omega
    · decide
    · decide
  simp only [isBlank, inRanges, List.any_cons, List.any_nil, Bool.or_eq_false_iff,
    Bool.and_eq_false_iff, decide_eq_false_iff_not, and_true]
  omega

theorem digitValue?_of_isDigit {c : Char} (h : c.isDigit = true) :
    digitValue? c = some (c.toNat - '0'.toNat) := by
  have hlt : c.toNat < 0x80 := by
    have := range_of_isDigit h
    omega
  simp only [digitValue?, hlt, if_true, h]
  rfl

theorem isDigit_of_isDigit {c : Char} (h : c.isDigit = true) : isDigit c = true := by
  rw [isDigit, digitValue?_of_isDigit h, Option.isSome_some]

theorem isAtomic_of_isDigit {c : Char} (h : c.isDigit = true) : isAtomic c = true := by
  simp [isAtomic, Char.isAlphanum, h]

theorem ne_of_isAtomic {c d : Char} (hc : isAtomic c = true) (hd : isAtomic d = false) : c ≠ d := by
  rintro rfl
  simp [hc] at hd

/-- Whether a text is a letter or an underscore, and then letters, underscores and digits. -/
def isIdentifier : Text → Bool
  | [] => false
  | c :: rest => (c.isAlpha || c == '_') && rest.all fun c => c.isAlphanum || c == '_'

end Text

structure Identifier where
  text : Text
  valid : text.isIdentifier = true
  deriving DecidableEq

/-- An integer as it is written in a script: ASCII digits after a minus or none. -/
structure Literal where
  isNegative : Bool
  digits : Text
  nonempty : digits ≠ []
  valid : digits.all Char.isDigit = true
  short : digits.length ≤ 4300
  deriving DecidableEq

namespace Literal

def text (l : Literal) : Text := if l.isNegative then '-' :: l.digits else l.digits

def value (l : Literal) : Int :=
  let n : Nat := Nat.ofDigits 10 (l.digits.reverse.map fun c => c.toNat - '0'.toNat)
  if l.isNegative then -n else n

theorem ofDigits_eq (l : Literal) :
    Numeral.ofDigits l.digits =
      Nat.ofDigits 10 (l.digits.reverse.map fun c => c.toNat - '0'.toNat) := by
  rw [Numeral.ofDigits_eq, Nat.ofDigits_eq_foldr, List.map_reverse, List.foldr_reverse,
    List.foldl_map]
  refine List.foldl_ext _ _ _ fun n c hc => ?_
  rw [Text.digitValue?_of_isDigit (List.all_eq_true.mp l.valid c hc)]
  simp
  omega

theorem read_digits (l : Literal) :
    Text.splitAll '_' (l.digits.takeWhile fun c => Text.isDigit c || c == '_') = [l.digits] ∧
      (l.digits.dropWhile fun c => Text.isDigit c || c == '_') = [] := by
  have hdigit : ∀ c ∈ l.digits, (Text.isDigit c || c == '_') = true := fun c hc => by
    rw [Text.isDigit_of_isDigit (List.all_eq_true.mp l.valid c hc), Bool.true_or]
  have hunderscore : '_' ∉ l.digits := fun hmem => by
    have := List.all_eq_true.mp l.valid '_' hmem
    simp at this
  rw [List.takeWhile_eq_self_iff.mpr hdigit, Text.splitAll_of_not_mem hunderscore]
  exact ⟨rfl, List.dropWhile_eq_nil_iff.mpr hdigit⟩

theorem splitSign_text (l : Literal) :
    Numeral.splitSign (l.text.dropWhile Numeral.isPadding) = (l.isNegative, l.digits) := by
  cases hneg : l.isNegative with
  | true =>
      have hminus : Numeral.isPadding '-' = false := by decide
      rw [text, hneg, if_pos rfl, List.dropWhile_cons_of_neg (by simp [hminus])]
      rfl
  | false =>
      obtain ⟨c, rest, hdigits⟩ := List.exists_cons_of_ne_nil l.nonempty
      have hc : c.isDigit = true := List.all_eq_true.mp l.valid c (by simp [hdigits])
      have hpadding : Numeral.isPadding c = false := by
        rw [Numeral.isPadding, Text.isBlank_of_isAtomic (Text.isAtomic_of_isDigit hc),
          Bool.false_and]
      have hplus : c ≠ '+' := by rintro rfl; simp at hc
      have hminus : c ≠ '-' := by rintro rfl; simp at hc
      rw [text, hneg, if_neg Bool.false_ne_true, hdigits,
        List.dropWhile_cons_of_neg (by simp [hpadding])]
      unfold Numeral.splitSign
      split <;> simp_all

theorem read_text (l : Literal) : Numeral.read l.text = .value l.value := by
  -- The digits are one group without underscores, and nothing follows them.
  obtain ⟨hgroups, hrest⟩ := l.read_digits
  have hempty : l.digits.isEmpty = false := by simpa using l.nonempty
  have hshort : ¬Numeral.digitLimit < l.digits.length := Nat.not_lt.mpr l.short
  rw [Numeral.read, splitSign_text]
  dsimp only
  rw [hgroups, hrest]
  simp [hempty, hshort, ofDigits_eq, value]

theorem isLiteral_text (l : Literal) : Numeral.isLiteral l.text = true := by
  have hdigits : (!l.digits.isEmpty && l.digits.all Text.isDigit) = true := by
    have hall : l.digits.all Text.isDigit = true :=
      List.all_eq_true.mpr fun c hc =>
        Text.isDigit_of_isDigit (List.all_eq_true.mp l.valid c hc)
    simp [hall, l.nonempty]
  cases hneg : l.isNegative with
  | true =>
      rw [text, hneg, if_pos rfl]
      exact hdigits
  | false =>
      rw [text, hneg, if_neg Bool.false_ne_true]
      unfold Numeral.isLiteral
      split
      · rename_i t ht
        have := List.all_eq_true.mp l.valid '-' (by simp [ht])
        simp at this
      · exact hdigits

theorem isAtomic_of_mem (l : Literal) {c : Char} (h : c ∈ l.text) : Text.isAtomic c = true := by
  have hdigit (hc : c ∈ l.digits) : Text.isAtomic c = true :=
    Text.isAtomic_of_isDigit (List.all_eq_true.mp l.valid c hc)
  rw [text] at h
  split at h
  · rcases List.mem_cons.mp h with rfl | hc
    · decide
    · exact hdigit hc
  · exact hdigit h

end Literal

namespace Identifier

theorem isAtomic_of_mem (x : Identifier) {c : Char} (h : c ∈ x.text) : Text.isAtomic c = true := by
  have hvalid := x.valid
  cases htext : x.text with
  | nil => simp [htext] at h
  | cons d rest =>
      simp only [htext, Text.isIdentifier, Bool.and_eq_true, Bool.or_eq_true, beq_iff_eq,
        List.all_eq_true] at hvalid
      rw [htext, List.mem_cons] at h
      rcases h with rfl | h
      · rcases hvalid.1 with hc | rfl
        · simp [Text.isAtomic, Char.isAlphanum, hc]
        · decide
      · rcases hvalid.2 c h with hc | rfl
        · simp [Text.isAtomic, hc]
        · decide

theorem exists_cons (x : Identifier) :
    ∃ c rest, x.text = c :: rest ∧ (c.isAlpha = true ∨ c = '_') := by
  have hvalid := x.valid
  cases htext : x.text with
  | nil => simp [htext, Text.isIdentifier] at hvalid
  | cons c rest =>
      simp only [htext, Text.isIdentifier, Bool.and_eq_true, Bool.or_eq_true, beq_iff_eq] at hvalid
      exact ⟨c, rest, rfl, hvalid.1⟩

theorem isLiteral_text (x : Identifier) : Numeral.isLiteral x.text = false := by
  obtain ⟨c, rest, htext, hc⟩ := x.exists_cons
  have hrange : 65 ≤ c.toNat ∧ c.toNat ≤ 122 := by
    rcases hc with hc | rfl
    · exact Text.range_of_isAlpha hc
    · decide
  have hdigit : Text.isDigit c = false := by
    have hlt : c.toNat < 0x80 := by omega
    have hnot : c.isDigit = false := by
      rw [Bool.eq_false_iff]
      intro h
      have := Text.range_of_isDigit h
      omega
    simp [Text.isDigit, Text.digitValue?, hlt, hnot]
  have hminus : c ≠ '-' := by
    rintro rfl
    simp at hc
  rw [htext]
  unfold Numeral.isLiteral
  split
  · simp_all
  · simp [hdigit]

theorem isQuoted_text (x : Identifier) : Expression.isQuoted x.text = false := by
  obtain ⟨c, rest, htext, hc⟩ := x.exists_cons
  have hquote : c ≠ '"' := by
    rintro rfl
    simp at hc
  rw [htext]
  unfold Expression.isQuoted
  split
  · simp_all
  · rfl

end Identifier

inductive Atom where
  | name (x : Identifier)
  | literal (l : Literal)
  deriving DecidableEq

namespace Atom

def text : Atom → Text
  | name x => x.text
  | literal l => l.text

theorem isAtomic_of_mem {a : Atom} {c : Char} (h : c ∈ a.text) : Text.isAtomic c = true := by
  cases a with
  | name x => exact x.isAtomic_of_mem h
  | literal l => exact l.isAtomic_of_mem h

theorem text_ne_nil (a : Atom) : a.text ≠ [] := by
  cases a with
  | name x =>
      obtain ⟨c, rest, htext, _⟩ := x.exists_cons
      simp [text, htext]
  | literal l =>
      change l.text ≠ []
      rw [Literal.text]
      split
      · simp
      · exact l.nonempty

end Atom

end LineScript
