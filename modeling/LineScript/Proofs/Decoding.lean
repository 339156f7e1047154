import LineScript.Text.Utf8

/-!
The reading of UTF-8 gives a text back from its bytes, read as a whole or window by window. A window
may end inside a character; its bytes so far are then carried over, so the bytes carried over are
always a proper part of the next character.
-/

namespace LineScript.Text.Utf8

def encode (t : Text) : List UInt8 := t.flatMap String.utf8EncodeChar

theorem isContinuation_iff {b : UInt8} :
    isContinuation b = true ↔ 0x80 ≤ b.toNat ∧ b.toNat < 0xc0 := by
  simp [isContinuation, UInt8.le_iff_toNat_le, UInt8.lt_iff_toNat_lt]

theorem isSecond_iff {a b : UInt8} :
    isSecond a b = true ↔ isContinuation b = true ∧ (a.toNat = 0xe0 → 0xa0 ≤ b.toNat) ∧
      (a.toNat = 0xed → b.toNat < 0xa0) ∧ (a.toNat = 0xf0 → 0x90 ≤ b.toNat) ∧
      (a.toNat = 0xf4 → b.toNat < 0x90) := by
  simp only [isSecond, UInt8.le_iff_toNat_le, UInt8.lt_iff_toNat_lt, Bool.and_eq_true,
    Bool.not_eq_true', Bool.and_eq_false_iff, beq_eq_false_iff_ne, decide_eq_false_iff_not, ne_eq,
    ← UInt8.toNat_inj, UInt8.reduceToNat, and_assoc]
  grind

/-- The bytes are those of a character: it is read from them, whatever follows, and from no fewer.
-/
structure Spells (c : Char) (a : UInt8) (bytes : List UInt8) : Prop where
  whole : ∀ rest, head a (bytes ++ rest) = .char c (bytes.length + 1)
  part : ∀ k < bytes.length, head a (bytes.take k) = .cut

section

variable {a b c d : UInt8}

theorem spells_one (ha : a.toNat < 0x80) : Spells (Char.ofNat a.toNat) a [] := by
  constructor
  · intro rest
    unfold head
    rw [if_pos (UInt8.lt_iff_toNat_lt.mpr ha)]
    rfl
  · simp

theorem spells_two (hlow : 0xc2 ≤ a.toNat) (hhigh : a.toNat < 0xe0)
    (hb : isContinuation b = true) : Spells (assemble (a.toNat - 0xc0) [b]) a [b] := by
  constructor
  · intro rest
    unfold head
    simp only [UInt8.lt_iff_toNat_lt, UInt8.reduceToNat]
    grind
  · intro k hk
    obtain rfl : k = 0 := by simpa using hk
    unfold head
    simp only [UInt8.lt_iff_toNat_lt, UInt8.reduceToNat]
    grind

theorem spells_three (hlow : 0xe0 ≤ a.toNat) (hhigh : a.toNat < 0xf0)
    (hb : isSecond a b = true) (hc : isContinuation c = true) :
    Spells (assemble (a.toNat - 0xe0) [b, c]) a [b, c] := by
  constructor
  · intro rest
    unfold head
    simp only [UInt8.lt_iff_toNat_lt, UInt8.reduceToNat]
    grind
  · intro k hk
    have hcases : k = 0 ∨ k = 1 := by
      simp only [List.length_cons, List.length_nil] at hk
      omega
    unfold head
    simp only [UInt8.lt_iff_toNat_lt, UInt8.reduceToNat]
    rcases hcases with rfl | rfl
    · grind
    · grind

theorem spells_four (hlow : 0xf0 ≤ a.toNat) (hhigh : a.toNat < 0xf5)
    (hb : isSecond a b = true) (hc : isContinuation c = true) (hd : isContinuation d = true) :
    Spells (assemble (a.toNat - 0xf0) [b, c, d]) a [b, c, d] := by
  constructor
  · intro rest
    unfold head
    simp only [UInt8.lt_iff_toNat_lt, UInt8.reduceToNat]
    grind
  · intro k hk
    have hcases : k = 0 ∨ k = 1 ∨ k = 2 := by
      simp only [List.length_cons, List.length_nil] at hk
      omega
    unfold head
    simp only [UInt8.lt_iff_toNat_lt, UInt8.reduceToNat]
    rcases hcases with rfl | rfl | rfl
    · grind
    · grind
    · grind

end

theorem toNat_ofNat_of_lt {k : Nat} (hk : k < 256) : (UInt8.ofNat k).toNat = k := by
  simp [Nat.mod_eq_of_lt hk]

theorem toNat_continuation (v : Nat) :
    (UInt8.ofNat (v % 0x40 + 0x80)).toNat = v % 0x40 + 0x80 :=
  toNat_ofNat_of_lt (by omega)

theorem spells_two_of_lt {v : Nat} (hlow : 0x80 ≤ v) (hhigh : v < 0x800) :
    Spells (Char.ofNat v) (.ofNat (v / 64 % 0x20 + 0xc0)) [.ofNat (v % 0x40 + 0x80)] := by
  have ha : (UInt8.ofNat (v / 64 % 0x20 + 0xc0)).toNat = v / 64 + 0xc0 := by
    rw [toNat_ofNat_of_lt (by omega)]
    omega
  have hb := toNat_continuation v
  have hvalue : v = (v / 64 + 0xc0 - 0xc0) * 64 + (v % 0x40 + 0x80 - 0x80) := by omega
  have hspells := spells_two (a := .ofNat (v / 64 % 0x20 + 0xc0)) (b := .ofNat (v % 0x40 + 0x80))
    (by omega) (by omega) (isContinuation_iff.mpr (by omega))
  rwa [assemble, ha, List.foldl_cons, List.foldl_nil, hb, ← hvalue] at hspells

theorem spells_three_of_lt {v : Nat} (hlow : 0x800 ≤ v) (hhigh : v < 0x10000)
    (hvalid : v < 0xd800 ∨ 0xdfff < v) :
    Spells (Char.ofNat v) (.ofNat (v / 4096 % 0x10 + 0xe0))
      [.ofNat (v / 64 % 0x40 + 0x80), .ofNat (v % 0x40 + 0x80)] := by
  have ha : (UInt8.ofNat (v / 4096 % 0x10 + 0xe0)).toNat = v / 4096 + 0xe0 := by
    rw [toNat_ofNat_of_lt (by omega)]
    omega
  have hb := toNat_continuation (v / 64)
  have hc := toNat_continuation v
  have hvalue : v = ((v / 4096 + 0xe0 - 0xe0) * 64 + (v / 64 % 0x40 + 0x80 - 0x80)) * 64 +
      (v % 0x40 + 0x80 - 0x80) := by omega
  have hspells := spells_three (a := .ofNat (v / 4096 % 0x10 + 0xe0))
    (b := .ofNat (v / 64 % 0x40 + 0x80)) (c := .ofNat (v % 0x40 + 0x80)) (by omega) (by omega)
    (isSecond_iff.mpr ⟨isContinuation_iff.mpr (by omega), by omega⟩)
    (isContinuation_iff.mpr (by omega))
  rwa [assemble, ha, List.foldl_cons, List.foldl_cons, List.foldl_nil, hb, hc, ← hvalue] at hspells

theorem spells_four_of_lt {v : Nat} (hlow : 0x10000 ≤ v) (hhigh : v < 0x110000) :
    Spells (Char.ofNat v) (.ofNat (v / 262144 % 0x08 + 0xf0))
      [.ofNat (v / 4096 % 0x40 + 0x80), .ofNat (v / 64 % 0x40 + 0x80),
        .ofNat (v % 0x40 + 0x80)] := by
  have ha : (UInt8.ofNat (v / 262144 % 0x08 + 0xf0)).toNat = v / 262144 + 0xf0 := by
    rw [toNat_ofNat_of_lt (by omega)]
    omega
  have hb := toNat_continuation (v / 4096)
  have hc := toNat_continuation (v / 64)
  have hd := toNat_continuation v
  have hvalue : v = (((v / 262144 + 0xf0 - 0xf0) * 64 + (v / 4096 % 0x40 + 0x80 - 0x80)) * 64 +
      (v / 64 % 0x40 + 0x80 - 0x80)) * 64 + (v % 0x40 + 0x80 - 0x80) := by omega
  have hspells := spells_four (a := .ofNat (v / 262144 % 0x08 + 0xf0))
    (b := .ofNat (v / 4096 % 0x40 + 0x80)) (c := .ofNat (v / 64 % 0x40 + 0x80))
    (d := .ofNat (v % 0x40 + 0x80)) (by omega) (by omega)
    (isSecond_iff.mpr ⟨isContinuation_iff.mpr (by omega), by omega⟩)
    (isContinuation_iff.mpr (by omega)) (isContinuation_iff.mpr (by omega))
  rwa [assemble, ha, List.foldl_cons, List.foldl_cons, List.foldl_cons, List.foldl_nil, hb, hc, hd,
    ← hvalue] at hspells

theorem exists_spells (c : Char) :
    ∃ a bytes, String.utf8EncodeChar c = a :: bytes ∧ Spells c a bytes := by
  have hvalid : c.val.toNat < 0xd800 ∨ 0xdfff < c.val.toNat ∧ c.val.toNat < 0x110000 := c.valid
  have hself : Char.ofNat c.val.toNat = c := Char.ofNat_toNat c
  unfold String.utf8EncodeChar
  generalize c.val.toNat = v at hvalid hself
  subst hself
  dsimp only
  split
  · have ha : (UInt8.ofNat v).toNat = v := toNat_ofNat_of_lt (by omega)
    have hspells := spells_one (a := .ofNat v) (by omega)
    rw [ha] at hspells
    exact ⟨_, _, rfl, hspells⟩
  split
  · exact ⟨_, _, rfl, spells_two_of_lt (by omega) (by omega)⟩
  split
  · exact ⟨_, _, rfl, spells_three_of_lt (by omega) (by omega) (by omega)⟩
  · exact ⟨_, _, rfl, spells_four_of_lt (by omega) (by omega)⟩

theorem encode_cons (c : Char) (t : Text) :
    encode (c :: t) = String.utf8EncodeChar c ++ encode t :=
  List.flatMap_cons

theorem length_le_length_encode (t : Text) : t.length ≤ (encode t).length := by
  induction t with
  | nil => exact Nat.le_refl _
  | cons c t ih =>
      have hpos : 0 < (String.utf8EncodeChar c).length :=
        List.length_pos_iff.mpr String.utf8EncodeChar_ne_nil
      rw [encode_cons, List.length_append, List.length_cons]
      omega

/-- The bytes are the start of a character, possibly empty, whose end is missing. -/
def IsCut (bytes : List UInt8) : Prop :=
  ∃ c k, k < (String.utf8EncodeChar c).length ∧ bytes = (String.utf8EncodeChar c).take k

theorem isCut_nil : IsCut [] :=
  ⟨'a', 0, by decide, rfl⟩

theorem head_of_isCut {a : UInt8} {rest : List UInt8} (h : IsCut (a :: rest)) :
    head a rest = .cut := by
  obtain ⟨c, k, hk, hbytes⟩ := h
  obtain ⟨first, bytes, hc, hspells⟩ := exists_spells c
  rw [hc] at hk hbytes
  cases k with
  | zero => simp at hbytes
  | succ k =>
      simp only [List.take_succ_cons, List.cons.injEq] at hbytes
      obtain ⟨rfl, rfl⟩ := hbytes
      exact hspells.part k (by simpa using hk)

theorem eq_nil_of_isCut_encode {t : Text} (h : IsCut (encode t)) : t = [] := by
  cases t with
  | nil => rfl
  | cons c t =>
      obtain ⟨a, bytes, hc, hspells⟩ := exists_spells c
      rw [encode_cons, hc] at h
      have hcut : head a (bytes ++ encode t) = .cut := head_of_isCut h
      rw [hspells.whole] at hcut
      exact absurd hcut (by simp)

theorem readFrom_of_isCut {bytes : List UInt8} (h : IsCut bytes) (fuel position : Nat) :
    readFrom true fuel position bytes = .ok ([], bytes) := by
  cases fuel with
  | zero => rfl
  | succ fuel =>
      cases bytes with
      | nil => rfl
      | cons a rest => rw [readFrom, head_of_isCut h, if_pos rfl]

theorem readFrom_encode_append {cut : List UInt8} (hcut : IsCut cut) (t : Text) {fuel : Nat}
    (hfuel : t.length ≤ fuel) (position : Nat) :
    readFrom true fuel position (encode t ++ cut) = .ok (t, cut) := by
  induction t generalizing fuel position with
  | nil => exact readFrom_of_isCut hcut fuel position
  | cons c t ih =>
      obtain ⟨a, bytes, hc, hspells⟩ := exists_spells c
      obtain ⟨fuel, rfl⟩ := Nat.exists_eq_add_of_le' (Nat.le_trans (Nat.le_add_left 1 _) hfuel)
      have hrest := ih (Nat.le_of_succ_le_succ hfuel) (position + (bytes.length + 1))
      rw [encode_cons, hc, List.cons_append, List.cons_append, List.append_assoc, readFrom,
        hspells.whole]
      dsimp only
      rw [List.drop_succ_cons, List.drop_left, hrest]
      rfl

/-- The first bytes of a text are those of a shorter text and of a character that is cut off. -/
theorem take_encode (t : Text) (n : Nat) :
    ∃ read rest cut, t = read ++ rest ∧ (encode t).take n = encode read ++ cut ∧
      encode rest = cut ++ (encode t).drop n ∧ IsCut cut := by
  induction t generalizing n with
  | nil => exact ⟨[], [], [], rfl, by simp [encode], by simp [encode], isCut_nil⟩
  | cons c t ih =>
      rw [encode_cons]
      by_cases hn : n < (String.utf8EncodeChar c).length
      · refine ⟨[], c :: t, (String.utf8EncodeChar c).take n, rfl, ?_, ?_, c, n, hn, rfl⟩
        · rw [List.take_append_of_le_length (Nat.le_of_lt hn)]
          rfl
        · rw [encode_cons, List.drop_append_of_le_length (Nat.le_of_lt hn), ← List.append_assoc,
            List.take_append_drop]
      · obtain ⟨k, rfl⟩ := Nat.exists_eq_add_of_le (Nat.le_of_not_lt hn)
        obtain ⟨read, rest, cut, rfl, htake, hrest, hcut⟩ := ih k
        refine ⟨c :: read, rest, cut, rfl, ?_, ?_, hcut⟩
        · rw [List.take_length_add_append, htake, encode_cons, List.append_assoc]
        · rw [List.drop_length_add_append, hrest]

theorem read_of_isCut {t : Text} (h : IsCut (encode t)) : read (encode t) = .ok t := by
  rw [eq_nil_of_isCut_encode h]
  rfl

theorem readWindows_eq {fuel : Nat} {left bytes : List UInt8} {t : Text}
    (ht : left ++ bytes = encode t) (hleft : IsCut left)
    (hfuel : bytes.length ≤ fuel * windowSize) :
    readWindows fuel left bytes = .ok t := by
  -- What is left over stays the start of a character, so nothing is left over at the end.
  induction fuel generalizing left bytes t with
  | zero =>
      obtain rfl : bytes = [] := List.eq_nil_of_length_eq_zero (by omega)
      rw [List.append_nil] at ht
      subst ht
      exact read_of_isCut hleft
  | succ fuel ih =>
      rw [readWindows]
      cases hempty : bytes.isEmpty with
      | true =>
          rw [List.isEmpty_iff.mp hempty, List.append_nil] at ht
          subst ht
          exact read_of_isCut hleft
      | false =>
          obtain ⟨read, rest, cut, rfl, htake, hrest, hcut⟩ :=
            take_encode t (left.length + windowSize)
          rw [← ht, List.take_length_add_append] at htake
          rw [← ht, List.drop_length_add_append] at hrest
          have hlength : (bytes.drop windowSize).length ≤ fuel * windowSize := by
            rw [List.length_drop]
            rw [Nat.succ_mul] at hfuel
            omega
          have hread : read.length ≤ (encode read ++ cut).length := by
            rw [List.length_append]
            exact Nat.le_add_right_of_le (length_le_length_encode read)
          dsimp only
          rw [if_neg Bool.false_ne_true, htake, readFrom_encode_append hcut read hread]
          change (readWindows fuel cut (bytes.drop windowSize)).bind _ = _
          rw [ih hrest.symm hcut hlength]
          rfl

theorem readByWindow_encode (t : Text) : readByWindow (encode t) = .ok t := by
  refine readWindows_eq rfl isCut_nil ?_
  have hdiv := Nat.lt_mul_div_succ (encode t).length (by decide : 0 < windowSize)
  rw [Nat.mul_comm] at hdiv
  exact Nat.le_of_lt hdiv

end LineScript.Text.Utf8
