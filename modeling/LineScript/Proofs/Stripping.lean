import Mathlib.Data.List.TakeWhile
import LineScript.Text.Blank

namespace LineScript.Text

theorem stripEnd_append {p : Char → Bool} {trail : Text} (htrail : ∀ c ∈ trail, p c = true)
    (t : Text) : stripEnd p (t ++ trail) = stripEnd p t := by
  have hreverse : ∀ c ∈ trail.reverse, p c = true := by simpa using htrail
  rw [stripEnd_eq, stripEnd_eq, List.reverse_append, List.dropWhile_append_of_pos hreverse]

theorem stripEnd_append_of_ne_nil {p : Char → Bool} {t : Text} (h : stripEnd p t ≠ [])
    (front : Text) : stripEnd p (front ++ t) = front ++ stripEnd p t := by
  rw [stripEnd_eq] at h
  have hkeep : (t.reverse.dropWhile p).isEmpty = false := by simpa using h
  rw [stripEnd_eq, stripEnd_eq, List.reverse_append, List.dropWhile_append, hkeep]
  simp

theorem stripEnd_cons_of_not {p : Char → Bool} {d : Char} (hd : p d = false) (t : Text) :
    stripEnd p (d :: t) = d :: stripEnd p t := by
  simp only [stripEnd_eq, List.reverse_cons, List.dropWhile_append]
  split
  · rename_i hempty
    simp [List.isEmpty_iff.mp hempty, hd]
  · simp

theorem stripEnd_eq_nil_iff {p : Char → Bool} {t : Text} :
    stripEnd p t = [] ↔ ∀ c ∈ t, p c = true := by
  rw [stripEnd_eq, List.reverse_eq_nil_iff, List.dropWhile_eq_nil_iff]
  simp

theorem stripEnd_eq_self {p : Char → Bool} {t : Text} (h : ∀ c ∈ t, p c = false) :
    stripEnd p t = t := by
  rw [stripEnd, if_neg]
  rw [Bool.not_eq_true]
  cases hlast : t.getLast? with
  | none => rfl
  | some c => exact h c (List.mem_of_getLast? hlast)

theorem strip_append_left {lead : Text} (hlead : ∀ c ∈ lead, isBlank c = true) (t : Text) :
    strip (lead ++ t) = strip t := by
  rw [strip, strip, stripBoth, stripBoth, List.dropWhile_append_of_pos hlead]

theorem strip_append_right {trail : Text} (htrail : ∀ c ∈ trail, isBlank c = true) (t : Text) :
    strip (t ++ trail) = strip t := by
  have hnone : trail.dropWhile isBlank = [] := List.dropWhile_eq_nil_iff.mpr htrail
  rw [strip, strip, stripBoth, stripBoth, List.dropWhile_append]
  split
  · rename_i hempty
    rw [List.isEmpty_iff.mp hempty, hnone]
  · exact stripEnd_append htrail _

theorem strip_eq_nil_iff {t : Text} : strip t = [] ↔ ∀ c ∈ t, isBlank c = true := by
  constructor
  · intro h
    have hdrop := stripEnd_eq_nil_iff.mp h
    intro c hc
    rw [← List.takeWhile_append_dropWhile (p := isBlank) (l := t), List.mem_append] at hc
    rcases hc with hlead | hrest
    · exact List.mem_takeWhile_imp hlead
    · exact hdrop c hrest
  · intro h
    rw [strip, stripBoth, List.dropWhile_eq_nil_iff.mpr h]
    rfl

theorem strip_ne_nil {t : Text} {c : Char} (hmem : c ∈ t) (hc : isBlank c = false) :
    strip t ≠ [] := by
  rw [ne_eq, strip_eq_nil_iff]
  intro hblank
  rw [hblank c hmem] at hc
  exact Bool.noConfusion hc

theorem strip_dropBlanks (t : Text) : strip (dropBlanks t) = strip t := by
  have hlead : ∀ c ∈ t.takeWhile isBlank, isBlank c = true := fun c hc =>
    List.mem_takeWhile_imp hc
  have h := strip_append_left hlead (dropBlanks t)
  rwa [dropBlanks, List.takeWhile_append_dropWhile, eq_comm] at h

theorem strip_stripEnd (t : Text) : strip (stripEnd isBlank t) = strip t := by
  have htrail : ∀ c ∈ (t.reverse.takeWhile isBlank).reverse, isBlank c = true := fun c hc =>
    List.mem_takeWhile_imp (List.mem_reverse.mp hc)
  have h := strip_append_right htrail (stripEnd isBlank t)
  rwa [stripEnd_eq, ← List.reverse_append, List.takeWhile_append_dropWhile, List.reverse_reverse,
    ← stripEnd_eq, eq_comm] at h

theorem strip_append {first rest : Text} (hfirst : strip first ≠ []) (hrest : strip rest ≠ [])
    (between : Text) :
    strip (first ++ (between ++ rest)) =
      dropBlanks first ++ (between ++ stripEnd isBlank rest) := by
  have hlead : (first.dropWhile isBlank).isEmpty = false := by
    rw [List.isEmpty_eq_false_iff, ne_eq, List.dropWhile_eq_nil_iff]
    exact mt strip_eq_nil_iff.mpr hfirst
  have htrail : stripEnd isBlank rest ≠ [] := by
    rw [ne_eq, stripEnd_eq_nil_iff]
    exact mt strip_eq_nil_iff.mpr hrest
  rw [strip, stripBoth, List.dropWhile_append, hlead, if_neg Bool.false_ne_true,
    ← List.append_assoc, stripEnd_append_of_ne_nil htrail, List.append_assoc]
  rfl

theorem strip_append_singleton {d : Char} (hd : isBlank d = false) (t : Text) :
    strip (t ++ [d]) = dropBlanks t ++ [d] := by
  have hdrop : dropBlanks (t ++ [d]) = dropBlanks t ++ [d] := by
    rw [dropBlanks, List.dropWhile_append]
    split
    · rename_i hempty
      simp [dropBlanks, List.isEmpty_iff.mp hempty, hd]
    · rfl
  have hlast : stripEnd isBlank [d] = [d] := by simp [stripEnd, hd]
  rw [strip, stripBoth, ← dropBlanks, hdrop, stripEnd_append_of_ne_nil (by simp [hlast]), hlast]

theorem exists_eq_append_strip (t : Text) :
    ∃ lead trail, t = lead ++ (strip t ++ trail) ∧ ∀ c ∈ lead, isBlank c = true := by
  refine ⟨t.takeWhile isBlank, ((t.dropWhile isBlank).reverse.takeWhile isBlank).reverse, ?_, ?_⟩
  · rw [strip, stripBoth, stripEnd_eq, ← List.reverse_append, List.takeWhile_append_dropWhile,
      List.reverse_reverse, List.takeWhile_append_dropWhile]
  · intro c hc
    exact List.mem_takeWhile_imp hc

theorem strip_eq_self {t front rest : Text} {c d : Char} (hhead : t = c :: rest)
    (hc : isBlank c = false) (hlast : t = front ++ [d]) (hd : isBlank d = false) : strip t = t := by
  have hstart : t.dropWhile isBlank = t := by simp [hhead, hc]
  have hend : t.getLast? = some d := by rw [hlast, List.getLast?_concat]
  rw [strip, stripBoth, hstart, stripEnd, hend]
  simp [hd]

end LineScript.Text
