namespace LineScript

/-- A table in which each key stands once; entries are in the order of their first writing. -/
abbrev Table (κ ν : Type) := List (κ × ν)

namespace Table

variable {κ ν : Type} [DecidableEq κ]

def get? (key : κ) : Table κ ν → Option ν
  | [] => none
  | entry :: rest => if entry.1 = key then some entry.2 else get? key rest

/-- Gives a key a value. A key that is there keeps its place, a new one goes to the end. -/
def set (key : κ) (value : ν) : Table κ ν → Table κ ν
  | [] => [(key, value)]
  | entry :: rest =>
      if entry.1 = key then (entry.1, value) :: rest else entry :: set key value rest

/-- Gives the keys the values, one after the other. -/
def setAll (entries : List (κ × ν)) (table : Table κ ν) : Table κ ν :=
  entries.foldl (fun table entry => set entry.1 entry.2 table) table

theorem get?_set_self (key : κ) (value : ν) (table : Table κ ν) :
    get? key (set key value table) = some value := by
  induction table with
  | nil => simp [set, get?]
  | cons entry rest ih =>
      by_cases h : entry.1 = key
      · simp [set, get?, h]
      · simp [set, get?, h, ih]

theorem get?_set_of_ne {key other : κ} (h : other ≠ key) (value : ν) (table : Table κ ν) :
    get? other (set key value table) = get? other table := by
  induction table with
  | nil => simp [set, get?, h.symm]
  | cons entry rest ih =>
      by_cases hk : entry.1 = key
      · have ho : entry.1 ≠ other := fun e => h (e.symm.trans hk)
        simp [set, get?, hk, h.symm]
      · simp [set, get?, hk, ih]

theorem get?_setAll_of_not_mem {key : κ} {entries : List (κ × ν)} (h : key ∉ entries.map Prod.fst)
    (table : Table κ ν) : get? key (setAll entries table) = get? key table := by
  induction entries generalizing table with
  | nil => rfl
  | cons entry rest ih =>
      rw [List.map_cons, List.mem_cons, not_or] at h
      rw [setAll, List.foldl_cons, ← setAll, ih h.2, get?_set_of_ne h.1]

theorem get?_setAll_append {key : κ} {rest : List (κ × ν)} (h : key ∉ rest.map Prod.fst)
    (entries : List (κ × ν)) (value : ν) (table : Table κ ν) :
    get? key (setAll (entries ++ (key, value) :: rest) table) = some value := by
  rw [setAll, List.foldl_append, List.foldl_cons, ← setAll, ← setAll, get?_setAll_of_not_mem h,
    get?_set_self]

theorem keys_set (key : κ) (value : ν) (table : Table κ ν) :
    (set key value table).map Prod.fst =
      if key ∈ table.map Prod.fst then table.map Prod.fst else table.map Prod.fst ++ [key] := by
  induction table with
  | nil => rfl
  | cons entry rest ih =>
      by_cases h : entry.1 = key
      · simp [set, h]
      · simp only [set, if_neg h, List.map_cons, ih, List.mem_cons, Ne.symm h, false_or]
        split <;> rfl

theorem nodup_keys_set {table : Table κ ν} (h : (table.map Prod.fst).Nodup) (key : κ) (value : ν) :
    ((set key value table).map Prod.fst).Nodup := by
  rw [keys_set]
  split
  · exact h
  · rename_i hkey
    refine List.nodup_append.mpr ⟨h, List.pairwise_singleton _ _, ?_⟩
    rintro other hother _ hlast rfl
    exact hkey (List.mem_singleton.mp hlast ▸ hother)

theorem nodup_keys_setAll {table : Table κ ν} (h : (table.map Prod.fst).Nodup)
    (entries : List (κ × ν)) : ((setAll entries table).map Prod.fst).Nodup := by
  induction entries generalizing table with
  | nil => exact h
  | cons entry rest ih => exact ih (nodup_keys_set h entry.1 entry.2)

theorem mem_of_get? {key : κ} {value : ν} {table : Table κ ν} (h : get? key table = some value) :
    (key, value) ∈ table := by
  induction table with
  | nil => simp [get?] at h
  | cons entry rest ih =>
      by_cases hk : entry.1 = key
      · have hv : entry.2 = value := by simpa [get?, hk] using h
        have he : entry = (key, value) := Prod.ext hk hv
        rw [he]
        exact List.mem_cons_self
      · exact List.mem_cons_of_mem _ (ih (by simpa [get?, hk] using h))

theorem mem_set {key : κ} {value : ν} {table : Table κ ν} {entry : κ × ν}
    (h : entry ∈ set key value table) : entry ∈ table ∨ entry.2 = value := by
  induction table with
  | nil =>
      have he : entry = (key, value) := by simpa [set] using h
      exact .inr (by rw [he])
  | cons first rest ih =>
      by_cases hk : first.1 = key
      · rw [set, if_pos hk] at h
        rcases List.mem_cons.mp h with rfl | h
        · exact .inr rfl
        · exact .inl (List.mem_cons_of_mem _ h)
      · rw [set, if_neg hk] at h
        rcases List.mem_cons.mp h with rfl | h
        · exact .inl List.mem_cons_self
        · exact (ih h).imp_left (List.mem_cons_of_mem _)

theorem forall_set (P : ν → Prop) {table : Table κ ν} (h : ∀ entry ∈ table, P entry.2) (key : κ)
    {value : ν} (hvalue : P value) : ∀ entry ∈ set key value table, P entry.2 := by
  intro entry hentry
  rcases mem_set hentry with hold | hnew
  · exact h entry hold
  · rw [hnew]
    exact hvalue

end Table

end LineScript
