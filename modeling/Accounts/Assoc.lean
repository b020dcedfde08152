/-!
# Association lists

Pairs of a key and a value in the order in which the keys first came, each key once.
-/

namespace Accounts.Assoc

/-! ## Algorithm -/

/-- Give a key a value: a key that is there keeps its place. -/
def set [DecidableEq κ] (key : κ) (value : α) : List (κ × α) → List (κ × α)
  | [] => [(key, value)]
  | p :: ps => if p.1 = key then (key, value) :: ps else p :: set key value ps

/-- The value of a key. -/
def get? [DecidableEq κ] (key : κ) (pairs : List (κ × α)) : Option α :=
  (pairs.find? (·.1 = key)).map (·.2)

/-- The pairs in an order of setting, the last value of each key. -/
def ofPairs [DecidableEq κ] (pairs : List (κ × α)) : List (κ × α) :=
  pairs.foldl (fun acc p => set p.1 p.2 acc) []

/-! ## Lemmas -/

theorem get?_set_self [DecidableEq κ] (key : κ) (value : α) (ps : List (κ × α)) :
    get? key (set key value ps) = some value := by
  induction ps with
  | nil => simp [set, get?]
  | cons p ps ih =>
    by_cases h : p.1 = key
    · simp [set, get?, h]
    · simpa [set, get?, h] using ih

theorem get?_set_of_ne [DecidableEq κ] {key other : κ} (value : α) (h : other ≠ key)
    (ps : List (κ × α)) : get? other (set key value ps) = get? other ps := by
  induction ps with
  | nil => simp [set, get?, h.symm]
  | cons p ps ih =>
    by_cases hp : p.1 = key
    · simp [set, get?, hp, h.symm]
    · rw [set, if_neg hp]
      by_cases ho : p.1 = other
      · simp [get?, ho]
      · simpa [get?, ho] using ih

theorem set_of_not_mem [DecidableEq κ] {key : κ} {ps : List (κ × α)} (value : α)
    (h : key ∉ ps.map (·.1)) : set key value ps = ps ++ [(key, value)] := by
  induction ps with
  | nil => rfl
  | cons p ps ih =>
    rw [List.map_cons, List.mem_cons, not_or] at h
    rw [set, if_neg (Ne.symm h.1), ih h.2]
    rfl

theorem get?_of_mem [DecidableEq κ] {key : κ} {value : α} {ps : List (κ × α)}
    (hkeys : (ps.map (·.1)).Nodup) (h : (key, value) ∈ ps) : get? key ps = some value := by
  induction ps with
  | nil => cases h
  | cons p ps ih =>
    rw [List.map_cons, List.nodup_cons] at hkeys
    rcases List.mem_cons.1 h with rfl | h
    · simp [get?]
    · have hne : p.1 ≠ key := by
        rintro rfl
        exact hkeys.1 (List.mem_map.2 ⟨_, h, rfl⟩)
      simpa [get?, hne] using ih hkeys.2 h

theorem mem_of_get? [DecidableEq κ] {key : κ} {value : α} {ps : List (κ × α)}
    (h : get? key ps = some value) : (key, value) ∈ ps := by
  obtain ⟨p, hfind, rfl⟩ := Option.map_eq_some_iff.1 h
  have hkey : p.1 = key := by simpa using List.find?_some hfind
  rw [← hkey]
  exact List.mem_of_find?_eq_some hfind

theorem mem_set [DecidableEq κ] {key : κ} {value : α} {ps : List (κ × α)} {p : κ × α}
    (h : p ∈ set key value ps) : p ∈ ps ∨ p = (key, value) := by
  induction ps with
  | nil => exact .inr (List.mem_singleton.1 h)
  | cons q ps ih =>
    unfold set at h
    split at h
    · rcases List.mem_cons.1 h with rfl | h
      · exact .inr rfl
      · exact .inl (List.mem_cons_of_mem q h)
    · rcases List.mem_cons.1 h with rfl | h
      · exact .inl List.mem_cons_self
      · exact (ih h).imp_left (List.mem_cons_of_mem q)

end Accounts.Assoc
