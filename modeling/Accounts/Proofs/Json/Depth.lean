import Accounts.Json.Reader

/-!
# How deep JSON may be nested

The limit on the depth decides whether a text is read, and never what is read from it:

    read ⟨depth, loose⟩ cs ≠ .error .tooDeep,  depth ≤ more
      ->  read ⟨more, loose⟩ cs = read ⟨depth, loose⟩ cs
-/

namespace Accounts.Json

/-- With so much fuel, room for one more array or object changes no result that there was room for. -/
structure Roomy (loose : Bool) (fuel : Nat) : Prop where
  value : ∀ (depth : Nat) (cs : List Char), readValue loose fuel depth cs ≠ .error .tooDeep →
    readValue loose fuel (depth + 1) cs = readValue loose fuel depth cs
  items : ∀ (depth : Nat) (cs : List Char), readItems loose fuel depth cs ≠ .error .tooDeep →
    readItems loose fuel (depth + 1) cs = readItems loose fuel depth cs
  members : ∀ (depth : Nat) (members : List (String × Json)) (cs : List Char),
    readMembers loose fuel depth members cs ≠ .error .tooDeep →
    readMembers loose fuel (depth + 1) members cs = readMembers loose fuel depth members cs

theorem Roomy.zero (loose : Bool) : Roomy loose 0 :=
  ⟨fun _ _ _ => rfl, fun _ _ _ => rfl, fun _ _ _ _ => rfl⟩

section Step

variable {loose : Bool} {fuel : Nat}

/-- Only arrays and objects need room. -/
theorem Roomy.value_succ (ih : Roomy loose fuel) (depth : Nat) (cs : List Char)
    (h : readValue loose (fuel + 1) depth cs ≠ .error .tooDeep) :
    readValue loose (fuel + 1) (depth + 1) cs = readValue loose (fuel + 1) depth cs := by
  unfold readValue
  split
  case h_3 rest =>
    cases depth with
    | zero => exact absurd (by rw [readValue]) h
    | succ depth =>
      rw [readValue] at h
      dsimp only
      split
      · rfl
      · rename_i hend
        rw [ih.items depth (skipSpace rest) fun hdeep => h (by simp only [hdeep])]
  case h_4 rest =>
    cases depth with
    | zero => exact absurd (by rw [readValue]) h
    | succ depth =>
      rw [readValue] at h
      dsimp only
      split
      · rfl
      · rename_i hend
        rw [ih.members depth [] (skipSpace rest) fun hdeep => h (by simp only [hdeep])]
  all_goals rfl

theorem Roomy.items_succ (ih : Roomy loose fuel) (depth : Nat) (cs : List Char)
    (h : readItems loose (fuel + 1) depth cs ≠ .error .tooDeep) :
    readItems loose (fuel + 1) (depth + 1) cs = readItems loose (fuel + 1) depth cs := by
  unfold readItems at h ⊢
  have hvalue := ih.value depth cs fun hdeep => h (by rw [hdeep])
  rw [hvalue]
  split
  · rfl
  · rename_i item rest hitem
    rw [hitem] at h
    dsimp only at h
    split
    · rfl
    · rename_i rest hrest
      rw [ih.items depth (skipSpace rest) fun hdeep => h (by simp only [hrest, hdeep])]
    · rfl

theorem Roomy.members_succ (ih : Roomy loose fuel) (depth : Nat) (members : List (String × Json))
    (cs : List Char) (h : readMembers loose (fuel + 1) depth members cs ≠ .error .tooDeep) :
    readMembers loose (fuel + 1) (depth + 1) members cs =
      readMembers loose (fuel + 1) depth members cs := by
  unfold readMembers
  split
  · rename_i rest
    rw [readMembers] at h
    split
    · rfl
    · rename_i codes rest hcodes
      rw [hcodes] at h
      dsimp only at h
      split
      · rename_i rest hcolon
        simp only [hcolon] at h
        rw [ih.value depth (skipSpace rest) fun hdeep => h (by rw [hdeep])]
        split
        · rfl
        · rename_i value rest hvalue
          simp only [hvalue] at h ⊢
          split
          · rfl
          · rename_i rest hcomma
            rw [hcomma] at h
            exact ih.members depth _ _ h
          · rfl
      · rfl
  · rfl

end Step

theorem roomy (loose : Bool) (fuel : Nat) : Roomy loose fuel := by
  induction fuel with
  | zero => exact .zero loose
  | succ fuel ih => exact ⟨ih.value_succ, ih.items_succ, ih.members_succ⟩

/-- What is read from a text at one depth is read from it wherever more is allowed. -/
theorem read_of_le {loose : Bool} {depth more : Nat} {cs : List Char}
    (h : read ⟨depth, loose⟩ cs ≠ .error .tooDeep) (hle : depth ≤ more) :
    read ⟨more, loose⟩ cs = read ⟨depth, loose⟩ cs := by
  induction hle with
  | refl => rfl
  | @step more hle ih =>
    rw [← ih]
    rw [← ih] at h
    unfold read at h ⊢
    rw [(roomy loose _).value more (skipSpace cs) fun hdeep => h (by dsimp only; rw [hdeep])]

/-- Two depths at which a text is read give one value. -/
theorem read_unique {loose : Bool} {depth more : Nat} {cs : List Char} {j k : Json}
    (hj : read ⟨depth, loose⟩ cs = .ok j) (hk : read ⟨more, loose⟩ cs = .ok k) : j = k := by
  have hroom (d : Nat) {i : Json} (hi : read ⟨d, loose⟩ cs = .ok i) :
      read ⟨d, loose⟩ cs ≠ .error .tooDeep := by
    rw [hi]
    nofun
  rcases Nat.le_total depth more with hle | hle
  · rw [read_of_le (hroom _ hj) hle, hj] at hk
    exact Except.ok.inj hk
  · rw [read_of_le (hroom _ hk) hle, hk] at hj
    exact (Except.ok.inj hj).symm

end Accounts.Json
