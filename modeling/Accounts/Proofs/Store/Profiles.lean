import Accounts.Proofs.Store.Table

/-!
# What a table shows without the hashes

The profiles of a table are its rows without the hashes of their passwords.  What a statement answers
and leaves, up to the hashes, depends on the profiles of the table alone:

    t.profiles = t'.profiles  ->  (s.run now new t).2.profiles = (s.run now new t').2.profiles
-/

namespace Accounts.Store

open Calendar

variable {t t' : Table} {id : Uuid} {email : String}

namespace Table

/-- The rows without their hashes. -/
def profiles (t : Table) : List Profile := t.map Row.profile

/-! ## Looking up -/

theorem find?_profile (t : Table) (id : Uuid) :
    (t.find? id).map Row.profile = t.profiles.find? fun p => p.id = id := by
  rw [find?, profiles, List.find?_map]
  rfl

theorem findEmail?_profile (t : Table) (email : String) :
    (t.findEmail? email).map Row.profile = t.profiles.find? fun p => p.email = email := by
  rw [findEmail?, profiles, List.find?_map]
  rfl

theorem find?_alike (h : t.profiles = t'.profiles) (id : Uuid) :
    (t.find? id).map Row.profile = (t'.find? id).map Row.profile := by
  rw [find?_profile, find?_profile, h]

theorem findEmail?_alike (h : t.profiles = t'.profiles) (email : String) :
    (t.findEmail? email).map Row.profile = (t'.findEmail? email).map Row.profile := by
  rw [findEmail?_profile, findEmail?_profile, h]

theorem takenByOther_alike (h : t.profiles = t'.profiles) (id : Uuid) (email : String) :
    t.takenByOther id email = t'.takenByOther id email := by
  have hany : ∀ t : Table, t.takenByOther id email =
      t.profiles.any fun p => p.email = email && p.id != id := fun t => by
    rw [profiles, List.any_map]
    rfl
  rw [hany, hany, h]

/-! ## Changing -/

theorem profiles_append (t : Table) (row : Row) :
    profiles (t ++ [row]) = t.profiles ++ [row.profile] := by
  simp [profiles]

theorem profiles_remove (t : Table) (id : Uuid) :
    (t.remove id).profiles = t.profiles.filter fun p => p.id ≠ id := by
  rw [profiles, profiles, remove, List.filter_map]
  rfl

theorem profiles_replace (t : Table) (id : Uuid) (row : Row) :
    (t.replace id row).profiles = t.profiles.map fun p => if p.id = id then row.profile else p := by
  rw [profiles, profiles, replace, List.map_map, List.map_map]
  refine List.map_congr_left fun r _ => ?_
  by_cases h : r.profile.id = id <;> simp [h]

end Table

/-! ## Statements -/

/-- Inserting depends on the hashes in the hash of the new row only. -/
theorem insert_alike (h : t.profiles = t'.profiles) (now : Instant) (id : Uuid) (d : Draft)
    (hash : String) :
    (insert now id d t).1.map Row.profile =
        (insert now id { d with hash := hash } t').1.map Row.profile ∧
      (insert now id d t).2.profiles = (insert now id { d with hash := hash } t').2.profiles := by
  have hid : ∀ id, (t.find? id).isSome = (t'.find? id).isSome := fun id => by
    rw [← Option.isSome_map, Table.find?_alike h id, Option.isSome_map]
  have hemail : ∀ email, (t.findEmail? email).isSome = (t'.findEmail? email).isSome :=
    fun email => by rw [← Option.isSome_map, Table.findEmail?_alike h email, Option.isSome_map]
  unfold insert
  dsimp only
  split
  · exact ⟨rfl, h⟩
  · rcases d.email with _ | email
    · exact ⟨rfl, h⟩
    rcases stamp? now with _ | time
    · exact ⟨rfl, h⟩
    dsimp only [Table.insert?, Draft.row]
    rw [hid, hemail]
    split
    · rename_i t₁ hnew
      split at hnew
      · cases hnew
      · rename_i hfree
        cases hnew
        rw [if_neg hfree]
        refine ⟨rfl, ?_⟩
        rw [Table.profiles_append, Table.profiles_append, h]
    · rename_i hnone
      split at hnone
      · rename_i htaken
        rw [if_pos htaken]
        exact ⟨rfl, h⟩
      · cases hnone

/-- Revising does not depend on the hashes. -/
theorem revise_alike (h : t.profiles = t'.profiles) (now : Instant) (id : Uuid) (d : Details) :
    (revise now id d t).1.map (Option.map Row.profile) =
        (revise now id d t').1.map (Option.map Row.profile) ∧
      (revise now id d t).2.profiles = (revise now id d t').2.profiles := by
  have hrow := Table.find?_alike h id
  unfold revise
  split
  · exact ⟨rfl, h⟩
  · rcases hfind : t.find? id with _ | row <;> rcases hfind' : t'.find? id with _ | row' <;>
      rw [hfind, hfind'] at hrow
    · exact ⟨rfl, h⟩
    · cases hrow
    · cases hrow
    · have hprofile : row.profile = row'.profile := Option.some.inj hrow
      rcases stamp? now with _ | time
      · exact ⟨rfl, h⟩
      · have hnew : (row.revised d time).profile = (row'.revised d time).profile := by
          rw [Row.revised, Row.revised, hprofile]
        dsimp only
        rw [hnew, Table.takenByOther_alike h]
        split
        · exact ⟨rfl, h⟩
        · refine ⟨?_, ?_⟩
          · show Except.ok (some (row.revised d time).profile) =
              Except.ok (some (row'.revised d time).profile)
            rw [hnew]
          · rw [Table.profiles_replace, Table.profiles_replace, h, hnew]

end Accounts.Store
