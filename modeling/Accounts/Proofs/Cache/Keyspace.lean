import Accounts.Cache.Keyspace

/-!
# What commands do to the living entries

A command touches one key, or takes away the keys that it names: the entries of other keys live on
as they were.  Deleting a key, or giving it no time to live, leaves nothing alive under it.
-/

namespace Accounts.Cache

open Calendar Number

variable {ks : Keyspace} {now : Instant} {key other : String}

namespace Keyspace

theorem live?_eq_some {e : Entry} :
    ks.live? now key = some e ↔ Assoc.get? key ks = some e ∧ now < e.expires := by
  rw [live?, Option.filter_eq_some_iff, decide_eq_true_eq]

theorem live?_nil (now : Instant) (key : String) : live? [] now key = none := rfl

/-- Time only takes entries away. -/
theorem live?_later {later : Instant} {e : Entry} (h : now ≤ later)
    (he : ks.live? later key = some e) : ks.live? now key = some e := by
  rw [live?_eq_some] at he ⊢
  exact ⟨he.1, Int.lt_of_le_of_lt h he.2⟩

theorem get?_erase_self (ks : Keyspace) (key : String) : Assoc.get? key (ks.erase key) = none := by
  have hnone : (ks.erase key).find? (·.1 = key) = none := by
    rw [List.find?_eq_none]
    intro p hp
    simpa using (List.mem_filter.1 hp).2
  rw [Assoc.get?, hnone]
  rfl

theorem get?_erase_of_ne (h : other ≠ key) (ks : Keyspace) :
    Assoc.get? other (ks.erase key) = Assoc.get? other ks := by
  unfold Assoc.get? erase
  rw [List.find?_filter]
  congr 2
  funext p
  by_cases hp : p.1 = other <;> simp [hp, h]

theorem live?_erase_self (ks : Keyspace) (now : Instant) (key : String) :
    (ks.erase key).live? now key = none := by
  rw [live?, get?_erase_self]
  rfl

theorem live?_erase_of_ne (h : other ≠ key) (ks : Keyspace) (now : Instant) :
    (ks.erase key).live? now other = ks.live? now other := by
  rw [live?, live?, get?_erase_of_ne h]

theorem live?_put_self {e : Entry} (ks : Keyspace) (now : Instant) (key : String) :
    (ks.put key e).live? now key = if now < e.expires then some e else none := by
  rw [live?, put, Assoc.get?_set_self, Option.filter_some]
  by_cases h : now < e.expires <;> simp [h]

theorem get?_expireAt_of_ne (h : other ≠ key) (ks : Keyspace) (now expires : Instant) :
    Assoc.get? other (ks.expireAt now key expires) = Assoc.get? other ks := by
  unfold expireAt
  split
  · split
    · exact get?_erase_of_ne h ks
    · exact Assoc.get?_set_of_ne _ h ks
  · rfl

/-- Nothing lives on under a key whose life ends now. -/
theorem live?_expireAt_now {expires : Instant} (h : expires ≤ now) (ks : Keyspace) (key : String) :
    (ks.expireAt now key expires).live? now key = none := by
  unfold expireAt
  split
  · rw [if_pos h, live?_erase_self]
  · assumption

end Keyspace

/-! ## Commands -/

/-- A command that fails changes nothing. -/
theorem Command.run_error {c : Command} {fault : Fault}
    (h : (c.run now ks).1 = .error fault) : (c.run now ks).2 = ks := by
  cases c with
  | get | ping => rfl
  | setFor key seconds value =>
    change (ks.setFor now key seconds value).1 = .error fault at h
    show (ks.setFor now key seconds value).2 = ks
    unfold Keyspace.setFor at h ⊢
    split at h
    · rename_i hword
      rw [if_pos hword]
    · rename_i hword
      rw [if_neg hword]
      split at h
      · rename_i hsign
        rw [if_pos hsign]
      · rename_i hsign
        rw [if_neg hsign]
        cases hdeadline : deadline? now seconds with
        | some expires =>
          rw [hdeadline] at h
          cases h
        | none => rfl
  | delete keys =>
    cases keys with
    | nil => rfl
    | cons key keys => cases h
  | expire key seconds =>
    change (ks.expire now key seconds).1 = .error fault at h
    show (ks.expire now key seconds).2 = ks
    unfold Keyspace.expire at h ⊢
    split at h
    · rename_i hword
      rw [if_pos hword]
    · rename_i hword
      rw [if_neg hword]
      cases hdeadline : deadline? now seconds with
      | some expires =>
        rw [hdeadline] at h
        cases h
      | none => rfl

theorem deadline?_eq_some {seconds : Int} {expires : Instant}
    (h : deadline? now seconds = some expires) : expires = now + seconds * second := by
  unfold deadline? at h
  dsimp only at h
  split at h
  · exact (Option.some.inj h).symm
  · cases h

/-- A text is put under a key, or the command fails and changes nothing. -/
theorem setFor_cases (ks : Keyspace) (now : Instant) (key : String) (seconds : Int) (value : String) :
    ((Command.setFor key seconds value).run now ks).2 = ks ∨
    ∃ expires, deadline? now seconds = some expires ∧
      ((Command.setFor key seconds value).run now ks).2 = ks.put key ⟨value, expires⟩ := by
  show (ks.setFor now key seconds value).2 = ks ∨
    ∃ expires, deadline? now seconds = some expires ∧
      (ks.setFor now key seconds value).2 = ks.put key ⟨value, expires⟩
  unfold Keyspace.setFor
  split
  · exact .inl rfl
  · split
    · exact .inl rfl
    · split
      · rename_i expires hdeadline
        exact .inr ⟨expires, hdeadline, rfl⟩
      · exact .inl rfl

/-- A command that touches nothing under a key. -/
def Command.Leaves (key : String) : Command → Prop
  | .setFor other .. | .expire other _ => key ≠ other
  | .delete keys => key ∉ keys
  | .get _ | .ping => True

/-- What is under a key is not touched by commands to other keys. -/
theorem Command.Leaves.run_get? {c : Command} (hc : c.Leaves key) (now : Instant) (ks : Keyspace) :
    Assoc.get? key (c.run now ks).2 = Assoc.get? key ks := by
  cases c with
  | get | ping => rfl
  | setFor other seconds value =>
    rcases setFor_cases ks now other seconds value with heq | ⟨expires, -, heq⟩
    · rw [heq]
    · rw [heq, Keyspace.put, Assoc.get?_set_of_ne _ hc]
  | delete keys =>
    cases keys with
    | nil => rfl
    | cons other keys =>
      show Assoc.get? key ((other :: keys).foldl Keyspace.erase ks) = _
      have hkeys : key ∉ other :: keys := hc
      generalize other :: keys = keys at hkeys
      induction keys generalizing ks with
      | nil => rfl
      | cons other keys ih =>
        rw [List.mem_cons, not_or] at hkeys
        exact (ih (ks.erase other) hkeys.2).trans (Keyspace.get?_erase_of_ne hkeys.1 ks)
  | expire other seconds =>
    show Assoc.get? key (ks.expire now other seconds).2 = _
    unfold Keyspace.expire
    split
    · rfl
    · split
      · exact Keyspace.get?_expireAt_of_ne hc ks now _
      · rfl

theorem Command.Leaves.run_live? {c : Command} (hc : c.Leaves key) (now : Instant)
    (ks : Keyspace) : (c.run now ks).2.live? now key = ks.live? now key := by
  rw [Keyspace.live?, Keyspace.live?, hc.run_get?]

/-! ## The same key -/

/-- What lives under a key after a text was put there is that text, or what was there before. -/
theorem live?_setFor_self {now : Instant} {seconds : Int} {value : String} {e : Entry}
    (h : ((Command.setFor key seconds value).run now ks).2.live? now key = some e) :
    e.value = value ∨ ks.live? now key = some e := by
  rcases setFor_cases ks now key seconds value with heq | ⟨expires, -, heq⟩
  · rw [heq] at h
    exact .inr h
  · rw [heq, Keyspace.live?_put_self] at h
    split at h
    · cases h
      exact .inl rfl
    · cases h

/-- A key that could be given no time to live has nothing alive under it. -/
theorem live?_expire_zero {now : Instant} (h : ((Command.expire key 0).run now ks).1 = .ok ()) :
    ((Command.expire key 0).run now ks).2.live? now key = none := by
  change (ks.expire now key 0).1 = .ok () at h
  show (ks.expire now key 0).2.live? now key = none
  unfold Keyspace.expire at h ⊢
  rw [if_neg (by decide)] at h ⊢
  have hdead : ∀ expires, deadline? now 0 = some expires → expires ≤ now := by
    intro expires he
    unfold deadline? at he
    dsimp only at he
    split at he
    · cases he
      exact Int.le_of_eq (by rw [Int.zero_mul, Int.add_zero])
    · cases he
  split at h
  · rename_i expires he
    exact Keyspace.live?_expireAt_now (hdead expires he) ks key
  · cases h

/-- A key that is given no time to live has nothing alive under it, or what it had. -/
theorem live?_expire_zero_or_same (now : Instant) (key : String) (ks : Keyspace) :
    ((Command.expire key 0).run now ks).2.live? now key = none ∨
      ((Command.expire key 0).run now ks).2.live? now key = ks.live? now key := by
  rcases hr : ((Command.expire key 0).run now ks).1 with fault | u
  · exact .inr (by rw [Command.run_error hr])
  · exact .inl (live?_expire_zero hr)

/-- A command that puts no text under a key. -/
def Command.Spares (key : String) : Command → Prop
  | .setFor other .. => other ≠ key
  | .get _ | .delete _ | .expire .. | .ping => True

/-- What lives after a key was taken away lived before. -/
theorem Keyspace.live?_of_erase {e : Entry} (h : (ks.erase other).live? now key = some e) :
    ks.live? now key = some e := by
  by_cases ho : key = other
  · rw [ho, live?_erase_self] at h
    cases h
  · rwa [live?_erase_of_ne ho] at h

/-- What lives under a key after a command lived there before with the same text, or is the text that
the command put there. -/
theorem Command.live?_origin {c : Command} {e : Entry}
    (h : (c.run now ks).2.live? now key = some e) :
    (∃ e', ks.live? now key = some e' ∧ e'.value = e.value) ∨
      ∃ seconds, c = .setFor key seconds e.value := by
  cases c with
  | get | ping => exact .inl ⟨e, h, rfl⟩
  | setFor other seconds value =>
    by_cases ho : key = other
    · subst ho
      rcases live?_setFor_self h with hvalue | hlive
      · exact .inr ⟨seconds, by rw [hvalue]⟩
      · exact .inl ⟨e, hlive, rfl⟩
    · have hleaves : (setFor other seconds value).Leaves key := ho
      rw [hleaves.run_live?] at h
      exact .inl ⟨e, h, rfl⟩
  | delete keys =>
    refine .inl ⟨e, ?_, rfl⟩
    cases keys with
    | nil => exact h
    | cons other keys =>
      change ((other :: keys).foldl Keyspace.erase ks).live? now key = some e at h
      generalize other :: keys = keys at h
      induction keys generalizing ks with
      | nil => exact h
      | cons other keys ih => exact Keyspace.live?_of_erase (ih h)
  | expire other seconds =>
    left
    by_cases ho : key = other
    · subst ho
      change (ks.expire now key seconds).2.live? now key = some e at h
      unfold Keyspace.expire at h
      split at h
      · exact ⟨e, h, rfl⟩
      · split at h
        · rename_i expires _
          unfold Keyspace.expireAt at h
          split at h
          · rename_i e' hlive
            split at h
            · rw [Keyspace.live?_erase_self] at h
              cases h
            · rw [Keyspace.live?_put_self] at h
              split at h
              · cases h
                exact ⟨e', hlive, rfl⟩
              · cases h
          · exact ⟨e, h, rfl⟩
        · exact ⟨e, h, rfl⟩
    · have hleaves : (expire other seconds).Leaves key := ho
      rw [hleaves.run_live?] at h
      exact ⟨e, h, rfl⟩

/-- Only a text that is put under a key brings it to life. -/
theorem Command.Spares.run_dead {c : Command} (hc : c.Spares key) (h : ks.live? now key = none) :
    (c.run now ks).2.live? now key = none := by
  rcases hlive : (c.run now ks).2.live? now key with _ | e
  · rfl
  · rcases Command.live?_origin hlive with ⟨e', he', -⟩ | ⟨seconds, rfl⟩
    · rw [h] at he'
      cases he'
    · exact absurd rfl hc

/-! ## Entries -/

/-- Ending the life of a key adds no entry. -/
theorem Keyspace.expireAt_subset {expires : Instant} (h : expires ≤ now) (ks : Keyspace)
    (key : String) : ks.expireAt now key expires ⊆ ks := by
  unfold expireAt
  split
  · rw [if_pos h]
    exact List.filter_sublist.subset
  · exact List.Subset.refl _

/-- A command that puts no text under a key and lets none live longer. -/
def Command.Shrinks : Command → Prop
  | .setFor .. => False
  | .expire _ seconds => seconds ≤ 0
  | .get _ | .delete _ | .ping => True

theorem Command.Shrinks.run_subset {c : Command} (hc : c.Shrinks) (now : Instant) (ks : Keyspace) :
    (c.run now ks).2 ⊆ ks := by
  cases c with
  | get | ping => exact List.Subset.refl _
  | setFor => exact hc.elim
  | delete keys =>
    cases keys with
    | nil => exact List.Subset.refl _
    | cons key keys =>
      show (key :: keys).foldl Keyspace.erase ks ⊆ ks
      generalize key :: keys = keys
      induction keys generalizing ks with
      | nil => exact List.Subset.refl _
      | cons key keys ih => exact List.Subset.trans (ih _) (List.filter_sublist.subset)
  | expire key seconds =>
    have hseconds : seconds ≤ 0 := hc
    show (ks.expire now key seconds).2 ⊆ ks
    unfold Keyspace.expire
    split
    · exact List.Subset.refl _
    · split
      · rename_i expires hdeadline
        refine Keyspace.expireAt_subset ?_ ks key
        rw [deadline?_eq_some hdeadline]
        have hspan : seconds * second ≤ 0 := Int.mul_nonpos_of_nonpos_of_nonneg hseconds (by decide)
        exact Int.add_le_of_le_sub_left (Int.le_trans hspan (Int.le_of_eq (Int.sub_self now).symm))
      · exact List.Subset.refl _

/-- Putting a text under a key adds one entry, which lives from now on. -/
theorem mem_setFor {seconds : Int} {value : String} {p : String × Entry}
    (h : p ∈ ((Command.setFor key seconds value).run now ks).2) :
    p ∈ ks ∨ p = (key, ⟨value, now + seconds * second⟩) := by
  rcases setFor_cases ks now key seconds value with heq | ⟨expires, hdeadline, heq⟩
  · rw [heq] at h
    exact .inl h
  · rw [heq] at h
    rw [← deadline?_eq_some hdeadline]
    exact Assoc.mem_set h

end Accounts.Cache
