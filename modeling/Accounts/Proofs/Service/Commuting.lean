import Accounts.Proofs.Service.Revision
import Accounts.Proofs.Store.Columns

/-!
# Changes of different fields

Two changes of an account that have no field in common come to the same in both orders: neither
rewrites what it was not asked for, a blank field of one leaves what the other has put there, and the
row of the account does not stand in the way of its own email.

    (row.revised u time).revised v time = (row.revised v time).revised u time
    what  v  comes to after  u  =  what  v  comes to before  u
-/

namespace Accounts

open Accounts.Action
open Calendar Database

variable {α : Type} {setup : Setup} {w w' : World} {id : Uuid} {u v d : Details} {row : Store.Row}
  {time : DateTime} {now : Instant} {t : Store.Table}

/-! ## Fields that change -/

/-- No field is changed by both revisions. -/
structure Details.Apart (u v : Details) : Prop where
  texts : ∀ field, u.changes.text field = none ∨ v.changes.text field = none
  email : u.changes.email = none ∨ v.changes.email = none
  postcode : u.changes.postcode = none ∨ v.changes.postcode = none
  birthday : u.changes.birthday = none ∨ v.changes.birthday = none

theorem Details.mem_changedFields {name : String} : name ∈ d.changedFields ↔
    ∃ value, (name, some value) ∈ profileValues d.changes.text d.changes.email d.changes.postcode
      d.changes.birthday := by
  unfold changedFields
  rw [List.mem_mergeSort, changedMembers_eq, List.map_map, List.mem_map]
  constructor
  · rintro ⟨⟨name, value⟩, hmem, rfl⟩
    exact ⟨value, mem_values.1 hmem⟩
  · rintro ⟨value, hmem⟩
    exact ⟨(name, value), mem_values.2 hmem, rfl⟩

/-- Of two revisions without a common changed field, one leaves a field alone. -/
theorem none_or_none {β : Type} {a b : Option β} {name : String}
    (h : ∀ name ∈ u.changedFields, name ∉ v.changedFields)
    (hu : ∀ x, a = some x → name ∈ u.changedFields)
    (hv : ∀ x, b = some x → name ∈ v.changedFields) : a = none ∨ b = none := by
  cases a with
  | none => exact .inl rfl
  | some x =>
    cases b with
    | none => exact .inr rfl
    | some y => exact absurd (hv y rfl) (h name (hu x rfl))

theorem Details.apart_of_changedFields (h : ∀ name ∈ u.changedFields, name ∉ v.changedFields) :
    u.Apart v := by
  have htext (d : Details) (field : ProfileText) (s : LooseText)
      (hs : d.changes.text field = some s) :
      field.name ∈ d.changedFields :=
    mem_changedFields.2 ⟨.text s, mem_profileValues.2 (.inl ⟨field, by rw [hs]; rfl⟩)⟩
  have hemail (d : Details) (e : LooseText) (he : d.changes.email = some e) :
      "email" ∈ d.changedFields :=
    mem_changedFields.2 ⟨.text e, mem_profileValues.2 (.inr (.inl (by rw [he]; rfl)))⟩
  have hpostcode (d : Details) (n : Int) (hn : d.changes.postcode = some n) :
      "postcode" ∈ d.changedFields :=
    mem_changedFields.2 ⟨.integer n, mem_profileValues.2 (.inr (.inr (.inl (by rw [hn]; rfl))))⟩
  have hbirthday (d : Details) (b : Date) (hb : d.changes.birthday = some b) :
      "birthday" ∈ d.changedFields :=
    mem_changedFields.2 ⟨.date b, mem_profileValues.2 (.inr (.inr (.inr (by rw [hb]; rfl))))⟩
  exact ⟨fun field => none_or_none h (htext u field) (htext v field),
    none_or_none h (hemail u) (hemail v), none_or_none h (hpostcode u) (hpostcode v),
    none_or_none h (hbirthday u) (hbirthday v)⟩

/-! ## Rows -/

theorem getD_getD {β : Type} {a b : Option β} (h : a = none ∨ b = none) (x : β) :
    b.getD (a.getD x) = a.getD (b.getD x) := by
  rcases h with rfl | rfl <;> rfl

theorem or_or {β : Type} {a b : Option β} (h : a = none ∨ b = none) (x : Option β) :
    b.or (a.or x) = a.or (b.or x) := by
  rcases h with rfl | rfl <;> rfl

theorem Profile.revised_comm (h : u.Apart v) (p : Profile) :
    (p.revised u).revised v = (p.revised v).revised u := by
  have htext (field : ProfileText) :
      charsOf (u.changes.text field) = none ∨ charsOf (v.changes.text field) = none :=
    (h.texts field).imp Option.map_eq_none_iff.2 Option.map_eq_none_iff.2
  have hemail : charsOf u.changes.email = none ∨ charsOf v.changes.email = none :=
    h.email.imp Option.map_eq_none_iff.2 Option.map_eq_none_iff.2
  unfold Profile.revised
  congr 1
  · exact getD_getD (htext .firstName) p.firstName
  · exact getD_getD (htext .lastName) p.lastName
  · exact getD_getD hemail p.email
  · exact getD_getD (htext .role) p.role
  · exact or_or (htext .about) p.about
  · exact or_or (htext .phoneNumber) p.phoneNumber
  · exact or_or (htext .address) p.address
  · exact or_or (htext .city) p.city
  · exact or_or (htext .gender) p.gender
  · exact or_or h.postcode p.postcode
  · exact or_or h.birthday p.birthday

theorem Store.Row.revised_comm (h : u.Apart v) (row : Store.Row) (time : DateTime) :
    (row.revised u time).revised v time = (row.revised v time).revised u time := by
  have hprofile := Profile.revised_comm h row.profile
  show Store.Row.mk { (row.profile.revised u).revised v with updatedAt := time } row.hash =
    Store.Row.mk { (row.profile.revised v).revised u with updatedAt := time } row.hash
  rw [hprofile]

/-- A row has every value that a revision gives. -/
structure Store.Row.Has (d : Details) (row : Row) : Prop where
  /-- No text of the revision is broken, so that each of them is its characters. -/
  whole : d.changes.isWhole = true
  texts : ∀ field s, charsOf (d.changes.text field) = some s → row.profile.text field = some s
  email : ∀ e, charsOf d.changes.email = some e → row.profile.email = e
  postcode : ∀ n, d.changes.postcode = some n → row.profile.postcode = some n
  birthday : ∀ b, d.changes.birthday = some b → row.profile.birthday = some b

theorem Store.Row.text_revised (row : Row) (d : Details) (time : DateTime) (field : ProfileText) :
    (row.revised d time).profile.text field =
      (charsOf (d.changes.text field)).or (row.profile.text field) := by
  cases field with
  | firstName | lastName | role => exact (Option.or_some ..).symm
  | about | phoneNumber | address | city | gender => rfl

theorem Store.Row.has_revised (hwhole : d.changes.isWhole = true) (row : Row) (time : DateTime) :
    (row.revised d time).Has d where
  whole := hwhole
  texts field s hs := by
    rw [text_revised, hs]
    rfl
  email e he := by
    show (charsOf d.changes.email).getD _ = e
    rw [he]
    rfl
  postcode n hn := by
    show d.changes.postcode.or _ = some n
    rw [hn]
    rfl
  birthday b hb := by
    show d.changes.birthday.or _ = some b
    rw [hb]
    rfl

/-- A value that a row has is not touched by a change of other fields. -/
theorem Store.Row.Has.revised (h : row.Has u) (hapart : u.Apart v) (time : DateTime) :
    (row.revised v time).Has u where
  whole := h.whole
  texts field s hs := by
    rcases hapart.texts field with hnone | hnone
    · rw [hnone] at hs
      cases hs
    · rw [text_revised, hnone]
      exact h.texts field s hs
  email e he := by
    rcases hapart.email with hnone | hnone
    · rw [hnone] at he
      cases he
    · show (charsOf v.changes.email).getD row.profile.email = e
      rw [hnone]
      exact h.email e he
  postcode n hn := by
    rcases hapart.postcode with hnone | hnone
    · rw [hnone] at hn
      cases hn
    · show v.changes.postcode.or row.profile.postcode = some n
      rw [hnone, Option.none_or]
      exact h.postcode n hn
  birthday b hb := by
    rcases hapart.birthday with hnone | hnone
    · rw [hnone] at hb
      cases hb
    · show v.changes.birthday.or row.profile.birthday = some b
      rw [hnone, Option.none_or]
      exact h.birthday b hb

/-! ## Statements -/

/-- What a revision comes to does not depend on another one before it. -/
theorem Store.revise_after (ht : t.Distinct) (now : Instant) (id : Uuid) (u v : Details) :
    (revise now id v (revise now id u t).2).1.map Option.isSome =
      (revise now id v t).1.map Option.isSome := by
  rcases revise_cases now id u t with ⟨_, h⟩ | ⟨-, h⟩ | ⟨row, time, hrow, htime, -, hfree, h⟩
  · rw [h]
  · rw [h]
  · have hid : (row.revised u time).profile.id = id :=
      (row.revised_id u time).trans (Table.id_of_find? hrow)
    have hrow' : (t.replace id (row.revised u time)).find? id = some (row.revised u time) := by
      rw [Table.find?_replace_self hid, hrow]
      rfl
    -- an email that is not asked for is the one of the row, which is free in both tables
    have htaken : (t.replace id (row.revised u time)).takenByOther id
        ((row.revised u time).revised v time).profile.email =
          t.takenByOther id (row.revised v time).profile.email := by
      rw [Table.takenByOther_replace hid]
      show t.takenByOther id ((charsOf v.changes.email).getD (row.revised u time).profile.email) =
        t.takenByOther id ((charsOf v.changes.email).getD row.profile.email)
      cases charsOf v.changes.email with
      | some email => rfl
      | none => exact hfree.trans (ht.not_takenByOther hrow).symm
    rw [h]
    unfold revise
    rw [hrow, hrow', htime]
    dsimp only
    rw [htaken]
    cases bindFault? v.changes.isWhole v.changes.postcode with
    | some fault => rfl
    | none => cases t.takenByOther id (row.revised v time).profile.email <;> rfl

/-- A revision that goes through replaces the row. -/
theorem Store.revise_of_ok (h : (revise now id d t).1.map Option.isSome = .ok true) :
    ∃ row time, t.find? id = some row ∧ stamp? now = some time ∧
      (revise now id d t).2 = t.replace id (row.revised d time) := by
  rcases revise_cases now id d t with ⟨_, heq⟩ | ⟨-, heq⟩ | ⟨row, time, hrow, htime, -, -, heq⟩
  · rw [heq] at h
    cases h
  · rw [heq] at h
    cases h
  · exact ⟨row, time, hrow, htime, congrArg Prod.snd heq⟩

/-- A revision that does not go through leaves the table alone. -/
theorem Store.revise_of_not_ok (h : (revise now id d t).1.map Option.isSome ≠ .ok true) :
    (revise now id d t).2 = t := by
  rcases revise_cases now id d t with ⟨_, heq⟩ | ⟨-, heq⟩ | ⟨row, time, -, -, -, -, heq⟩
  · rw [heq]
  · rw [heq]
  · rw [heq] at h
    exact absurd rfl h

/-- Two revisions that go through leave the row with the changes of both. -/
theorem Store.revise_twice (ht : t.Distinct)
    (hu : (revise now id u t).1.map Option.isSome = .ok true)
    (hv : (revise now id v t).1.map Option.isSome = .ok true) :
    ∃ row time, t.find? id = some row ∧ stamp? now = some time ∧
      (revise now id v (revise now id u t).2).2 =
        t.replace id ((row.revised u time).revised v time) := by
  obtain ⟨row, time, hrow, htime, hu'⟩ := revise_of_ok hu
  rw [← revise_after ht now id u v] at hv
  obtain ⟨row', time', hrow', htime', hv'⟩ := revise_of_ok hv
  have hid : (row.revised u time).profile.id = id :=
    (row.revised_id u time).trans (Table.id_of_find? hrow)
  rw [hu', Table.find?_replace_self hid, hrow] at hrow'
  rw [htime] at htime'
  obtain rfl : row.revised u time = row' := Option.some.inj hrow'
  obtain rfl : time = time' := Option.some.inj htime'
  refine ⟨row, time, hrow, htime, ?_⟩
  rw [hv', hu', Table.replace_replace hid]

/-- Revisions of different fields leave the same table in both orders. -/
theorem Store.revise_comm (ht : t.Distinct) (h : u.Apart v) :
    (revise now id v (revise now id u t).2).2 = (revise now id u (revise now id v t).2).2 := by
  by_cases hu : (revise now id u t).1.map Option.isSome = .ok true
  · by_cases hv : (revise now id v t).1.map Option.isSome = .ok true
    · obtain ⟨row, time, hrow, htime, huv⟩ := revise_twice ht hu hv
      obtain ⟨row', time', hrow', htime', hvu⟩ := revise_twice ht hv hu
      rw [hrow] at hrow'
      rw [htime] at htime'
      obtain rfl : row = row' := Option.some.inj hrow'
      obtain rfl : time = time' := Option.some.inj htime'
      rw [huv, hvu, row.revised_comm h]
    · have hafter := hv
      rw [← revise_after ht now id u v] at hafter
      rw [revise_of_not_ok hafter, revise_of_not_ok hv]
  · have hafter := hu
    rw [← revise_after ht now id v u] at hafter
    rw [revise_of_not_ok hafter, revise_of_not_ok hu]

/-! ## Actions -/

/-- What an answer comes to: success, or the error. -/
def outcome (answer : Except Error α) : Except Error Unit := answer.map fun _ => ()

theorem outcome_map {β : Type} (f : α → β) (answer : Except Error α) :
    outcome (answer.map f) = outcome answer := by
  cases answer <;> rfl

/-- What the store answers by the outcome of a revision. -/
def Store.reply : Except Fault (Option Row) → Except Error Account
  | .ok (some row) => .ok row.account
  | .ok none => .error (.failure { cause := .unknownAccount })
  | .error .conflict => .error (.failure { cause := .emailTaken })
  | .error fault => .error (.store fault)

theorem Store.outcome_reply {x y : Except Fault (Option Row)}
    (h : x.map Option.isSome = y.map Option.isSome) : outcome (reply x) = outcome (reply y) := by
  rcases x with fault | _ | row <;> rcases y with fault' | _ | row' <;> cases h <;> rfl

theorem Store.update_run (hs : w.Sound) (id : Uuid) (d : Details) :
    ((update id d).run w).1 = reply (revise w.now id d w.table).1 ∧
      ((update id d).run w).2.table = (revise w.now id d w.table).2 := by
  unfold update
  rw [run_bind, run_statement, World.runStatement_of_no_fault hs.no_fault]
  dsimp only
  rw [show (Store.Statement.revise id d).run w.now _ w.table = revise w.now id d w.table from rfl]
  rcases revise w.now id d w.table with ⟨fault | _ | row, t'⟩
  · cases fault <;> exact ⟨rfl, rfl⟩
  · exact ⟨rfl, rfl⟩
  · exact ⟨rfl, rfl⟩

namespace Identity

/-- Operations come to the same when what they run does. -/
theorem outcome_operation {a : Action α} (name : String)
    (h : outcome (a.run w).1 = outcome (a.run w').1) :
    outcome ((operation name a).run w).1 = outcome ((operation name a).run w').1 := by
  unfold operation
  rw [run_tryCatch, run_tryCatch]
  generalize a.run w = result at h ⊢
  generalize a.run w' = result' at h ⊢
  rcases result with ⟨e | x, w₁⟩ <;> rcases result' with ⟨e' | x', w₁'⟩ <;> cases h
  · cases e with
    | failure f => rfl
    | store fault => cases fault <;> rfl
    | token fault => rfl
    | claims fault => rfl
    | encoding fault => rfl
  · rfl

/-- A change comes to the same when its revision does. -/
theorem outcome_update (hs : w.Sound) (hs' : w'.Sound)
    (h : (Store.revise w.now id d.normal w.table).1.map Option.isSome =
      (Store.revise w'.now id d.normal w'.table).1.map Option.isSome) :
    outcome ((update id d).run w).1 = outcome ((update id d).run w').1 := by
  by_cases hvalid : d.normal.violations = []
  · rw [update_of_valid w id hvalid, update_of_valid w' id hvalid]
    refine outcome_operation _ ?_
    rw [run_bind_pure, run_bind_pure, outcome_map, outcome_map, (Store.update_run hs id _).1,
      (Store.update_run hs' id _).1]
    exact Store.outcome_reply h
  · rw [update_of_broken w id hvalid, update_of_broken w' id hvalid]

/-- A change that breaks no rule does to the table what its revision does. -/
theorem update_table (hs : w.Sound) (id : Uuid) (d : Details) :
    ((update id d).run w).2.table =
      if d.normal.violations = [] then (Store.revise w.now id d.normal w.table).2 else w.table := by
  by_cases hvalid : d.normal.violations = []
  · have hprepare : d.prepare = .ok d.normal := by
      unfold Details.prepare
      rw [hvalid]
      rfl
    rw [if_pos hvalid, update_eq, run_bind_table (revised id d) fun account =>
      (asks_invalidate "identity.update" id).bind fun _ => asks_pure _]
    unfold revised
    rw [operation_table, hprepare, accept_ok, pure_bind, run_bind_pure]
    exact (Store.update_run hs id d.normal).2
  · rw [if_neg hvalid]
    exact (update_error (update_of_broken w id hvalid)).1

end Identity

/-! ## Changes in turn -/

/-- A change of an account that meets no fault. -/
def changeOf (setup : Setup) (id : Uuid) (d : Details) (w : World) : Record :=
  (Move.mk (.update id d) {}).record setup w

/-- What a move comes to: success, or the error. -/
def Record.outcome (x : Record) : Except Error Unit := Accounts.outcome x.answer

theorem changeOf_now (setup : Setup) (id : Uuid) (d : Details) (w : World) :
    (changeOf setup id d w).after.now = w.now := by
  unfold changeOf
  rw [Move.record_now, Step.run_update]
  exact Action.run_now _ _

theorem changeOf_table (setup : Setup) (id : Uuid) (d : Details) (w : World) :
    (changeOf setup id d w).after.table =
      if d.normal.violations = [] then (Store.revise w.now id d.normal w.table).2 else w.table := by
  unfold changeOf
  rw [Move.record_table, Step.run_update]
  exact Identity.update_table w.sound_of_no_faults id d

theorem changeOf_outcome (setup : Setup) (id : Uuid) (d : Details) (w : World) :
    (changeOf setup id d w).outcome = outcome ((Identity.update id d).run (w.facing {})).1 := by
  unfold changeOf Record.outcome
  rw [Move.record_update_answer, outcome_map]

/-- What a change comes to does not depend on another one before it. -/
theorem changeOf_outcome_after (hw : w.table.Distinct) (setup : Setup) (id : Uuid) (u v : Details) :
    (changeOf setup id v (changeOf setup id u w).after).outcome =
      (changeOf setup id v w).outcome := by
  rw [changeOf_outcome, changeOf_outcome]
  refine Identity.outcome_update (World.sound_of_no_faults _) (World.sound_of_no_faults _) ?_
  show (Store.revise (changeOf setup id u w).after.now id v.normal
    (changeOf setup id u w).after.table).1.map _ = (Store.revise w.now id v.normal w.table).1.map _
  rw [changeOf_now, changeOf_table]
  split
  · exact Store.revise_after hw w.now id u.normal v.normal
  · rfl

/-- A change that succeeds gives whole texts, and leaves the changed row. -/
theorem changeOf_ok (h : (changeOf setup id d w).outcome = .ok ()) :
    d.normal.changes.isWhole = true ∧ ∃ old time, w.table.find? id = some old ∧
      (changeOf setup id d w).after.table.find? id = some (old.revised d.normal time) := by
  rw [changeOf_outcome] at h
  unfold changeOf
  rw [Move.record_table, Step.run_update]
  rcases Identity.update_cases (w.facing {}) id d with ⟨⟨e, herror⟩, -⟩ |
    ⟨prepared, old, time, hprepared, hold, -, -, htable⟩
  · rw [herror] at h
    cases h
  · obtain ⟨rfl, hnone⟩ := prepare_eq_ok hprepared
    have hid := (old.revised_id d.normal time).trans (Store.Table.id_of_find? hold)
    have hwhole : d.normal.changes.isWhole = true := by
      by_contra hbroken
      rw [Identity.update_of_brokenText w.sound_of_no_faults id (Except.ok.inj hnone)
        (Bool.not_eq_true _ ▸ hbroken)] at h
      cases h
    refine ⟨hwhole, old, time, hold, ?_⟩
    dsimp only
    rw [htable, Store.Table.find?_replace_self hid, hold]
    rfl

/-- Two changes of an account come to the same in both orders. -/
structure ChangesCommute (setup : Setup) (id : Uuid) (u v : Details) (w : World) : Prop where
  table : (changeOf setup id v (changeOf setup id u w).after).after.table =
    (changeOf setup id u (changeOf setup id v w).after).after.table
  /-- Each change succeeds, or fails with the same error, whether it comes first or second. -/
  one : (changeOf setup id u (changeOf setup id v w).after).outcome =
    (changeOf setup id u w).outcome
  other : (changeOf setup id v (changeOf setup id u w).after).outcome =
    (changeOf setup id v w).outcome
  /-- No change is lost. -/
  both : (changeOf setup id u w).outcome = .ok () → (changeOf setup id v w).outcome = .ok () →
    ∃ row, (changeOf setup id v (changeOf setup id u w).after).after.table.find? id = some row ∧
      row.Has u.normal ∧ row.Has v.normal

theorem changes_commute (hw : w.table.Distinct) (h : u.normal.Apart v.normal) (setup : Setup)
    (id : Uuid) : ChangesCommute setup id u v w where
  table := by
    rw [changeOf_table, changeOf_now, changeOf_table, changeOf_table, changeOf_now, changeOf_table]
    by_cases hu : u.normal.violations = []
    · by_cases hv : v.normal.violations = []
      · rw [if_pos hu, if_pos hv, if_pos hu, if_pos hv]
        exact Store.revise_comm hw h
      · rw [if_neg hv, if_neg hv]
    · rw [if_neg hu, if_neg hu]
  one := changeOf_outcome_after hw setup id v u
  other := changeOf_outcome_after hw setup id u v
  both hu hv := by
    rw [← changeOf_outcome_after hw setup id u v] at hv
    obtain ⟨hwhole, old, time, -, hu'⟩ := changeOf_ok hu
    obtain ⟨hwhole', old', time', hold', hv'⟩ := changeOf_ok hv
    obtain rfl : old.revised u.normal time = old' := Option.some.inj (hu'.symm.trans hold')
    exact ⟨_, hv', (old.has_revised hwhole time).revised h time', Store.Row.has_revised hwhole' _ _⟩

/-- **Changes of different fields commute.**  In every state that a run can reach, two changes of one
account without a common field leave the same table in both orders, each of them comes to the same
whether it is made first or second, and when both succeed the account has the fields of both. -/
theorem separate_changes_commute (setup : Setup) (now : Instant) (salt : String) (faults : Faults)
    (moves : List Move) (id : Uuid) (u v : Details)
    (h : ∀ name ∈ u.normal.changedFields, name ∉ v.normal.changedFields) :
    ChangesCommute setup id u v (finish setup moves (World.started setup now salt faults)) := by
  refine changes_commute (finish_distinct ?_) (Details.apart_of_changedFields h) setup id
  rw [(World.started_empty setup now salt faults).table]
  exact .nil

/-- A change of the sample account that asks for no email succeeds. -/
theorem sample_change {setup : Setup} (htable : (sampleWorld setup).table = [row])
    (hfits : Store.fitsColumn d.postcode = true) (hvalid : d.normal.violations = [])
    (hwhole : d.normal.changes.isWhole = true) (hemail : d.normal.email = none) :
    (changeOf setup row.profile.id d (sampleWorld setup)).outcome = .ok () := by
  obtain ⟨time, htime⟩ : ∃ time, Store.stamp? 0 = some time :=
    Option.isSome_iff_exists.1 (by decide +kernel)
  rw [← sampleWorld_now setup] at htime
  have hdistinct : (sampleWorld setup).table.Distinct := by
    rw [htable]
    exact ⟨List.pairwise_singleton _ _, List.pairwise_singleton _ _⟩
  have hrow : (sampleWorld setup).table.find? row.profile.id = some row :=
    Store.Table.find?_singleton htable
  have hfree : d.EmailFree row.profile.id (sampleWorld setup).table := by
    intro email hasked
    rw [hemail] at hasked
    cases hasked
  have hupdate := Move.record_update hdistinct htime hfits setup row.profile.id
  obtain ⟨answer, hanswer⟩ := hupdate.succeeds.2 ⟨hvalid, hwhole, ⟨row, hrow⟩, hfree⟩
  unfold changeOf Record.outcome
  rw [hanswer]
  rfl

/-- A name and a city, asked for one after the other, are both there afterwards. -/
theorem separate_changes_commute_sample :
    let u : Details := { firstName := some " Grace " }
    let v : Details := { city := some "Lyon" }
    (∀ name ∈ u.normal.changedFields, name ∉ v.normal.changedFields) ∧
    ∃ id row, (changeOf .sample id v (changeOf .sample id u (sampleWorld .sample)).after).after.table.find?
        id = some row ∧ row.profile.firstName = "Grace" ∧ row.profile.city = some "Lyon" := by
  intro u v
  have hseparate : ∀ name ∈ u.normal.changedFields, name ∉ v.normal.changedFields := by
    decide +kernel
  obtain ⟨row, -, htable⟩ := sampleWorld_table .sample
  have hcommute : ChangesCommute .sample row.profile.id u v (sampleWorld .sample) :=
    separate_changes_commute .sample 0 sampleSalt {} sampleEnrolment row.profile.id u v hseparate
  obtain ⟨row', hrow', hu, hv⟩ := hcommute.both
    (sample_change htable (by decide) (by decide +kernel) (by decide +kernel) rfl)
    (sample_change htable (by decide) (by decide +kernel) (by decide +kernel) rfl)
  have hname : charsOf (u.normal.changes.text .firstName) = some "Grace" := by decide +kernel
  have hcity : charsOf (v.normal.changes.text .city) = some "Lyon" := by decide +kernel
  exact ⟨hseparate, row.profile.id, row', hrow', Option.some.inj (hu.texts .firstName "Grace" hname),
    hv.texts .city "Lyon" hcity⟩

end Accounts
