import Accounts.Proofs.Calendar.Instant
import Accounts.Store.Statement

/-!
# What statements do to the table

Every statement leaves the table alone, adds one row at its end, replaces the row of one identifier
or takes it away.  So identifiers and emails stay distinct, and the rows of other identifiers stay as
they are:

    (t.replace id row).remove id = t.remove id      for a row of the identifier
    (t.replace id row).find? other = t.find? other  for another identifier
-/

namespace Accounts.Store

open Calendar

variable {t t' : Table} {row : Row} {id other : Uuid} {email : String}

namespace Table

/-! ## Looking up -/

theorem find?_append_singleton (t : Table) (row : Row) (id : Uuid) :
    find? (t ++ [row]) id = (t.find? id).or (if row.profile.id = id then some row else none) := by
  unfold find?
  rw [List.find?_append]
  congr 1
  by_cases h : row.profile.id = id <;> simp [h]

theorem id_of_find? (h : t.find? id = some row) : row.profile.id = id := by
  simpa using List.find?_some h

theorem mem_of_find? (h : t.find? id = some row) : row ∈ t := List.mem_of_find?_eq_some h

theorem find?_singleton (h : t = [row]) : t.find? row.profile.id = some row := by
  rw [h]
  exact List.find?_cons_of_pos (decide_eq_true rfl)

theorem find?_eq_none : t.find? id = none ↔ ∀ row ∈ t, row.profile.id ≠ id := by
  simp [find?]

theorem email_of_findEmail? (h : t.findEmail? email = some row) : row.profile.email = email := by
  simpa using List.find?_some h

theorem mem_of_findEmail? (h : t.findEmail? email = some row) : row ∈ t :=
  List.mem_of_find?_eq_some h

theorem findEmail?_eq_none : t.findEmail? email = none ↔ ∀ row ∈ t, row.profile.email ≠ email := by
  simp [findEmail?]

/-! ## Other rows -/

theorem find?_replace_self (h : row.profile.id = id) :
    (t.replace id row).find? id = (t.find? id).map fun _ => row := by
  induction t with
  | nil => rfl
  | cons r t ih =>
    by_cases hr : r.profile.id = id
    · simp [replace, find?, hr, h]
    · simpa [replace, find?, hr] using ih

theorem find?_replace_of_ne (h : row.profile.id = id) (ho : other ≠ id) :
    (t.replace id row).find? other = t.find? other := by
  induction t with
  | nil => rfl
  | cons r t ih =>
    by_cases hr : r.profile.id = id
    · have hrow : row.profile.id ≠ other := by rw [h]; exact ho.symm
      simpa [replace, find?, hr, hrow, ho.symm] using ih
    · by_cases hother : r.profile.id = other
      · simp [replace, find?, hother, ho]
      · simpa [replace, find?, hr, hother] using ih

theorem remove_replace (h : row.profile.id = id) : (t.replace id row).remove id = t.remove id := by
  induction t with
  | nil => rfl
  | cons r t ih =>
    by_cases hr : r.profile.id = id
    · simpa [replace, remove, hr, h] using ih
    · simpa [replace, remove, hr] using ih

theorem replace_replace {row' : Row} (h : row.profile.id = id) :
    (t.replace id row).replace id row' = t.replace id row' := by
  unfold replace
  rw [List.map_map]
  refine List.map_congr_left fun r _ => ?_
  by_cases hr : r.profile.id = id
  · simp [hr, h]
  · simp [hr]

/-- The row of an identifier does not stand in its own way. -/
theorem takenByOther_replace (h : row.profile.id = id) :
    (t.replace id row).takenByOther id email = t.takenByOther id email := by
  unfold takenByOther replace
  rw [List.any_map]
  congr 1
  funext r
  by_cases hr : r.profile.id = id
  · simp [hr, h]
  · simp [hr]

theorem find?_remove_self (t : Table) (id : Uuid) : (t.remove id).find? id = none := by
  rw [find?_eq_none]
  intro row hrow
  simpa using (List.mem_filter.1 hrow).2

theorem find?_remove_of_ne (ho : other ≠ id) : (t.remove id).find? other = t.find? other := by
  unfold find? remove
  rw [List.find?_filter]
  congr 1
  funext row
  by_cases h : row.profile.id = other <;> simp [h, ho]

theorem remove_remove (t : Table) (id : Uuid) : (t.remove id).remove id = t.remove id := by
  simp [remove, List.filter_filter]

/-! ## Distinct rows -/

/-- No identifier and no email occurs twice. -/
structure Distinct (t : Table) : Prop where
  ids : t.Pairwise fun a b => a.profile.id ≠ b.profile.id
  emails : t.Pairwise fun a b => a.profile.email ≠ b.profile.email

theorem Distinct.nil : Distinct [] := ⟨.nil, .nil⟩

/-- Of distinct rows, a row is the one of its identifier. -/
theorem Distinct.find? (h : Distinct t) (hrow : row ∈ t) : t.find? row.profile.id = some row := by
  induction t with
  | nil => cases hrow
  | cons r t ih =>
    rcases List.mem_cons.1 hrow with rfl | hrow
    · simp [Table.find?]
    · have hne : r.profile.id ≠ row.profile.id := (List.pairwise_cons.1 h.ids).1 row hrow
      have htail : Distinct t := ⟨(List.pairwise_cons.1 h.ids).2, (List.pairwise_cons.1 h.emails).2⟩
      simpa [Table.find?, hne] using ih htail hrow

/-- Of distinct rows, a row is the one of its email. -/
theorem Distinct.findEmail? (h : Distinct t) (hrow : row ∈ t) :
    t.findEmail? row.profile.email = some row := by
  induction t with
  | nil => cases hrow
  | cons r t ih =>
    rcases List.mem_cons.1 hrow with rfl | hrow
    · simp [Table.findEmail?]
    · have hne : r.profile.email ≠ row.profile.email := (List.pairwise_cons.1 h.emails).1 row hrow
      have htail : Distinct t := ⟨(List.pairwise_cons.1 h.ids).2, (List.pairwise_cons.1 h.emails).2⟩
      simpa [Table.findEmail?, hne] using ih htail hrow

/-- Of distinct rows, the email of a row belongs to no other one. -/
theorem Distinct.not_takenByOther (h : Distinct t) (hrow : t.find? id = some row) :
    t.takenByOther id row.profile.email = false := by
  refine List.any_eq_false.2 fun r hr htaken => ?_
  rw [Bool.and_eq_true, decide_eq_true_eq, bne_iff_ne] at htaken
  have hsame : some r = some row := by
    rw [← h.findEmail? hr, htaken.1, h.findEmail? (mem_of_find? hrow)]
  exact htaken.2 (Option.some.inj hsame ▸ id_of_find? hrow)

theorem Distinct.append (h : Distinct t) (hid : t.find? row.profile.id = none)
    (hemail : t.findEmail? row.profile.email = none) : Distinct (t ++ [row]) := by
  rw [find?_eq_none] at hid
  rw [findEmail?_eq_none] at hemail
  refine ⟨List.pairwise_append.2 ⟨h.ids, List.pairwise_singleton _ _, ?_⟩,
    List.pairwise_append.2 ⟨h.emails, List.pairwise_singleton _ _, ?_⟩⟩
  · intro r hr s hs
    rw [List.mem_singleton.1 hs]
    exact hid r hr
  · intro r hr s hs
    rw [List.mem_singleton.1 hs]
    exact hemail r hr

theorem Distinct.remove (h : Distinct t) (id : Uuid) : Distinct (t.remove id) :=
  ⟨h.ids.filter _, h.emails.filter _⟩

theorem Distinct.replace (h : Distinct t) (hid : row.profile.id = id)
    (hemail : t.takenByOther id row.profile.email = false) : Distinct (t.replace id row) := by
  have hfree : ∀ r ∈ t, r.profile.id ≠ id → r.profile.email ≠ row.profile.email := by
    intro r hr hne heq
    rw [takenByOther, List.any_eq_false] at hemail
    exact hemail r hr (by simp [heq, hne])
  refine ⟨List.pairwise_map.2 (h.ids.imp ?_), List.pairwise_map.2 ?_⟩
  · intro a b hab
    by_cases ha : a.profile.id = id <;> by_cases hb : b.profile.id = id
    · exact absurd (ha.trans hb.symm) hab
    · simp only [ha, hb, if_true, if_false, hid]
      exact Ne.symm hb
    · simp only [ha, hb, if_true, if_false, hid]
      exact ha
    · simpa only [ha, hb, if_false] using hab
  · refine (h.ids.and h.emails).imp_of_mem ?_
    intro a b ha hb hab
    by_cases hai : a.profile.id = id <;> by_cases hbi : b.profile.id = id
    · exact absurd (hai.trans hbi.symm) hab.1
    · simp only [hai, hbi, if_true, if_false]
      exact (hfree b hb hbi).symm
    · simp only [hai, hbi, if_true, if_false]
      exact hfree a ha hai
    · simpa only [hai, hbi, if_false] using hab.2

end Table

/-! ## Statements -/

/-- Whole texts and a postcode that fits can be handed over. -/
theorem bindFault?_eq_none_iff {isWhole : Bool} {postcode : Option Int} :
    bindFault? isWhole postcode = none ↔ isWhole = true ∧ fitsColumn postcode = true := by
  unfold bindFault?
  cases isWhole <;> cases fitsColumn postcode <;> simp

/-- A broken text is refused whatever the postcode is. -/
theorem bindFault?_of_broken {isWhole : Bool} (h : isWhole = false) (postcode : Option Int) :
    bindFault? isWhole postcode = some (.encoding .surrogate) := by
  rw [h]
  rfl

/-- A row is looked for by a whole email only. -/
theorem lookUp_eq_ok_iff {email : LooseText} {t : Table} {found : Option Row} :
    lookUp email t = .ok found ↔ email.isWhole = true ∧ t.findEmail? email.chars = found := by
  unfold lookUp LooseText.whole
  cases email.isWhole <;> simp

/-- The time that statements note is the second of the clock. -/
theorem instant_of_stamp? {now : Instant} {time : DateTime} (h : stamp? now = some time) :
    time.instant = Instant.seconds now * second :=
  (DateTime.instant_of_ofInstant? rfl h).1

/-- There is a time to note in the years 1 to 9999. -/
theorem exists_stamp?_iff {now : Instant} : (∃ time, stamp? now = some time) ↔
    calendarStart ≤ Instant.seconds now * second ∧ Instant.seconds now * second < calendarEnd :=
  DateTime.exists_ofInstant?

theorem insert_cases (now : Instant) (id : Uuid) (draft : Draft) (t : Table) :
    (∃ fault, insert now id draft t = (.error fault, t)) ∨
    ∃ email time, draft.email = some email ∧ stamp? now = some time ∧
      bindFault? draft.isWhole draft.postcode = none ∧ t.find? id = none ∧
      t.findEmail? email = none ∧
      insert now id draft t = (.ok (draft.row id email time), t ++ [draft.row id email time]) := by
  unfold insert
  split
  · exact .inl ⟨_, rfl⟩
  · rename_i hfits
    split
    · rename_i email time hemail htime
      dsimp only
      unfold Table.insert?
      split
      · rename_i t' h
        split at h
        · cases h
        · rename_i hfree
          rw [Bool.or_eq_true, not_or, Option.not_isSome_iff_eq_none, Option.not_isSome_iff_eq_none]
            at hfree
          cases h
          exact .inr ⟨email, time, hemail, htime, hfits, hfree.1, hfree.2, rfl⟩
      · exact .inl ⟨_, rfl⟩
    · exact .inl ⟨_, rfl⟩

/-- A draft is inserted when nothing is in its way. -/
theorem insert_of_free {now : Instant} {id : Uuid} {draft : Draft} {t : Table} {email : String}
    {time : DateTime} (hfits : bindFault? draft.isWhole draft.postcode = none)
    (hemail : draft.email = some email) (htime : stamp? now = some time) (hid : t.find? id = none)
    (hfree : t.findEmail? email = none) : insert now id draft t =
      (.ok (draft.row id email time), t ++ [draft.row id email time]) := by
  have hrow : t.insert? (draft.row id email time) = some (t ++ [draft.row id email time]) := by
    unfold Table.insert? Draft.row
    dsimp only
    rw [hid, hfree]
    rfl
  unfold insert
  rw [hfits, hemail, htime]
  dsimp only
  rw [hrow]

/-- Values that cannot be handed over are refused before the table is looked at. -/
theorem insert_of_fault {now : Instant} {id : Uuid} {draft : Draft} {t : Table} {fault : Fault}
    (h : bindFault? draft.isWhole draft.postcode = some fault) :
    insert now id draft t = (.error fault, t) := by
  unfold insert
  rw [h]

/-- The index on the emails refuses a draft whose email is taken. -/
theorem insert_of_taken {now : Instant} {id : Uuid} {draft : Draft} {t : Table} {email : String}
    {row : Row} (hfits : bindFault? draft.isWhole draft.postcode = none)
    (hemail : draft.email = some email) (htaken : t.findEmail? email = some row) :
    insert now id draft t = (.error .conflict, t) := by
  unfold insert
  rw [hfits, hemail]
  cases stamp? now with
  | none => rfl
  | some time =>
    have hrow : t.insert? (draft.row id email time) = none := by
      unfold Table.insert? Draft.row
      dsimp only
      rw [htaken, Option.isSome_some, Bool.or_true]
      rfl
    dsimp only
    rw [hrow]

theorem revise_cases (now : Instant) (id : Uuid) (details : Details) (t : Table) :
    (∃ fault, revise now id details t = (.error fault, t)) ∨
    (t.find? id = none ∧ revise now id details t = (.ok none, t)) ∨
    ∃ row time, t.find? id = some row ∧ stamp? now = some time ∧
      bindFault? details.changes.isWhole details.changes.postcode = none ∧
      t.takenByOther id (row.revised details time).profile.email = false ∧
      revise now id details t =
        (.ok (some (row.revised details time)), t.replace id (row.revised details time)) := by
  unfold revise
  split
  · exact .inl ⟨_, rfl⟩
  · rename_i hfits
    split
    · rename_i hrow
      exact .inr (.inl ⟨hrow, rfl⟩)
    · rename_i row hrow
      split
      · exact .inl ⟨_, rfl⟩
      · rename_i time htime
        dsimp only
        split
        · exact .inl ⟨_, rfl⟩
        · rename_i hfree
          exact .inr (.inr ⟨row, time, hrow, htime, hfits, by simpa using hfree, rfl⟩)

theorem Row.revised_id (row : Row) (d : Details) (time : DateTime) :
    (row.revised d time).profile.id = row.profile.id := rfl

/-- The table after a statement: the same, one row more, or another row of one identifier or none. -/
theorem Statement.run_cases (s : Statement) (now : Instant) (new : Uuid) (t : Table) :
    (s.run now new t).2 = t ∨
    (∃ draft email time, s = .insert draft ∧ t.find? new = none ∧ t.findEmail? email = none ∧
      fitsColumn draft.postcode = true ∧ (s.run now new t).2 = t ++ [draft.row new email time]) ∨
    (∃ id d row time, s = .revise id d ∧ t.find? id = some row ∧
      fitsColumn d.changes.postcode = true ∧
      t.takenByOther id (row.revised d time).profile.email = false ∧
      (s.run now new t).2 = t.replace id (row.revised d time)) ∨
    ∃ id, s = .remove id ∧ (s.run now new t).2 = t.remove id := by
  cases s with
  | insert draft =>
    rcases insert_cases now new draft t with ⟨fault, h⟩ | ⟨email, time, -, -, hfits, hid, hemail, h⟩
    · exact .inl (congrArg Prod.snd h)
    · exact .inr (.inl ⟨draft, email, time, rfl, hid, hemail, (bindFault?_eq_none_iff.1 hfits).2,
        congrArg Prod.snd h⟩)
  | revise id d =>
    rcases revise_cases now id d t with ⟨fault, h⟩ | ⟨-, h⟩ | ⟨row, time, hrow, -, hfits, hfree, h⟩
    · exact .inl (congrArg Prod.snd h)
    · exact .inl (congrArg Prod.snd h)
    · exact .inr (.inr (.inl ⟨id, d, row, time, rfl, hrow, (bindFault?_eq_none_iff.1 hfits).2, hfree,
        congrArg Prod.snd h⟩))
  | remove id => exact .inr (.inr (.inr ⟨id, rfl, rfl⟩))
  | findById id => exact .inl rfl
  | findByEmail email => exact .inl rfl
  | probe => exact .inl rfl

/-- The rows after a statement go by identifiers that were there, or by the one that an insertion
gives. -/
theorem Statement.run_ids (s : Statement) (now : Instant) (new : Uuid) (t : Table)
    (h : row ∈ (s.run now new t).2) :
    (∃ old ∈ t, old.profile.id = row.profile.id) ∨
      (∃ draft, s = .insert draft) ∧ row.profile.id = new := by
  rcases s.run_cases now new t with heq | ⟨draft, email, time, rfl, -, -, -, heq⟩ |
    ⟨owner, d, old, time, -, hold, -, -, heq⟩ | ⟨owner, -, heq⟩
  all_goals rw [heq] at h
  · exact .inl ⟨row, h, rfl⟩
  · rcases List.mem_append.1 h with h | h
    · exact .inl ⟨row, h, rfl⟩
    · rw [List.mem_singleton.1 h]
      exact .inr ⟨⟨draft, rfl⟩, rfl⟩
  · obtain ⟨r, hr, rfl⟩ := List.mem_map.1 h
    split
    · exact .inl ⟨old, Table.mem_of_find? hold, rfl⟩
    · exact .inl ⟨r, hr, rfl⟩
  · exact .inl ⟨row, (List.mem_filter.1 h).1, rfl⟩

/-- A statement that changes or deletes the row of an identifier. -/
def Rewrites (id : Uuid) : Statement → Prop
  | .revise other _ | .remove other => other = id
  | _ => False

/-- A statement that only reads the table. -/
def Reads : Statement → Prop
  | .findById _ | .findByEmail _ | .probe => True
  | _ => False

theorem Reads.not_rewrites {s : Statement} (h : Reads s) (id : Uuid) : ¬ Rewrites id s := by
  cases s with
  | insert | revise | remove => exact h.elim
  | findById | findByEmail | probe => exact not_false

theorem Reads.run_table {s : Statement} (h : Reads s) (now : Instant) (new : Uuid) (t : Table) :
    (s.run now new t).2 = t := by
  cases s with
  | insert | revise | remove => exact h.elim
  | findById | findByEmail | probe => rfl

/-- A statement that rewrites no row keeps every row. -/
theorem Statement.run_keeps_row (s : Statement) (now : Instant) (new : Uuid)
    (hs : ∀ id, ¬ Rewrites id s) (h : t.find? id = some row) :
    (s.run now new t).2.find? id = some row := by
  rcases s.run_cases now new t with heq | ⟨draft, email, time, -, -, -, -, heq⟩ |
    ⟨owner, d, old, time, rfl, -, -, -, -⟩ | ⟨owner, rfl, -⟩
  · rw [heq, h]
  · rw [heq, Table.find?_append_singleton, h, Option.some_or]
  · exact absurd rfl (hs owner)
  · exact absurd rfl (hs owner)

/-- A statement that rewrites only the row of an identifier leaves the rest of the table alone. -/
theorem Statement.run_keeps_rest (s : Statement) (now : Instant) (new : Uuid) (t : Table)
    (hs : Rewrites id s) : (s.run now new t).2.remove id = t.remove id := by
  rcases s.run_cases now new t with heq | ⟨draft, email, time, rfl, -, -, -, -⟩ |
    ⟨owner, d, old, time, rfl, hold, -, -, heq⟩ | ⟨owner, rfl, heq⟩
  · rw [heq]
  · exact hs.elim
  · rw [heq, ← show owner = id from hs]
    exact Table.remove_replace ((old.revised_id d time).trans (Table.id_of_find? hold))
  · rw [heq, ← show owner = id from hs, Table.remove_remove]

/-- The postcodes of all rows fit their column. -/
def Table.Fits (t : Table) : Prop := ∀ row ∈ t, fitsColumn row.profile.postcode = true

/-- A statement lets no postcode in that does not fit. -/
theorem Statement.run_fits (s : Statement) (now : Instant) (new : Uuid) (h : Table.Fits t) :
    Table.Fits (s.run now new t).2 := by
  rcases s.run_cases now new t with heq | ⟨draft, email, time, -, -, -, hfits, heq⟩ |
    ⟨owner, d, old, time, -, hold, hfits, -, heq⟩ | ⟨owner, -, heq⟩
  · rwa [heq]
  · rw [heq]
    intro row hrow
    rcases List.mem_append.1 hrow with hrow | hrow
    · exact h row hrow
    · rw [List.mem_singleton.1 hrow]
      exact hfits
  · rw [heq]
    intro row hrow
    obtain ⟨r, hr, rfl⟩ := List.mem_map.1 hrow
    split
    · show fitsColumn (d.changes.postcode.or old.profile.postcode) = true
      rcases hp : d.changes.postcode with _ | n
      · exact h old (Table.mem_of_find? hold)
      · rw [hp] at hfits
        exact hfits
    · exact h r hr
  · rw [heq]
    exact fun row hrow => h row (List.mem_filter.1 hrow).1

/-- A statement keeps identifiers and emails distinct. -/
theorem Statement.run_distinct (s : Statement) (now : Instant) (new : Uuid)
    (h : Table.Distinct t) : Table.Distinct (s.run now new t).2 := by
  rcases s.run_cases now new t with heq | ⟨draft, email, time, -, hid, hemail, -, heq⟩ |
    ⟨id, d, row, time, -, hrow, -, hfree, heq⟩ | ⟨id, -, heq⟩
  · rwa [heq]
  · rw [heq]
    exact h.append hid hemail
  · rw [heq]
    exact h.replace ((row.revised_id d time).trans (Table.id_of_find? hrow)) hfree
  · rw [heq]
    exact h.remove id

end Accounts.Store
