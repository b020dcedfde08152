import Accounts.Proofs.Program.Asks
import Accounts.Proofs.Store.Table

/-!
# What the answers of the world change

Every request changes one part of the world.  A statement changes the table and counts the
insertions, a command changes the keys, and both use up a fault of their own; an event is only added
to the log.  Nothing that a program asks for moves the clock or renews the salt.
-/

namespace Accounts

variable {α : Type} {w : World} {r : Request}

namespace World

/-! ## Statements -/

/-- The world after a statement was tried: the insertion is counted, and a fault is used up. -/
def tried (w : World) (s : Store.Statement) : World :=
  { w with
    insertions := if isInsertion s then w.insertions + 1 else w.insertions
    faults := { w.faults with sql := w.faults.sql.drop 1 } }

/-- The identifier that a statement gives, if it is an insertion. -/
def newId (w : World) (s : Store.Statement) : Uuid := insertionId (w.tried s).insertions

theorem runStatement_of_fault {s : Store.Statement} {fault : Store.Fault}
    (h : w.faults.sql.head?.join = some fault) :
    w.runStatement s = (.error fault, w.tried s) := by
  unfold runStatement
  rw [h]
  rfl

theorem runStatement_of_no_fault {s : Store.Statement} (h : w.faults.sql.head?.join = none) :
    w.runStatement s = ((s.run w.now (w.newId s) w.table).1,
      { w.tried s with table := (s.run w.now (w.newId s) w.table).2 }) := by
  unfold runStatement
  rw [h]
  rfl

/-- A statement that succeeds has met no fault. -/
theorem runStatement_eq_ok {s : Store.Statement} {result : s.Result}
    (h : (w.runStatement s).1 = .ok result) : (s.run w.now (w.newId s) w.table).1 = .ok result := by
  cases hfault : w.faults.sql.head?.join with
  | some fault =>
    rw [runStatement_of_fault hfault] at h
    cases h
  | none =>
    rw [runStatement_of_no_fault hfault] at h
    exact h

/-- The table after a statement is the same one, or what the statement makes of it. -/
theorem runStatement_table (w : World) (s : Store.Statement) :
    (w.runStatement s).2.table = w.table ∨
      (w.runStatement s).2.table = (s.run w.now (w.newId s) w.table).2 := by
  cases h : w.faults.sql.head?.join with
  | none => exact .inr (by rw [runStatement_of_no_fault h])
  | some fault => exact .inl (by rw [runStatement_of_fault h]; rfl)

/-- A statement that is an insertion is counted, even if it fails. -/
theorem runStatement_insertions (w : World) (s : Store.Statement) :
    (w.runStatement s).2.insertions = w.insertions + if isInsertion s then 1 else 0 := by
  have htried : (w.tried s).insertions = w.insertions + if isInsertion s then 1 else 0 := by
    unfold tried
    split <;> rfl
  cases h : w.faults.sql.head?.join with
  | some fault => rw [runStatement_of_fault h, htried]
  | none => rw [runStatement_of_no_fault h, ← htried]

theorem runStatement_frame (w : World) (s : Store.Statement) :
    (w.runStatement s).2.now = w.now ∧ (w.runStatement s).2.keys = w.keys ∧
      (w.runStatement s).2.attached = w.attached ∧ (w.runStatement s).2.salt = w.salt ∧
      (w.runStatement s).2.events = w.events := by
  cases h : w.faults.sql.head?.join with
  | none => simp [runStatement_of_no_fault h, tried]
  | some fault => simp [runStatement_of_fault h, tried]

/-! ## Commands -/

theorem runCommand_of_detached {c : Cache.Command} (h : w.attached = false) :
    w.runCommand c = (.detached, w) := by
  simp [runCommand, h]

/-- A command over the connection fails and leaves the keys alone, or does its work. -/
theorem runCommand_cases {c : Cache.Command} (h : w.attached = true) :
    (∃ fault, w.runCommand c = (.failed fault, { w with faults := (Faults.next w.faults c).2 })) ∨
    (∃ fault, (c.run w.now w.keys).1 = .error fault ∧ w.runCommand c = (.failed fault,
      { w with faults := (Faults.next w.faults c).2, keys := (c.run w.now w.keys).2 })) ∨
    ∃ result, (c.run w.now w.keys).1 = .ok result ∧ w.runCommand c = (.ok result,
      { w with faults := (Faults.next w.faults c).2, keys := (c.run w.now w.keys).2 }) := by
  unfold runCommand
  rw [if_neg (by simp [h])]
  rcases hf : Faults.next w.faults c with ⟨_ | fault, faults⟩
  · rcases hc : c.run w.now w.keys with ⟨fault | result, keys⟩
    · exact .inr (.inl ⟨fault, rfl, rfl⟩)
    · exact .inr (.inr ⟨result, rfl, rfl⟩)
  · exact .inl ⟨fault, rfl⟩

/-- The keys after a command are the same, or what the command makes of them. -/
theorem runCommand_keys (w : World) (c : Cache.Command) :
    (w.runCommand c).2.keys = w.keys ∨ (w.runCommand c).2.keys = (c.run w.now w.keys).2 := by
  cases h : w.attached with
  | false => exact .inl (by rw [runCommand_of_detached h])
  | true =>
    rcases runCommand_cases (c := c) h with ⟨_, hc⟩ | ⟨_, -, hc⟩ | ⟨_, -, hc⟩
    · exact .inl (by rw [hc])
    · exact .inr (by rw [hc])
    · exact .inr (by rw [hc])

theorem next_sql (fs : Faults) (c : Cache.Command) : (Faults.next fs c).2.sql = fs.sql := by
  cases c <;> rfl

theorem runCommand_frame (w : World) (c : Cache.Command) :
    (w.runCommand c).2.now = w.now ∧ (w.runCommand c).2.table = w.table ∧
      (w.runCommand c).2.insertions = w.insertions ∧ (w.runCommand c).2.attached = w.attached ∧
      (w.runCommand c).2.salt = w.salt ∧ (w.runCommand c).2.events = w.events ∧
      (w.runCommand c).2.faults.sql = w.faults.sql := by
  cases h : w.attached with
  | false => simp [runCommand_of_detached h, h]
  | true =>
    rcases runCommand_cases (c := c) h with ⟨_, hc⟩ | ⟨_, -, hc⟩ | ⟨_, -, hc⟩ <;>
      simp [hc, h, next_sql]

/-! ## Requests -/

theorem answer_now (w : World) (r : Request) : (w.answer r).2.now = w.now := by
  cases r with
  | sql s => exact (runStatement_frame w s).1
  | cache c => exact (runCommand_frame w c).1
  | clock | salt | log | connection => rfl

theorem answer_salt (w : World) (r : Request) : (w.answer r).2.salt = w.salt := by
  cases r with
  | sql s => exact (runStatement_frame w s).2.2.2.1
  | cache c => exact (runCommand_frame w c).2.2.2.2.1
  | clock | salt | log | connection => rfl

/-- Requests other than statements leave the table alone. -/
theorem answer_table (w : World) (h : ∀ s, r ≠ .sql s) : (w.answer r).2.table = w.table := by
  cases r with
  | sql s => exact absurd rfl (h s)
  | cache c => exact (runCommand_frame w c).2.1
  | clock | salt | log | connection => rfl

/-- Requests other than commands leave the keys alone. -/
theorem answer_keys (w : World) (h : ∀ c, r ≠ .cache c) : (w.answer r).2.keys = w.keys := by
  cases r with
  | sql s => exact (runStatement_frame w s).2.1
  | cache c => exact absurd rfl (h c)
  | clock | salt | log | connection => rfl

theorem answer_attached (w : World) (h : ∀ b, r ≠ .connection b) :
    (w.answer r).2.attached = w.attached := by
  cases r with
  | sql s => exact (runStatement_frame w s).2.2.1
  | cache c => exact (runCommand_frame w c).2.2.2.1
  | connection b => exact absurd rfl (h b)
  | clock | salt | log => rfl

/-- Requests that are not for the connection leave it alone. -/
theorem answer_attached_of_within {S : Store.Statement → Prop} {C : Cache.Command → Prop}
    (hr : r.Within S C) (w : World) : (w.answer r).2.attached = w.attached :=
  answer_attached w fun b hb => by subst hb; exact hr

/-- Insertions are counted, and nothing is forgotten. -/
theorem answer_insertions_le (w : World) (r : Request) :
    w.insertions ≤ (w.answer r).2.insertions := by
  cases r with
  | sql s =>
    show w.insertions ≤ (w.runStatement s).2.insertions
    rw [runStatement_insertions]
    exact Nat.le_add_right _ _
  | cache c => exact Nat.le_of_eq (runCommand_frame w c).2.2.1.symm
  | clock | salt | log | connection => exact Nat.le_refl _

/-- Every request keeps what every statement keeps of the table. -/
theorem answer_keeps {I : Store.Table → Prop} (r : Request)
    (step : ∀ s new, r = .sql s → I w.table → I (s.run w.now new w.table).2) (h : I w.table) :
    I (w.answer r).2.table := by
  cases r with
  | sql s =>
    show I (w.runStatement s).2.table
    rcases runStatement_table w s with heq | heq
    · rwa [heq]
    · rw [heq]
      exact step s _ rfl h
  | cache c =>
    show I (w.runCommand c).2.table
    rwa [(runCommand_frame w c).2.1]
  | clock | salt | log | connection => exact h

/-- The rows after a request go by identifiers that were there, or by the one that an insertion
gives. -/
theorem answer_ids (w : World) (r : Request) {row : Store.Row} (h : row ∈ (w.answer r).2.table) :
    (∃ old ∈ w.table, old.profile.id = row.profile.id) ∨
      (w.answer r).2.insertions = w.insertions + 1 ∧
        row.profile.id = insertionId (w.insertions + 1) := by
  by_cases hr : ∃ s, r = .sql s
  · obtain ⟨s, rfl⟩ := hr
    change row ∈ (w.runStatement s).2.table at h
    show _ ∨ (w.runStatement s).2.insertions = _ ∧ _
    rcases runStatement_table w s with heq | heq
    all_goals rw [heq] at h
    · exact .inl ⟨row, h, rfl⟩
    · rcases s.run_ids w.now (w.newId s) w.table h with hold | ⟨⟨draft, rfl⟩, hid⟩
      · exact .inl hold
      · exact .inr ⟨runStatement_insertions w _, hid⟩
  · rw [answer_table w fun s heq => hr ⟨s, heq⟩] at h
    exact .inl ⟨row, h, rfl⟩

/-- Requests that only read the table leave it alone. -/
theorem answer_reads {C : Cache.Command → Prop} (hr : r.Within Store.Reads C) :
    (w.answer r).2.table = w.table :=
  answer_keeps (I := fun t => t = w.table) r
    (fun s new heq _ => by subst heq; exact Store.Reads.run_table hr w.now new w.table) rfl

/-- Requests that rewrite no row keep every row. -/
theorem answer_keeps_row {C : Cache.Command → Prop} {id : Uuid} {row : Store.Row}
    (hr : r.Within (fun s => ∀ id, ¬ Store.Rewrites id s) C) (h : w.table.find? id = some row) :
    (w.answer r).2.table.find? id = some row :=
  answer_keeps (I := fun t => t.find? id = some row) r
    (fun s new heq ht => by subst heq; exact s.run_keeps_row w.now new hr ht) h

/-- Requests that rewrite only the row of an identifier leave the rest of the table alone. -/
theorem answer_keeps_rest {C : Cache.Command → Prop} {id : Uuid}
    (hr : r.Within (Store.Rewrites id) C) :
    (w.answer r).2.table.remove id = w.table.remove id :=
  answer_keeps (I := fun t => t.remove id = w.table.remove id) r
    (fun s new heq _ => by subst heq; exact s.run_keeps_rest w.now new w.table hr) rfl

/-- The postcodes fit their column whatever is asked for. -/
theorem answer_fits (r : Request) (h : Store.Table.Fits w.table) :
    Store.Table.Fits (w.answer r).2.table :=
  answer_keeps r (fun s new _ ht => s.run_fits w.now new ht) h

/-- The rows stay distinct whatever is asked for. -/
theorem answer_distinct (r : Request) (h : Store.Table.Distinct w.table) :
    Store.Table.Distinct (w.answer r).2.table :=
  answer_keeps r (fun s new _ ht => s.run_distinct w.now new ht) h

end World

/-! ## Programs -/

theorem Program.Asks.run_table {p : Program α} {C : Cache.Command → Prop}
    (hp : p.Asks (Request.Within Store.Reads C)) (w : World) : (p.run w).2.table = w.table :=
  hp.run_keeps (I := fun w' => w'.table = w.table)
    (fun _ _ hr hw' => (World.answer_reads hr).trans hw') rfl

theorem Action.Asks.table_of_reads {a : Action α} {C : Cache.Command → Prop}
    (ha : a.Asks (Request.Within Store.Reads C)) (w : World) : (a.run w).2.table = w.table :=
  Program.Asks.run_table ha w

theorem Program.run_now (p : Program α) (w : World) : (p.run w).2.now = w.now := by
  induction p generalizing w with
  | done a => rfl
  | ask r next ih => exact (ih _ _).trans (w.answer_now r)

theorem Action.run_now (a : Action α) (w : World) : (a.run w).2.now = w.now :=
  Program.run_now (ExceptT.run a) w

theorem Action.Asks.run_attached {a : Action α} {S : Store.Statement → Prop}
    {C : Cache.Command → Prop} (ha : a.Asks (Request.Within S C)) (w : World) :
    (a.run w).2.attached = w.attached :=
  Program.Asks.run_keeps (I := fun w' => w'.attached = w.attached) ha
    (fun _ w' hr hw' => (World.answer_attached_of_within hr w').trans hw') rfl

theorem Program.run_insertions_le (p : Program α) (w : World) :
    w.insertions ≤ (p.run w).2.insertions := by
  induction p generalizing w with
  | done a => exact Nat.le_refl _
  | ask r next ih => exact Nat.le_trans (w.answer_insertions_le r) (ih _ _)

theorem Program.run_salt (p : Program α) (w : World) : (p.run w).2.salt = w.salt := by
  induction p generalizing w with
  | done a => rfl
  | ask r next ih => exact (ih _ _).trans (w.answer_salt r)

theorem Action.run_salt (a : Action α) (w : World) : (a.run w).2.salt = w.salt :=
  Program.run_salt (ExceptT.run a) w

theorem Program.run_fits (p : Program α) (h : Store.Table.Fits w.table) :
    Store.Table.Fits (p.run w).2.table := by
  induction p generalizing w with
  | done a => exact h
  | ask r next ih => exact ih _ (World.answer_fits r h)

theorem Program.run_distinct (p : Program α) (h : Store.Table.Distinct w.table) :
    Store.Table.Distinct (p.run w).2.table := by
  induction p generalizing w with
  | done a => exact h
  | ask r next ih => exact ih _ (World.answer_distinct r h)

end Accounts
