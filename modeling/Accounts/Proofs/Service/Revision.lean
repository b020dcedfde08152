import Accounts.Proofs.Service.Errors
import Accounts.Proofs.Service.Rows

/-!
# What a change changes

A change goes through when it breaks no rule, its account is there and its email is free.  Then the
row takes the values that were asked for, in normal form, and all the rest stays as it was.  Otherwise
the error tells of the first of these that fails, and nothing changes:

    rules are broken        ->  invalid input
    a broken text           ->  an error without a tag
    no row of the account   ->  unknown account
    email of another row    ->  email taken
    otherwise               ->  the row with the changes, without its hash
-/

namespace Accounts

open Accounts.Action
open Accounts.Request (Within)
open Calendar

variable {α β : Type} {setup : Setup} {w : World} {id : Uuid} {d : Details} {time : DateTime}
  {old new : Store.Row}

/-! ## What is asked for -/

/-- A value after a change: the one that is asked for takes the place of the old one, unless there is
none or it is blank. -/
structure Takes (blank : α → Prop) (asked old new : Option α) : Prop where
  replaced : ∀ a, asked = some a → ¬ blank a → new = some a
  kept : (∀ a, asked = some a → blank a) → new = old

theorem takes_or (blank : α → Prop) {p : α → Bool} (hp : ∀ a, p a = true ↔ ¬ blank a)
    (asked old : Option α) : Takes blank asked old ((asked.filter p).or old) := by
  cases asked with
  | none => exact ⟨fun a ha => (nomatch ha), fun _ => rfl⟩
  | some a =>
    cases h : p a with
    | true =>
      have hblank : ¬ blank a := (hp a).1 h
      rw [Option.filter_some, h]
      exact ⟨fun b hb _ => hb, fun hkept => absurd (hkept a rfl) hblank⟩
    | false =>
      have hblank : blank a := by
        by_contra hb
        rw [(hp a).2 hb] at h
        cases h
      rw [Option.filter_some, h]
      refine ⟨fun b hb hb' => ?_, fun _ => rfl⟩
      rw [← Option.some.inj hb] at hb'
      exact absurd hblank hb'

theorem charsOf_someText (t : Option LooseText) :
    charsOf (someText t) = (charsOf t).filter fun s => s != "" := by
  unfold charsOf someText
  rw [Option.filter_map]
  rfl

/-- A text that is asked for replaces the old one unless it is empty. -/
theorem takes_text (asked : Option LooseText) (old : Option String) :
    Takes (· = "") (charsOf asked) old ((charsOf (someText asked)).or old) := by
  rw [charsOf_someText]
  exact takes_or (· = "") (fun a => by simp) (charsOf asked) old

theorem takes_text_getD (asked : Option LooseText) (old : String) :
    Takes (· = "") (charsOf asked) (some old) (some ((charsOf (someText asked)).getD old)) := by
  have h := takes_text asked (some old)
  rwa [Option.or_some] at h

/-- A row is what a change made of another one at a time: every field that is asked for is replaced,
the time of the change is noted, and the rest is kept. -/
structure Store.Row.ChangedTo (d : Details) (time : DateTime) (old new : Row) : Prop where
  texts : ∀ field,
    Takes (· = "") (charsOf (d.normal.text field)) (old.profile.text field) (new.profile.text field)
  email : Takes (· = "") (charsOf d.normal.email) (some old.profile.email) (some new.profile.email)
  postcode : Takes (· = 0) d.normal.postcode old.profile.postcode new.profile.postcode
  birthday : Takes (fun _ => False) d.normal.birthday old.profile.birthday new.profile.birthday
  updated : new.profile.updatedAt = time
  id : new.profile.id = old.profile.id
  created : new.profile.createdAt = old.profile.createdAt
  login : new.profile.loginDate = old.profile.loginDate
  hash : new.hash = old.hash

theorem Store.Row.changedTo_revised (old : Store.Row) (d : Details) (time : DateTime) :
    ChangedTo d time old (old.revised d.normal time) where
  texts field := by
    cases field with
    | firstName | lastName | role => exact takes_text_getD _ _
    | about | phoneNumber | address | city | gender => exact takes_text _ _
  email := takes_text_getD _ _
  postcode := takes_or (· = 0) (fun n => by simp) _ _
  birthday := by
    have h := takes_or (fun _ => False) (p := fun _ => true) (fun _ => by simp)
      d.normal.birthday old.profile.birthday
    rwa [show d.normal.birthday.filter (fun _ => true) = d.normal.birthday by
      cases d.normal.birthday <;> rfl] at h
  updated := rfl
  id := rfl
  created := rfl
  login := rfl
  hash := rfl

/-- The email that a change asks for, if it asks for one, is not that of another row. -/
def Details.EmailFree (d : Details) (id : Uuid) (t : Store.Table) : Prop :=
  ∀ email, charsOf d.normal.email = some email → email ≠ "" →
    ∀ row ∈ t, row.profile.email = email → row.profile.id = id

/-- Among distinct rows, the index refuses a change when its email is that of another row. -/
theorem takenByOther_revised_iff {t : Store.Table} (time : DateTime) (ht : t.Distinct)
    (hold : t.find? id = some old) :
    t.takenByOther id (old.revised d.normal time).profile.email = false ↔ d.EmailFree id t := by
  have hid : old.profile.id = id := Store.Table.id_of_find? hold
  have hmem : old ∈ t := Store.Table.mem_of_find? hold
  have hfree (email : String) : t.takenByOther id email = false ↔
      ∀ row ∈ t, row.profile.email = email → row.profile.id = id := by
    simp [Store.Table.takenByOther]
  rw [hfree]
  show (∀ row ∈ t, row.profile.email =
    (charsOf (someText d.normal.email)).getD old.profile.email → _) ↔ _
  unfold Details.EmailFree
  rw [charsOf_someText]
  cases hsome : (charsOf d.normal.email).filter fun s => s != "" with
  | some email =>
    obtain ⟨hasked, hne⟩ := Option.filter_eq_some_iff.1 hsome
    constructor
    · intro h email' hemail' _ row hrow heq
      rw [hasked] at hemail'
      exact h row hrow (heq.trans (Option.some.inj hemail').symm)
    · exact fun h row hrow heq => h email hasked (by simpa using hne) row hrow heq
  | none =>
    -- no email is asked for: the old one is that of no other row
    refine ⟨fun _ email hemail hne => ?_, fun _ row hrow heq => ?_⟩
    · rw [hemail, Option.filter_some, if_pos (by simpa using hne)] at hsome
      cases hsome
    · have hrow' := ht.findEmail? hrow
      rw [heq] at hrow'
      have hsame : row = old := Option.some.inj (hrow'.symm.trans (ht.findEmail? hmem))
      rw [hsame, hid]

/-! ## Runs -/

/-- A revision at a time that a row can have, with values that can be handed over. -/
theorem Store.revise_of_fits {now : Instant} (id : Uuid) (t : Store.Table)
    (hfits : bindFault? d.changes.isWhole d.changes.postcode = none)
    (htime : stamp? now = some time) : revise now id d t = match t.find? id with
      | none => (.ok none, t)
      | some row =>
        if t.takenByOther id (row.revised d time).profile.email then (.error .conflict, t)
        else (.ok (some (row.revised d time)), t.replace id (row.revised d time)) := by
  cases hrow : t.find? id <;> simp [revise, hfits, htime, hrow]

namespace Identity

theorem operation_answer_failure {a : Action α} {f : Failure} (name : String)
    (h : (a.run w).1 = .error (.failure f)) :
    ((operation name a).run w).1 = .error (.failure (f.tag name)) := by
  rcases hrun : a.run w with ⟨answer, w'⟩
  rw [hrun] at h
  subst h
  unfold operation
  rw [run_tryCatch, hrun]
  rfl

theorem operation_answer_ok {a : Action α} {x : α} (name : String) (h : (a.run w).1 = .ok x) :
    ((operation name a).run w).1 = .ok x := by
  rcases hrun : a.run w with ⟨answer, w'⟩
  rw [hrun] at h
  subst h
  rw [operation_run_ok name hrun]

theorem answer_bind_error {a : Action α} {e : Error} (f : α → Action β)
    (h : (a.run w).1 = .error e) : ((a >>= f).run w).1 = .error e := by
  rcases hrun : a.run w with ⟨answer, w'⟩
  rw [hrun] at h
  subst h
  rw [run_bind_error f hrun]

theorem answer_bind_pure {a : Action α} {x : α} (f : α → β) (h : (a.run w).1 = .ok x) :
    ((a >>= fun x => pure (f x)).run w).1 = .ok (f x) := by
  rcases hrun : a.run w with ⟨answer, w'⟩
  rw [hrun] at h
  subst h
  rw [run_bind_ok _ hrun]
  rfl

/-- A change answers as its part that may fail does. -/
theorem update_answer (w : World) (id : Uuid) (d : Details) :
    ((update id d).run w).1 = ((revised id d).run w).1 := by
  rw [update_eq]
  rcases h : (revised id d).run w with ⟨e | account, w₁⟩
  · rw [run_bind_error _ h]
  · obtain ⟨_, w₂, h₂⟩ := returns_invalidate "identity.update" id w₁
    rw [run_bind_ok _ h, run_bind_ok _ h₂]
    rfl

/-- A change that fails has touched neither the table nor the keys. -/
theorem update_error {e : Error} (h : ((update id d).run w).1 = .error e) :
    ((update id d).run w).2.table = w.table ∧ ((update id d).run w).2.keys = w.keys := by
  refine ⟨?_, ?_⟩
  · rcases update_cases w id d with ⟨-, hsame⟩ | ⟨_, _, _, -, -, -, hok, -⟩
    · exact hsame
    · rw [hok] at h
      cases h
  · rw [update_answer] at h
    have hkeys : ((revised id d).run w).2.keys = w.keys := (asks_revised id d).run_keys w
    rcases hrun : (revised id d).run w with ⟨e' | account, w₁⟩
    · rw [hrun] at hkeys
      rw [update_eq, run_bind_error _ hrun]
      exact hkeys
    · rw [hrun] at h
      cases h

/-- What the store answers to a revision at a time that a row can have. -/
theorem store_update_answer (hs : w.Sound) (htime : Store.stamp? w.now = some time)
    (hfits : Store.bindFault? d.changes.isWhole d.changes.postcode = none) (id : Uuid) :
    ((Store.update id d).run w).1 = match w.table.find? id with
      | none => .error (.failure { cause := .unknownAccount })
      | some old =>
        if w.table.takenByOther id (old.revised d time).profile.email then
          .error (.failure { cause := .emailTaken })
        else .ok (old.revised d time).account := by
  have hrevise := Store.revise_of_fits id w.table hfits htime
  unfold Store.update
  rw [run_bind, run_statement, World.runStatement_of_no_fault hs.no_fault]
  dsimp only
  rw [show (Store.Statement.revise id d).run w.now _ w.table = _ from hrevise]
  cases w.table.find? id with
  | none => rfl
  | some old =>
    dsimp only
    cases w.table.takenByOther id (old.revised d time).profile.email <;> rfl

/-- A change that breaks a rule fails before it gets to the store. -/
theorem update_of_broken (w : World) (id : Uuid) (h : d.normal.violations ≠ []) :
    ((update id d).run w).1 = .error (.failure
      { cause := .invalidInput d.normal.violations, operation := some "identity.update" }) := by
  have hprepare : d.prepare = .error (.invalid d.normal.violations) := by
    unfold Details.prepare prepare
    cases hviolations : d.normal.violations with
    | nil => exact absurd hviolations h
    | cons v violations => rfl
  have haccept : (accept d.prepare).run w =
      (.error (.failure { cause := .invalidInput d.normal.violations }), w) := by
    rw [hprepare]
    rfl
  rw [update_answer]
  exact operation_answer_failure _ (congrArg Prod.fst (run_bind_error _ haccept))

/-- A change that breaks no rule answers what the store answers to its normal form. -/
theorem update_of_valid (w : World) (id : Uuid) (h : d.normal.violations = []) :
    ((update id d).run w).1 = ((operation "identity.update" do
      let account ← Store.update id d.normal
      return account.sanitized).run w).1 := by
  have hprepare : d.prepare = .ok d.normal := by
    unfold Details.prepare
    rw [h]
    rfl
  rw [update_answer]
  unfold revised
  rw [hprepare]
  rfl

/-- Whole texts and a postcode that fits can be handed over after normalization too. -/
theorem bindFault?_changes_normal (hwhole : d.normal.changes.isWhole = true)
    (hfits : Store.fitsColumn d.postcode = true) :
    Store.bindFault? d.normal.changes.isWhole d.normal.changes.postcode = none := by
  refine Store.bindFault?_eq_none_iff.2 ⟨hwhole, ?_⟩
  by_contra h
  have hover : Store.fitsColumn d.postcode = false :=
    Store.oversized_of_filter (Bool.not_eq_true _ ▸ h)
  rw [hfits] at hover
  cases hover

/-- A change of a broken text breaks no rule, and fails past every tag, whatever is in the table. -/
theorem update_of_brokenText (hs : w.Sound) (id : Uuid) (hvalid : d.normal.violations = [])
    (hbroken : d.normal.changes.isWhole = false) :
    ((update id d).run w).1 = .error (.store (.encoding .surrogate)) := by
  have hrevise : Store.revise w.now id d.normal w.table =
      (.error (.encoding .surrogate), w.table) := by
    unfold Store.revise
    rw [Store.bindFault?_of_broken hbroken]
  obtain ⟨w', hstore⟩ : ∃ w',
      (Store.update id d.normal).run w = (.error (.store (.encoding .surrogate)), w') := by
    unfold Store.update
    rw [run_bind, run_statement, World.runStatement_of_no_fault hs.no_fault]
    rw [show (Store.Statement.revise id d.normal).run w.now _ w.table = _ from hrevise]
    exact ⟨_, rfl⟩
  rw [update_of_valid w id hvalid]
  unfold operation
  rw [run_tryCatch, run_bind_error _ hstore]
  rfl

section Outcome

variable (hs : w.Sound) (htime : Store.stamp? w.now = some time)
  (hfits : Store.fitsColumn d.postcode = true) (hwhole : d.normal.changes.isWhole = true)
  (hvalid : d.normal.violations = [])

include hs htime hfits hwhole hvalid

theorem update_of_missing (hmissing : w.table.find? id = none) :
    ((update id d).run w).1 = .error (.failure
      { cause := .unknownAccount, operation := some "identity.update" }) := by
  have hstore := store_update_answer hs htime (bindFault?_changes_normal hwhole hfits) id
  rw [hmissing] at hstore
  rw [update_of_valid w id hvalid]
  exact operation_answer_failure _ (answer_bind_error _ hstore)

theorem update_of_taken (hold : w.table.find? id = some old)
    (htaken : w.table.takenByOther id (old.revised d.normal time).profile.email = true) :
    ((update id d).run w).1 = .error (.failure
      { cause := .emailTaken, operation := some "identity.update" }) := by
  have hstore := store_update_answer hs htime (bindFault?_changes_normal hwhole hfits) id
  rw [hold] at hstore
  dsimp only at hstore
  rw [if_pos htaken] at hstore
  rw [update_of_valid w id hvalid]
  exact operation_answer_failure _ (answer_bind_error _ hstore)

theorem update_of_free (hold : w.table.find? id = some old)
    (hfree : w.table.takenByOther id (old.revised d.normal time).profile.email = false) :
    ((update id d).run w).1 = .ok (old.revised d.normal time).account := by
  have hstore := store_update_answer hs htime (bindFault?_changes_normal hwhole hfits) id
  rw [hold] at hstore
  dsimp only at hstore
  rw [if_neg (by rw [hfree]; exact Bool.false_ne_true)] at hstore
  rw [update_of_valid w id hvalid]
  exact operation_answer_ok _ (answer_bind_pure Account.sanitized hstore)

omit hwhole hvalid in
/-- A change that is answered was a valid one, and has replaced the row of its account. -/
theorem update_of_ok {account : Account} (hok : ((update id d).run w).1 = .ok account) :
    d.normal.violations = [] ∧ d.normal.changes.isWhole = true ∧ ∃ old,
      w.table.find? id = some old ∧
      w.table.takenByOther id (old.revised d.normal time).profile.email = false ∧
      account = (old.revised d.normal time).account ∧
      ((update id d).run w).2.table = w.table.replace id (old.revised d.normal time) := by
  rcases update_cases w id d with ⟨⟨e, herror⟩, -⟩ |
    ⟨prepared, old, time', hprepared, hold, hfree, hok', htable⟩
  · rw [hok] at herror
    cases herror
  · obtain ⟨rfl, hnone⟩ := prepare_eq_ok hprepared
    have hvalid : d.normal.violations = [] := Except.ok.inj hnone
    have hwhole : d.normal.changes.isWhole = true := by
      by_contra hbroken
      rw [update_of_brokenText hs id hvalid (Bool.not_eq_true _ ▸ hbroken)] at hok
      cases hok
    have hok'' := update_of_free hs htime hfits hwhole hvalid hold hfree
    -- both are the answer, and an account tells the time of its last change
    have hsame : time' = time :=
      congrArg (fun a : Account => a.updatedAt) (Except.ok.inj (hok'.symm.trans hok''))
    subst hsame
    exact ⟨hvalid, hwhole, old, hold, hfree, Except.ok.inj (hok.symm.trans hok''), htable⟩

end Outcome

end Identity

/-! ## Changes in a run -/

/-- What a change does that meets no fault, at a time that a row can have. -/
structure UpdateAnswers (id : Uuid) (d : Details) (time : DateTime) (x : Record) : Prop where
  /-- A change goes through when it breaks no rule, no text that it changes is broken, the account is
  there and the email is free, and only then. -/
  succeeds : (∃ answer, x.answer = .ok answer) ↔ d.normal.violations = [] ∧
    d.normal.changes.isWhole = true ∧ (∃ old, x.before.table.find? id = some old) ∧
    d.EmailFree id x.before.table
  /-- A change that goes through replaces the row of the account by one that has what is asked for,
  and answers its account, without the hash. -/
  changed : ∀ answer, x.answer = .ok answer → ∃ old new,
    x.before.table.find? id = some old ∧ old.ChangedTo d time new ∧
    x.after.table = x.before.table.replace id new ∧ x.after.table.find? id = some new ∧
    answer = .account (some new.account)
  /-- The time that is noted is the second of the change. -/
  dated : time.instant = Instant.seconds x.before.now * second
  /-- The rows of other accounts stay as they are. -/
  others : ∀ other, other ≠ id → x.after.table.find? other = x.before.table.find? other
  /-- The rules come first. -/
  invalid : d.normal.violations ≠ [] → x.answer = .error (.failure
    { cause := .invalidInput d.normal.violations, operation := some "identity.update" })
  /-- A broken text comes past the rules, and past the tags. -/
  broken : d.normal.violations = [] → d.normal.changes.isWhole = false →
    x.answer = .error (.store (.encoding .surrogate))
  /-- Then comes the account. -/
  unknown : d.normal.violations = [] → d.normal.changes.isWhole = true →
    x.before.table.find? id = none → x.answer =
      .error (.failure { cause := .unknownAccount, operation := some "identity.update" })
  /-- The email comes last. -/
  taken : d.normal.violations = [] → d.normal.changes.isWhole = true →
    ∀ old, x.before.table.find? id = some old → ¬ d.EmailFree id x.before.table → x.answer =
      .error (.failure { cause := .emailTaken, operation := some "identity.update" })
  /-- A change that fails leaves the table and the keys alone. -/
  unchanged : ∀ e, x.answer = .error e →
    x.after.table = x.before.table ∧ x.after.keys = x.before.keys

theorem Move.record_update_answer (setup : Setup) (id : Uuid) (d : Details) (w : World) :
    ((Move.mk (.update id d) {}).record setup w).answer =
      ((Identity.update id d).run (w.facing {})).1.map fun account => .account (some account) := by
  rw [Move.record_answer, Step.run_update]

theorem Move.record_update_error {e : Error}
    (h : ((Move.mk (.update id d) {}).record setup w).answer = .error e) :
    ((Move.mk (.update id d) {}).record setup w).after.table = w.table ∧
      ((Move.mk (.update id d) {}).record setup w).after.keys = w.keys := by
  rw [Move.record_update_answer] at h
  rw [Move.record_table, Move.record_keys, Step.run_update]
  cases hresult : ((Identity.update id d).run (w.facing {})).1 with
  | error e' => exact Identity.update_error hresult
  | ok account =>
    rw [hresult] at h
    cases h

theorem Move.record_update_ok (htime : Store.stamp? w.now = some time)
    (hfits : Store.fitsColumn d.postcode = true) {answer : Answer}
    (h : ((Move.mk (.update id d) {}).record setup w).answer = .ok answer) :
    d.normal.violations = [] ∧ d.normal.changes.isWhole = true ∧ ∃ old,
      w.table.find? id = some old ∧
      w.table.takenByOther id (old.revised d.normal time).profile.email = false ∧
      answer = .account (some (old.revised d.normal time).account) ∧
      ((Move.mk (.update id d) {}).record setup w).after.table =
        w.table.replace id (old.revised d.normal time) := by
  rw [Move.record_update_answer] at h
  rw [Move.record_table, Step.run_update]
  cases hresult : ((Identity.update id d).run (w.facing {})).1 with
  | error e =>
    rw [hresult] at h
    cases h
  | ok account =>
    rw [hresult] at h
    obtain ⟨hvalid, hwhole, old, hold, hfree, rfl, htable⟩ :=
      Identity.update_of_ok w.sound_of_no_faults htime hfits hresult
    exact ⟨hvalid, hwhole, old, hold, hfree, (Except.ok.inj h).symm, htable⟩

/-- Among distinct rows, a change does what was asked and nothing else. -/
theorem Move.record_update (hw : w.table.Distinct) (htime : Store.stamp? w.now = some time)
    (hfits : Store.fitsColumn d.postcode = true) (setup : Setup) (id : Uuid) :
    UpdateAnswers id d time ((Move.mk (.update id d) {}).record setup w) := by
  have hs := w.sound_of_no_faults
  constructor
  case succeeds =>
    constructor
    · rintro ⟨answer, hok⟩
      obtain ⟨hvalid, hwhole, old, hold, hfree, -, -⟩ := Move.record_update_ok htime hfits hok
      exact ⟨hvalid, hwhole, ⟨old, hold⟩, (takenByOther_revised_iff time hw hold).1 hfree⟩
    · rintro ⟨hvalid, hwhole, ⟨old, hold⟩, hemail⟩
      rw [Move.record_update_answer, Identity.update_of_free hs htime hfits hwhole hvalid hold
        ((takenByOther_revised_iff time hw hold).2 hemail)]
      exact ⟨_, rfl⟩
  case changed =>
    intro answer hok
    obtain ⟨-, -, old, hold, -, hanswer, htable⟩ := Move.record_update_ok htime hfits hok
    refine ⟨old, _, hold, old.changedTo_revised d time, htable, ?_, hanswer⟩
    have hid := (old.revised_id d.normal time).trans (Store.Table.id_of_find? hold)
    rw [htable, Store.Table.find?_replace_self hid, hold]
    rfl
  case dated => exact Store.instant_of_stamp? htime
  case others =>
    intro other hne
    cases hanswer : ((Move.mk (.update id d) {}).record setup w).answer with
    | error e =>
      rw [(Move.record_update_error hanswer).1]
      rfl
    | ok answer =>
      obtain ⟨-, -, old, hold, -, -, htable⟩ := Move.record_update_ok htime hfits hanswer
      have hid := (old.revised_id d.normal time).trans (Store.Table.id_of_find? hold)
      rw [htable]
      exact Store.Table.find?_replace_of_ne hid hne
  case invalid =>
    intro hbroken
    rw [Move.record_update_answer, Identity.update_of_broken _ id hbroken]
    rfl
  case broken =>
    intro hvalid hbroken
    rw [Move.record_update_answer, Identity.update_of_brokenText hs id hvalid hbroken]
    rfl
  case unknown =>
    intro hvalid hwhole hmissing
    rw [Move.record_update_answer, Identity.update_of_missing hs htime hfits hwhole hvalid hmissing]
    rfl
  case taken =>
    intro hvalid hwhole old hold hemail
    rw [Move.record_before, ← takenByOther_revised_iff time hw hold,
      Bool.not_eq_false] at hemail
    rw [Move.record_update_answer, Identity.update_of_taken hs htime hfits hwhole hvalid hold hemail]
    rfl
  case unchanged => exact fun e => Move.record_update_error

/-- **Updates change what was asked.**  In every state that a run can reach, a change does what was
asked and nothing else. -/
theorem update_changes_what_was_asked (setup : Setup) (now : Instant) (salt : String)
    (faults : Faults) (moves : List Move) (id : Uuid) (d : Details) (time : DateTime)
    (htime : Store.stamp? (finish setup moves (World.started setup now salt faults)).now = some time)
    (hfits : Store.fitsColumn d.postcode = true) :
    UpdateAnswers id d time ((Move.mk (.update id d) {}).record setup
      (finish setup moves (World.started setup now salt faults))) := by
  refine Move.record_update (finish_distinct ?_) htime hfits setup id
  rw [(World.started_empty setup now salt faults).table]
  exact .nil

/-- A change of an account that was registered: a city is asked for, and a blank name. -/
def sampleRevision : Details := { firstName := some " ", city := some " Lyon " }

theorem update_changes_what_was_asked_sample : ∃ time,
    Store.stamp? (sampleWorld .sample).now = some time ∧
    Store.fitsColumn sampleRevision.postcode = true ∧
    UpdateAnswers (World.insertionId 1) sampleRevision time
      ((Move.mk (.update (World.insertionId 1) sampleRevision) {}).record .sample
        (sampleWorld .sample)) := by
  obtain ⟨time, htime⟩ : ∃ time, Store.stamp? 0 = some time :=
    Option.isSome_iff_exists.1 (by decide +kernel)
  rw [← sampleWorld_now .sample] at htime
  exact ⟨time, htime, rfl, update_changes_what_was_asked .sample 0 sampleSalt {} sampleEnrolment
    (World.insertionId 1) sampleRevision time htime rfl⟩

/-- A broken name breaks no rule, the account is there and no email is asked for; still the change
fails. -/
theorem broken_name_fails :
    let d : Details := { firstName := some brokenText }
    d.normal.violations = [] ∧ Store.fitsColumn d.postcode = true ∧
    (∃ old, (sampleWorld .sample).table.find? (World.insertionId 1) = some old) ∧
    d.EmailFree (World.insertionId 1) (sampleWorld .sample).table ∧
    ((Move.mk (.update (World.insertionId 1) d) {}).record .sample (sampleWorld .sample)).answer =
      .error (.store (.encoding .surrogate)) := by
  have hvalid : Details.violations (Details.normal { firstName := some brokenText }) = [] := by
    decide +kernel
  have hbroken : (Details.changes (Details.normal { firstName := some brokenText })).isWhole =
      false := by decide +kernel
  obtain ⟨row, hid, htable⟩ := sampleWorld_table .sample
  refine ⟨hvalid, rfl, ⟨row, ?_⟩, fun email hemail => (nomatch hemail), ?_⟩
  · rw [htable]
    simp [Store.Table.find?, hid]
  · rw [Move.record_update_answer, Identity.update_of_brokenText (World.sound_of_no_faults _) _
      hvalid hbroken]
    rfl

end Accounts
