import Accounts.Proofs.Cache.Keyspace
import Accounts.Proofs.Service.Returns

/-!
# Where the entries of the cache come from

Only a look-up puts an entry under a key: the copy of the row that it has just read, with a lifetime
from then on.  Whatever fails, everything else adds nothing.

    entry after an operation  ->  entry before it, or the copy of a row as it is now
-/

namespace Accounts

open Accounts.Action
open Accounts.Request (Within)
open Cache (key)
open Calendar

variable {α : Type} {w : World} {r : Request} {S : Store.Statement → Prop} {C : Cache.Command → Prop}

/-- The entry that a row is stored as at a time. -/
def Cache.copyOf (now : Instant) (seconds : Int) (row : Store.Row) : Entry :=
  ⟨encode row.account, now + seconds * second⟩

/-- A key and an entry are those of a row that the world has now. -/
def World.Copies (w : World) (seconds : Int) (p : String × Cache.Entry) : Prop :=
  ∃ id row, w.table.find? id = some row ∧ p = (key id, Cache.copyOf w.now seconds row)

/-! ## What adds no entry -/

/-- A request that adds no entry and lets none live longer. -/
def Request.Shrinks : Request → Prop
  | .cache c => c.Shrinks
  | .clock | .salt | .log _ | .sql _ | .connection _ => True

theorem Request.shrinks_of_within (hC : ∀ c, C c → c.Shrinks) (r : Request) (hr : r.Within S C) :
    r.Shrinks := by
  cases r with
  | cache c => exact hC c hr
  | clock | salt | log | sql | connection => trivial

theorem Cache.Drops.shrinks {id : Uuid} {c : Cache.Command} (hc : Cache.Drops id c) :
    c.Shrinks := by
  rcases hc with rfl | rfl
  · trivial
  · exact Int.le_refl 0

theorem World.answer_entries (hr : r.Shrinks) : (w.answer r).2.keys ⊆ w.keys := by
  cases r with
  | cache c =>
    show (w.runCommand c).2.keys ⊆ w.keys
    rcases World.runCommand_keys w c with hkeys | hkeys
    · rw [hkeys]
      exact List.Subset.refl _
    · rw [hkeys]
      exact hr.run_subset w.now w.keys
  | clock | salt | log | sql | connection =>
    rw [World.answer_keys w fun c hc => by cases hc]
    exact List.Subset.refl _

/-- An action that only takes entries away has none after it that was not there before. -/
theorem Action.Asks.entries {a : Action α} (ha : a.Asks Request.Shrinks) (w : World) :
    (a.run w).2.keys ⊆ w.keys :=
  Program.Asks.run_keeps (I := fun w' => w'.keys ⊆ w.keys) ha
    (fun _ _ hr hw' => List.Subset.trans (World.answer_entries hr) hw') (List.Subset.refl _)

/-! ## Looking up -/

/-- Storing an account adds one entry at most. -/
theorem Cache.store_entries (account : Account) (seconds : Int) (w : World) :
    ∀ p ∈ ((store account seconds).run w).2.keys,
      p ∈ w.keys ∨ p = (key account.id, ⟨encode account, w.now + seconds * second⟩) := by
  have hkeeps := Program.Asks.run_keeps (w := w)
    (I := fun w' => w'.now = w.now ∧ ∀ p ∈ w'.keys,
      p ∈ w.keys ∨ p = (key account.id, ⟨encode account, w.now + seconds * second⟩))
    (asks_store (S := fun _ => False) account seconds) (fun r w' hr hw' => ?_)
    ⟨rfl, fun _ => .inl⟩
  · exact hkeeps.2
  obtain ⟨hnow, hentries⟩ := hw'
  refine ⟨(w'.answer_now r).trans hnow, fun p hp => ?_⟩
  cases r with
  | cache c =>
    subst hr
    rw [← hnow] at hentries ⊢
    have hset : p ∈ w'.keys ∨ p ∈ ((Command.setFor (key account.id) seconds (encode account)).run
        w'.now w'.keys).2 := by
      rcases World.runCommand_keys w' (.setFor (key account.id) seconds (encode account)) with
        hkeys | hkeys
      · exact .inl (hkeys ▸ hp)
      · exact .inr (hkeys ▸ hp)
    rcases hset with hp | hp
    · exact hentries p hp
    · rcases mem_setFor hp with hp | hp
      · exact hentries p hp
      · exact .inr hp
  | sql | connection => exact hr.elim
  | clock | salt | log => exact hentries p hp

namespace Identity

/-- Looking a row up fails, or gives the account of the current row. -/
theorem looked_cases (w : World) (id : Uuid) :
    (∃ e w', (looked id).run w = (.error e, w')) ∨
    ∃ row w', w.table.find? id = some row ∧ (looked id).run w = (.ok row.account, w') := by
  have hquery := Action.run_query (.findById id) w
  unfold looked operation
  cases hfault : w.faults.sql.head?.join with
  | some fault =>
    rw [World.runStatement_of_fault hfault] at hquery
    have hfind : Action.run (Store.find id) w = _ := run_bind_error _ hquery
    rw [run_tryCatch, hfind]
    dsimp only
    split
    · exact .inl ⟨_, _, rfl⟩
    · exact .inl ⟨_, _, rfl⟩
  | none =>
    rw [World.runStatement_of_no_fault hfault] at hquery
    have hfind : Action.run (Store.find id) w = _ := run_bind_ok _ hquery
    rw [run_tryCatch, hfind]
    rcases w.table.find? id with _ | row
    · exact .inl ⟨_, _, rfl⟩
    · exact .inr ⟨row, _, rfl, rfl⟩

/-- What a look-up that finds no copy does: it fails and adds nothing, or gives the account of the
current row and may add its copy. -/
theorem populated_cases (config : Config) (id : Uuid) (w : World) :
    ((∃ e, ((populated config id).run w).1 = .error e) ∧
      ((populated config id).run w).2.keys ⊆ w.keys) ∨
    ∃ row, w.table.find? id = some row ∧ ((populated config id).run w).1 = .ok row.account ∧
      ∀ p ∈ ((populated config id).run w).2.keys,
        p ∈ w.keys ∨ p = (key id, Cache.copyOf w.now config.cacheSeconds row) := by
  have hkeys : ((looked id).run w).2.keys ⊆ w.keys :=
    Asks.entries ((asks_looked id).mono (Request.shrinks_of_within (C := fun _ => False)
      fun _ hc => hc.elim)) w
  have hnow : ((looked id).run w).2.now = w.now := Action.run_now _ w
  unfold populated
  rcases looked_cases w id with ⟨e, w₁, h₁⟩ | ⟨row, w₁, hrow, h₁⟩
  all_goals
    rw [h₁] at hkeys hnow
  · rw [run_bind_error _ h₁]
    exact .inl ⟨⟨e, rfl⟩, hkeys⟩
  · have hid : row.profile.id = id := Store.Table.id_of_find? hrow
    have hentries := Cache.store_entries row.account config.cacheSeconds w₁
    obtain ⟨stored, w₂, h₂⟩ := Cache.returns_store row.account config.cacheSeconds w₁
    rw [h₂] at hentries
    rw [run_bind_ok _ h₁]
    refine .inr ⟨row, hrow, ?_⟩
    show (Action.run (Cache.store row.account config.cacheSeconds >>= _) w₁).1 = _ ∧
      ∀ p ∈ (Action.run (Cache.store row.account config.cacheSeconds >>= _) w₁).2.keys, _
    rw [run_bind_ok _ h₂]
    have hadded : ∀ p ∈ w₂.keys,
        p ∈ w.keys ∨ p = (key id, Cache.copyOf w.now config.cacheSeconds row) := by
      intro p hp
      rcases hentries p hp with hp | hp
      · exact .inl (hkeys hp)
      · refine .inr (hp.trans ?_)
        rw [show w₁.now = w.now from hnow, ← hid]
        rfl
    cases stored with
    | true => exact ⟨rfl, hadded⟩
    | false => exact ⟨rfl, hadded⟩

/-- What a look-up does in any world: it fails, or hands on what the cache has, or gives the account
of the current row.  Only in the last case may it add an entry, and then the copy of that row. -/
theorem find_cases (config : Config) (id : Uuid) (w : World) :
    (((∃ e, ((find config id).run w).1 = .error e) ∨
        ∃ entry account, w.keys.live? w.now (key id) = some entry ∧
          Cache.decode entry.value = some account ∧
          ((find config id).run w).1 = .ok account) ∧
      ((find config id).run w).2.keys ⊆ w.keys) ∨
    ∃ row, w.table.find? id = some row ∧ ((find config id).run w).1 = .ok row.account ∧
      ∀ p ∈ ((find config id).run w).2.keys,
        p ∈ w.keys ∨ p = (key id, Cache.copyOf w.now config.cacheSeconds row) := by
  have hasks : (Cache.find id).Asks (Within Store.Reads (· = .get (key id))) := Cache.asks_find id
  have hkeys : ((Cache.find id).run w).2.keys ⊆ w.keys :=
    Asks.entries (hasks.mono (Request.shrinks_of_within fun c hc => by subst hc; trivial)) w
  have hnow : ((Cache.find id).run w).2.now = w.now := Action.run_now _ w
  have htable : ((Cache.find id).run w).2.table = w.table := hasks.table_of_reads w
  obtain ⟨cached, w₁, h₁, hlive⟩ := Cache.find_live id w
  rw [h₁] at hkeys hnow htable
  rw [find_eq, run_bind_ok _ h₁]
  cases cached with
  | some account =>
    obtain ⟨entry, hentry, hdecode⟩ := hlive account rfl
    exact .inl ⟨.inr ⟨entry, account, hentry, hdecode, rfl⟩, hkeys⟩
  | none =>
    have hrest := populated_cases config id w₁
    rw [show w₁.table = w.table from htable, show w₁.now = w.now from hnow] at hrest
    rcases hrest with ⟨herror, hsame⟩ | ⟨row, hrow, hok, hadded⟩
    · exact .inl ⟨.inl herror, List.Subset.trans hsame hkeys⟩
    · exact .inr ⟨row, hrow, hok, fun p hp => (hadded p hp).imp_left fun hp => hkeys hp⟩

end Identity

end Accounts
