import Accounts.Proofs.Http.Handler
import Accounts.Proofs.Service.Login
import Accounts.Proofs.Service.Rows

/-!
# The table in every state

The service and the interface write only what was prepared.  So every run of them, with any faults
and a clock that never goes back, keeps the table in order: its rows are distinct, each is well
formed, and none is from the future.

    (finish setup moves (World.started setup start salt faults)).table  is in order
-/

namespace Accounts

open Accounts.Action
open Accounts.Request (Within)
open Calendar

variable {S : Store.Statement → Prop} {C : Cache.Command → Prop} {w : World} {t : Store.Table}
  {now later : Int}

/-! ## Prepared statements -/

/-- A statement that writes only what breaks no rule. -/
def Store.Statement.Prepared : Store.Statement → Prop
  | .insert draft => ∃ (r prepared : Registration) (salt hash : String), r.prepare = .ok prepared ∧
      Password.hashLoose? salt (prepared.password.getD "") = some hash ∧
      draft = .ofRegistration prepared hash
  | .revise _ revision => ∃ d : Details, d.prepare = .ok revision
  | .remove _ | .findById _ | .findByEmail _ | .probe => True

namespace Identity

open Store.Statement (Prepared)

/-- A registration inserts a prepared registration, with the hash of its password. -/
theorem asks_register_prepared (config : Config) (r : Registration) :
    (register config r).Asks (Within Prepared C) := by
  refine (asks_register config r).mono (Within.mono (fun s hs => ?_) fun _ h => h)
  rcases hs with rfl | ⟨prepared, salt, hash, hprepared, hhash, rfl⟩
  · trivial
  · exact ⟨r, prepared, salt, hash, hprepared, hhash, rfl⟩

/-- A change runs a prepared revision. -/
theorem asks_update_prepared (id : Uuid) (d : Details) :
    (update id d).Asks (Within Prepared fun _ => True) := by
  rw [update_eq]
  unfold revised
  refine Asks.bind (asks_operation (asks_accept_bind fun revision hrevision => ?_)) fun account => ?_
  · refine Asks.bind ((Store.asks_update id revision).mono (Within.mono ?_ fun _ h => h))
      fun _ => asks_pure _
    intro s hs
    subst hs
    exact ⟨d, hrevision⟩
  · refine Asks.bind ((asks_invalidate _ id).mono (Within.mono (fun _ h => h) fun _ _ => trivial))
      fun _ => asks_pure _

/-- All operations run prepared statements only. -/
theorem operationsAsk_prepared (config : Config) :
    Http.OperationsAsk config Prepared fun _ => True where
  register r := asks_register_prepared config r
  login c := (asks_login config c).mono
    (Within.mono (fun s hs => by subst hs; exact trivial) fun _ h => h)
  update id d := asks_update_prepared id d
  delete id := (asks_delete id).mono
    (Within.mono (fun s hs => by subst hs; exact trivial) fun _ _ => trivial)
  find id := (asks_find config id).mono
    (Within.mono (fun s hs => by subst hs; exact trivial) fun _ _ => trivial)

end Identity

/-! ## Tables in order -/

/-- The rows of a table are distinct and well formed, and none is from after the last whole second. -/
structure Store.Table.InOrder (now : Instant) (t : Store.Table) : Prop where
  distinct : t.Distinct
  wellFormed : ∀ row ∈ t, row.WellFormed
  past : ∀ row ∈ t, row.profile.updatedAt.instant ≤ Instant.seconds now * second

namespace Store

theorem Table.InOrder.nil (now : Instant) : Table.InOrder now [] :=
  ⟨.nil, fun _ hrow => (List.not_mem_nil hrow).elim, fun _ hrow => (List.not_mem_nil hrow).elim⟩

/-- A table in order stays in order as time passes. -/
theorem Table.InOrder.mono (h : Table.InOrder now t) (hl : now ≤ later) :
    Table.InOrder later t := by
  refine ⟨h.distinct, h.wellFormed, fun row hrow => Int.le_trans (h.past row hrow) ?_⟩
  unfold Instant.seconds
  rw [Int.fdiv_eq_ediv_of_nonneg _ (by decide), Int.fdiv_eq_ediv_of_nonneg _ (by decide)]
  unfold second
  omega

/-- A prepared statement keeps the table in order. -/
theorem Statement.run_inOrder {s : Statement} (hs : s.Prepared) (new : Uuid)
    (h : Table.InOrder now t) : Table.InOrder now (s.run now new t).2 := by
  have hdistinct := s.run_distinct now new h.distinct
  cases s with
  | insert draft =>
    obtain ⟨r, prepared, salt, hash, hprepared, hhash, rfl⟩ := hs
    rcases insert_cases now new (.ofRegistration prepared hash) t with ⟨fault, heq⟩ |
      ⟨email, time, hemail, htime, -, -, -, heq⟩
    · rw [show (Statement.insert _).run now new t = _ from heq]
      exact h
    · rw [show (Statement.insert _).run now new t = _ from heq] at hdistinct ⊢
      have hrow := wellFormed_row hprepared hhash hemail new time
      refine ⟨hdistinct, fun row hmem => ?_, fun row hmem => ?_⟩
      · rcases List.mem_append.1 hmem with hmem | hmem
        · exact h.wellFormed row hmem
        · rw [List.mem_singleton.1 hmem]
          exact hrow
      · rcases List.mem_append.1 hmem with hmem | hmem
        · exact h.past row hmem
        · rw [List.mem_singleton.1 hmem]
          exact Int.le_of_eq (instant_of_stamp? htime)
  | revise id revision =>
    obtain ⟨d, hprepared⟩ := hs
    rcases revise_cases now id revision t with ⟨fault, heq⟩ | ⟨-, heq⟩ |
      ⟨old, time, hold, htime, -, -, heq⟩
    · rw [show (Statement.revise _ _).run now new t = _ from heq]
      exact h
    · rw [show (Statement.revise _ _).run now new t = _ from heq]
      exact h
    · rw [show (Statement.revise _ _).run now new t = _ from heq] at hdistinct ⊢
      have hmem := Table.mem_of_find? hold
      have hstamp := instant_of_stamp? htime
      have holdRow := h.wellFormed old hmem
      have hrow : (old.revised revision time).WellFormed := by
        refine holdRow.revised hprepared ?_
        rw [hstamp]
        exact Int.le_trans holdRow.updated (h.past old hmem)
      refine ⟨hdistinct, fun row hrowmem => ?_, fun row hrowmem => ?_⟩
      · obtain ⟨r, hr, rfl⟩ := List.mem_map.1 hrowmem
        split
        · exact hrow
        · exact h.wellFormed r hr
      · obtain ⟨r, hr, rfl⟩ := List.mem_map.1 hrowmem
        split
        · exact Int.le_of_eq hstamp
        · exact h.past r hr
  | remove id =>
    exact ⟨hdistinct, fun row hrow => h.wellFormed row (List.mem_filter.1 hrow).1,
      fun row hrow => h.past row (List.mem_filter.1 hrow).1⟩
  | findById | findByEmail | probe => exact h

end Store

/-! ## Worlds in order -/

/-- The table of a world is in order at its time. -/
def World.InOrder (w : World) : Prop := w.table.InOrder w.now

theorem World.InOrder.answer {r : Request} (hr : r.Within Store.Statement.Prepared C)
    (h : w.InOrder) : (w.answer r).2.InOrder := by
  unfold InOrder
  rw [w.answer_now r]
  exact World.answer_keeps (I := Store.Table.InOrder w.now) r
    (fun s new heq ht => by subst heq; exact Store.Statement.run_inOrder hr new ht) h

theorem World.InOrder.run {p : Program α} (hp : p.Asks (Within Store.Statement.Prepared C))
    (h : w.InOrder) : (p.run w).2.InOrder :=
  hp.run_keeps (fun _ _ hr hw => hw.answer hr) h

/-- A step of the service or of the interface, a new salt, or time that passes forward. -/
def Step.Forward : Step → Prop
  | .register _ | .login _ | .update _ _ | .delete _ | .find _ | .http _ | .setSalt _ => True
  | .advance span => (0 : Int) ≤ span
  | _ => False

/-- A move keeps the table in order. -/
theorem World.InOrder.record {setup : Setup} {m : Move} (hm : m.step.Forward) (h : w.InOrder) :
    (m.record setup w).after.InOrder := by
  have hask := Identity.operationsAsk_prepared setup.identity
  have hfacing : (w.facing m.faults).InOrder := h
  have haction {a : Action Answer} (hstep : m.step.action? setup = some a)
      (ha : a.Asks (Within Store.Statement.Prepared fun _ => True)) :
      (m.record setup w).after.InOrder := by
    unfold InOrder
    rw [Move.record_table, Move.record_now, Step.run_action hstep]
    exact hfacing.run ha
  obtain ⟨step, faults⟩ := m
  cases step with
  | register r => exact haction rfl (Asks.bind (hask.register r) fun _ => asks_pure _)
  | login c => exact haction rfl (Asks.bind (hask.login c) fun _ => asks_pure _)
  | update id d => exact haction rfl (Asks.bind (hask.update id d) fun _ => asks_pure _)
  | delete id => exact haction rfl (Asks.bind (hask.delete id) fun _ => asks_pure _)
  | find id => exact haction rfl (Asks.bind (hask.find id) fun _ => asks_pure _)
  | http r =>
    have hserve := Http.asks_serve hask trivial trivial r
    refine haction rfl (Asks.bind ?_ fun _ => asks_pure _)
    exact Program.Asks.bind hserve fun _ => .done _
  | advance span =>
    have hspan : (0 : Int) ≤ span := hm
    exact Store.Table.InOrder.mono h (Int.le_add_of_nonneg_right hspan)
  | setSalt salt => exact h
  | _ => exact hm.elim

/-- **Accounts stay in order.**  In every state of a run that starts with nothing, identifiers and
emails are distinct, and every row is well formed. -/
theorem accounts_stay_in_order (setup : Setup) (start : Instant) (salt : String) (faults : Faults)
    (moves : List Move) (h : ∀ m ∈ moves, m.step.Forward) :
    let table := (finish setup moves (World.started setup start salt faults)).table
    (table.Pairwise fun a b => a.profile.id ≠ b.profile.id) ∧
      (table.Pairwise fun a b => a.profile.email ≠ b.profile.email) ∧
      ∀ row ∈ table, row.WellFormed := by
  have hempty := World.started_empty setup start salt faults
  have hstart : (World.started setup start salt faults).InOrder := by
    unfold World.InOrder
    rw [hempty.table]
    exact Store.Table.InOrder.nil _
  have hfinish : (finish setup moves (World.started setup start salt faults)).InOrder :=
    finish_keeps (fun m hm w hw => hw.record (h m hm)) hstart
  exact ⟨hfinish.distinct.ids, hfinish.distinct.emails, hfinish.wellFormed⟩

/-- After a registration there is one row, and it is well formed. -/
theorem accounts_stay_in_order_sample : (∀ m ∈ sampleEnrolment, m.step.Forward) ∧
    ∃ row, (finish Setup.sample sampleEnrolment (World.started Setup.sample 0 sampleSalt {})).table =
      [row] ∧ row.WellFormed := by
  have hforward : ∀ m ∈ sampleEnrolment, m.step.Forward := by
    intro m hm
    rw [List.mem_singleton.1 hm]
    trivial
  obtain ⟨row, -, htable⟩ := sampleWorld_table Setup.sample
  have h := accounts_stay_in_order Setup.sample 0 sampleSalt {} sampleEnrolment hforward
  refine ⟨hforward, row, htable, h.2.2 row ?_⟩
  rw [show (finish Setup.sample sampleEnrolment _).table = [row] from htable]
  exact List.mem_cons_self

end Accounts
