import Accounts.Proofs.Cache.Drop
import Accounts.Proofs.World.Run

/-!
# The copies are those of the current rows

In a coherent world every living copy is that of the current row of its account, so that reading
through the cache gives what the table gives.  Reading and storing keep worlds coherent; a change does
when it takes the copy away afterwards, or changes nothing.

    live copy under key id  ->  decodes to the account of the row of id
-/

namespace Accounts

open Accounts.Request (Within)
open Cache (key)

variable {α : Type} {w w' : World} {r : Request} {id : Uuid} {S : Store.Statement → Prop}

/-- Every living copy is that of the current row, and without a connection there is none. -/
structure Coherent (w : World) : Prop where
  fresh : ∀ id e, w.keys.live? w.now (key id) = some e →
    ∃ row, w.table.find? id = some row ∧ Cache.decode e.value = some row.account
  fits : w.table.Fits
  detached : w.attached = false → w.keys = []

/-- Worlds with the same clock, rows, keys and connection. -/
structure World.Same (w w' : World) : Prop where
  now : w'.now = w.now
  table : w'.table = w.table
  keys : w'.keys = w.keys
  attached : w'.attached = w.attached

theorem Coherent.of_same (hw : Coherent w) (h : w.Same w') : Coherent w' where
  fresh id e he := by
    rw [h.now, h.keys] at he
    rw [h.table]
    exact hw.fresh id e he
  fits := h.table ▸ hw.fits
  detached hd := by
    rw [h.keys]
    exact hw.detached (h.attached ▸ hd)

theorem Coherent.of_no_keys (hkeys : w.keys = []) (hfits : w.table.Fits) : Coherent w where
  fresh id e he := by
    rw [hkeys, Cache.Keyspace.live?_nil] at he
    cases he
  fits := hfits
  detached _ := hkeys

/-! ## Reading and storing -/

/-- Requests that only read the keys leave them alone. -/
theorem World.answer_reads_keys (hr : r.Within S fun c => ∃ name, c = .get name) :
    (w.answer r).2.keys = w.keys := by
  cases r with
  | cache c =>
    obtain ⟨name, rfl⟩ := hr
    rcases World.runCommand_keys w (.get name) with h | h <;> exact h
  | connection b => exact hr.elim
  | clock | salt | log | sql => exact World.answer_keys w fun c hc => by cases hc

/-- Requests that rewrite no row and only read the keys keep worlds coherent. -/
theorem Coherent.answer_reading (hw : Coherent w)
    (hr : r.Within (fun s => ∀ id, ¬ Store.Rewrites id s) fun c => ∃ name, c = .get name) :
    Coherent (w.answer r).2 := by
  have hkeys : (w.answer r).2.keys = w.keys := World.answer_reads_keys hr
  have hattached : (w.answer r).2.attached = w.attached :=
    World.answer_attached_of_within hr w
  refine ⟨fun id e he => ?_, World.answer_fits r hw.fits, fun hd => ?_⟩
  · rw [World.answer_now, hkeys] at he
    obtain ⟨row, hrow, hdecode⟩ := hw.fresh id e he
    exact ⟨row, World.answer_keeps_row hr hrow, hdecode⟩
  · rw [hkeys]
    exact hw.detached (hattached ▸ hd)

/-- An action that rewrites no row and only reads the keys keeps worlds coherent. -/
theorem Coherent.run_reading (hw : Coherent w) {a : Action α}
    (ha : a.Asks (Within (fun s => ∀ id, ¬ Store.Rewrites id s) fun c => ∃ name, c = .get name)) :
    Coherent (a.run w).2 :=
  Program.Asks.run_keeps ha (fun _ _ hr hw => hw.answer_reading hr) hw

/-- Storing the copy of a row keeps worlds coherent. -/
theorem Coherent.run_store (hw : Coherent w) {row : Store.Row} (hrow : w.table.find? id = some row)
    (seconds : Int) : Coherent ((Cache.store row.account seconds).run w).2 := by
  have hid : row.profile.id = id := Store.Table.id_of_find? hrow
  have hdecode : Cache.decode (Cache.encode row.account) = some row.account :=
    Cache.decode_encode (hw.fits row (Store.Table.mem_of_find? hrow))
  have hkeeps := Program.Asks.run_keeps (w := w)
    (I := fun w' => Coherent w' ∧ w'.table = w.table)
    (Cache.asks_store (S := fun _ => False) row.account seconds) (fun r w' hr hw' => ?_) ⟨hw, rfl⟩
  · exact hkeeps.1
  obtain ⟨hw', htable⟩ := hw'
  cases r with
  | cache c =>
    subst hr
    refine ⟨⟨fun other e he => ?_, World.answer_fits _ hw'.fits, fun hd => ?_⟩,
      (World.answer_table w' fun s hs => by cases hs).trans htable⟩
    · rw [World.answer_now] at he
      rw [World.answer_table w' fun s hs => by cases hs]
      by_cases ho : other = id
      · subst ho
        have hentry : e.value = Cache.encode row.account ∨
            w'.keys.live? w'.now (key other) = some e := by
          revert he
          refine World.runCommand_live? (P := fun found => found = some e →
            e.value = Cache.encode row.account ∨ w'.keys.live? w'.now (key other) = some e)
            .inr fun he => ?_
          rw [← hid] at he ⊢
          exact Cache.live?_setFor_self he
        rcases hentry with hvalue | he
        · exact ⟨row, htable ▸ hrow, hvalue ▸ hdecode⟩
        · exact hw'.fresh other e he
      · refine hw'.fresh other e ?_
        rw [← he]
        refine (World.runCommand_live? (P := (· = w'.keys.live? w'.now (key other))) rfl ?_).symm
        exact Cache.Command.Leaves.run_live? (c := .setFor _ _ _) (World.key_ne (hid.symm ▸ ho)) _ _
    · have hattached : w'.attached = false :=
        (World.answer_attached w' fun b hb => by cases hb).symm.trans hd
      show (w'.runCommand _).2.keys = []
      rw [World.runCommand_of_detached hattached]
      exact hw'.detached hattached
  | connection b => exact hr.elim
  | sql s => exact hr.elim
  | clock | salt | log => exact ⟨hw'.of_same ⟨rfl, rfl, rfl, rfl⟩, htable⟩

/-! ## Changing -/

/-- Without a connection, no request but one for it touches the keys. -/
theorem World.answer_detached {C : Cache.Command → Prop} (hr : r.Within S C)
    (h : w.attached = false) :
    (w.answer r).2.attached = false ∧ (w.answer r).2.keys = w.keys := by
  refine ⟨(World.answer_attached_of_within hr w).trans h, ?_⟩
  cases r with
  | cache c =>
    show (w.runCommand c).2.keys = w.keys
    rw [World.runCommand_of_detached h]
  | connection b => exact hr.elim
  | clock | salt | log | sql => exact World.answer_keys w fun c hc => by cases hc

/-- Without a connection, no action but one for it touches the keys. -/
theorem World.run_detached (h : w.attached = false) {C : Cache.Command → Prop} {a : Action α}
    (ha : a.Asks (Within S C)) : (a.run w).2.attached = false ∧ (a.run w).2.keys = w.keys :=
  Program.Asks.run_keeps (I := fun w' => w'.attached = false ∧ w'.keys = w.keys) ha
    (fun _ _ hr hw' => (World.answer_detached hr hw'.1).imp_right fun hk => hk.trans hw'.2)
    ⟨h, rfl⟩

/-- Without a connection, worlds stay coherent whatever is done. -/
theorem Coherent.run_detached (hw : Coherent w) (h : w.attached = false) {C : Cache.Command → Prop}
    {a : Action α} (ha : a.Asks (Within S C)) : Coherent (a.run w).2 :=
  .of_no_keys ((World.run_detached h ha).2.trans (hw.detached h)) (Program.run_fits _ hw.fits)

/-- An action that rewrites no row but that of an account and then takes its copy away keeps worlds
coherent, when the rows stay as they were or a command for the copy is carried out. -/
theorem Coherent.of_dropped (hw : Coherent w) {a : Action α}
    (ha : a.Asks (Within (Store.Rewrites id) (Cache.Drops id)))
    (hdrops : (a.run w).2.table ≠ w.table → (a.trace w).any Exchange.drops = true) :
    Coherent (a.run w).2 := by
  cases hattached : w.attached with
  | false => exact hw.run_detached hattached ha
  | true =>
    have hnow : (a.run w).2.now = w.now := Program.run_now _ w
    have hkept := Program.Asks.run_keeps (w := w)
      (I := fun w' => w'.attached = true ∧ w'.table.Fits ∧ w'.table.remove id = w.table.remove id) ha
      (fun q w' hq hw' => by
        obtain ⟨hconn, hfits, hrest⟩ := hw'
        exact ⟨(World.answer_attached_of_within hq w').trans hconn,
          World.answer_fits q hfits, (World.answer_keeps_rest hq).trans hrest⟩)
      ⟨hattached, hw.fits, rfl⟩
    obtain ⟨hconn, hfits, hrest⟩ := hkept
    change (a.run w).2.attached = true at hconn
    change (a.run w).2.table.remove id = w.table.remove id at hrest
    refine ⟨fun other e he => ?_, hfits, fun hd => by rw [hd] at hconn; cases hconn⟩
    rw [hnow] at he
    by_cases ho : other = id
    · subst ho
      by_cases htable : (a.run w).2.table = w.table
      · rcases Program.Asks.run_none_or_same ha w with hlive | hlive
        · rw [show (a.run w).2 = (Program.run (ExceptT.run a) w).2 from rfl, hlive] at he
          cases he
        · rw [htable]
          exact hw.fresh other e (hlive.symm.trans he)
      · have hdead := Program.Asks.run_drops ha hattached (hdrops htable)
        rw [show (a.run w).2 = (Program.run (ExceptT.run a) w).2 from rfl, hdead] at he
        cases he
    · obtain ⟨row, hrow, hdecode⟩ := hw.fresh other e
        ((Program.Asks.run_keeps_other ha ho w).symm.trans he)
      refine ⟨row, ?_, hdecode⟩
      rw [← Store.Table.find?_remove_of_ne ho, hrest, Store.Table.find?_remove_of_ne ho, hrow]

end Accounts
