import Accounts.Proofs.Cache.Codec
import Accounts.Proofs.Cache.Keyspace
import Accounts.Proofs.Service.Requests
import Accounts.Proofs.World.Answer

/-!
# Taking copies away

Programs that only take the copy of one account away leave all other copies alone, and bring none to
life.  As soon as one of their commands is carried out, nothing is alive under the key of the account:

    a deletion or an end of life that is carried out  ->  no copy from then on
-/

namespace Accounts

open Accounts.Request (Within)
open Cache (key)

variable {α : Type} {S : Store.Statement → Prop} {id other : Uuid} {w : World} {r : Request}

/-- An exchange takes a copy away, or finds no connection to do it: the command does not fail. -/
def Exchange.drops : Exchange → Bool
  | ⟨.cache (.delete _), outcome⟩ => (show Cache.Outcome Unit from outcome).isOkOrDetached
  | ⟨.cache (.expire _ _), outcome⟩ => (show Cache.Outcome Unit from outcome).isOkOrDetached
  | _ => false

/-! ## Other keys -/

theorem World.key_ne (h : other ≠ id) : key other ≠ key id := fun heq => h (Cache.key_injective heq)

/-- Taking a copy away leaves the keys of other accounts alone. -/
theorem Cache.Drops.leaves {c : Cache.Command} (hc : Cache.Drops id c) (h : other ≠ id) :
    c.Leaves (key other) := by
  rcases hc with rfl | rfl
  · exact mt List.mem_singleton.1 (World.key_ne h)
  · exact World.key_ne h

/-- A request that touches nothing under a key. -/
def Request.Leaves (name : String) (r : Request) : Prop := ∀ c, r = .cache c → c.Leaves name

theorem Request.leaves_of_within {name : String} {C : Cache.Command → Prop}
    (hC : ∀ c, C c → c.Leaves name) (r : Request) (hr : r.Within S C) : r.Leaves name := by
  rintro c rfl
  exact hC c hr

namespace World

/-! ## One request -/

/-- Requests other than commands leave what is alive alone. -/
theorem answer_live?_of_no_command (hr : ∀ c, r ≠ .cache c) (name : String) :
    (w.answer r).2.keys.live? w.now name = w.keys.live? w.now name := by
  rw [answer_keys w hr]

/-- What a command leaves alive under a key, when it leaves it alone or may do its work there. -/
theorem runCommand_live? {c : Cache.Command} {name : String} {P : Option Cache.Entry → Prop}
    (same : P (w.keys.live? w.now name)) (work : P ((c.run w.now w.keys).2.live? w.now name)) :
    P ((w.runCommand c).2.keys.live? w.now name) := by
  rcases runCommand_keys w c with h | h
  · rwa [h]
  · rwa [h]

/-- A request that touches nothing under a key leaves what is there. -/
theorem answer_get? {name : String} (hr : r.Leaves name) (w : World) :
    Assoc.get? name (w.answer r).2.keys = Assoc.get? name w.keys := by
  cases r with
  | cache c =>
    show Assoc.get? name (w.runCommand c).2.keys = _
    rcases runCommand_keys w c with heq | heq
    · rw [heq]
    · rw [heq, (hr c rfl).run_get?]
  | clock | salt | log | sql | connection => rw [answer_keys w fun c hc => by cases hc]

/-- Taking a copy away leaves the copy as it was, or nothing alive. -/
theorem answer_none_or_same (hr : r.Within S (Cache.Drops id)) :
    (w.answer r).2.keys.live? w.now (key id) = none ∨
      (w.answer r).2.keys.live? w.now (key id) = w.keys.live? w.now (key id) := by
  cases r with
  | cache c =>
    refine runCommand_live? (P := fun e => e = none ∨ e = w.keys.live? w.now (key id)) (.inr rfl) ?_
    rcases hr with rfl | rfl
    · exact .inl (Cache.Keyspace.live?_erase_self _ _ _)
    · exact Cache.live?_expire_zero_or_same _ _ _
  | connection b => exact hr.elim
  | sql s => exact .inr (answer_live?_of_no_command (fun _ hc => by cases hc) _)
  | clock | salt | log => exact .inr rfl

/-- A command that takes the copy away and is carried out leaves nothing alive. -/
theorem answer_drops (hr : r.Within S (Cache.Drops id)) (hattached : w.attached = true)
    (hdrops : (Exchange.mk r (w.answer r).1).drops = true) :
    (w.answer r).2.keys.live? w.now (key id) = none := by
  cases r with
  | cache c =>
    show (w.runCommand c).2.keys.live? w.now (key id) = none
    rcases hr with rfl | rfl
    · change (w.runCommand (.delete [key id])).1.isOkOrDetached = true at hdrops
      rcases runCommand_cases (c := .delete [key id]) hattached with ⟨_, hc⟩ | ⟨_, -, hc⟩ |
        ⟨_, -, hc⟩
      · rw [hc] at hdrops
        cases hdrops
      · rw [hc] at hdrops
        cases hdrops
      · rw [hc]
        exact Cache.Keyspace.live?_erase_self _ _ _
    · change (w.runCommand (.expire (key id) 0)).1.isOkOrDetached = true at hdrops
      rcases runCommand_cases (c := .expire (key id) 0) hattached with ⟨_, hc⟩ | ⟨_, -, hc⟩ |
        ⟨_, hok, hc⟩
      · rw [hc] at hdrops
        cases hdrops
      · rw [hc] at hdrops
        cases hdrops
      · rw [hc]
        exact Cache.live?_expire_zero hok
  | connection b => exact hr.elim
  | clock | salt | log | sql => cases hdrops

/-- A deletion that meets no fault is carried out, unless there is no connection. -/
theorem runCommand_delete (h : w.faults.delete.head?.join = none) (name : String) :
    (w.runCommand (.delete [name])).1.isOkOrDetached = true := by
  unfold runCommand
  cases hattached : w.attached with
  | false => rfl
  | true =>
    rw [if_neg (by simp)]
    rw [show Faults.next w.faults (.delete [name]) = (none, _) from congrArg (·, _) h]
    rfl

/-- A deletion that meets no fault leaves nothing under the key, when there is nothing at all without a
connection. -/
theorem runCommand_delete_get? {name : String} (h : w.faults.delete.head?.join = none)
    (hdetached : w.attached = false → w.keys = []) :
    Assoc.get? name (w.runCommand (.delete [name])).2.keys = none := by
  cases hattached : w.attached with
  | false =>
    rw [runCommand_of_detached hattached, hdetached hattached]
    rfl
  | true =>
    have hnext : Faults.next w.faults (.delete [name]) =
        (none, { w.faults with delete := w.faults.delete.drop 1 }) := congrArg (·, _) h
    unfold runCommand
    rw [if_neg (by simp [hattached]), hnext]
    exact Cache.Keyspace.get?_erase_self w.keys name

end World

/-! ## Programs -/

namespace Program.Asks

variable {p : Program α}

theorem run_get? {name : String} (hp : p.Asks (Request.Leaves name)) (w : World) :
    Assoc.get? name (p.run w).2.keys = Assoc.get? name w.keys :=
  hp.run_keeps (I := fun w' => Assoc.get? name w'.keys = Assoc.get? name w.keys)
    (fun _ w' hr hw' => (World.answer_get? hr w').trans hw') rfl

theorem run_keeps_other (hp : p.Asks (Within S (Cache.Drops id))) (h : other ≠ id) (w : World) :
    (p.run w).2.keys.live? w.now (key other) = w.keys.live? w.now (key other) := by
  have hleaves := hp.mono (Request.leaves_of_within fun c hc => hc.leaves h)
  rw [Cache.Keyspace.live?, Cache.Keyspace.live?, hleaves.run_get?]

/-- The copy stays as it was, or nothing is alive any more. -/
theorem run_none_or_same (hp : p.Asks (Within S (Cache.Drops id))) (w : World) :
    (p.run w).2.keys.live? w.now (key id) = none ∨
      (p.run w).2.keys.live? w.now (key id) = w.keys.live? w.now (key id) := by
  have hkeeps := hp.run_keeps (w := w)
    (I := fun w' => w'.now = w.now ∧ (w'.keys.live? w.now (key id) = none ∨
      w'.keys.live? w.now (key id) = w.keys.live? w.now (key id)))
    (fun q w' hq hw' => by
      obtain ⟨hnow, hlive⟩ := hw'
      refine ⟨(w'.answer_now q).trans hnow, ?_⟩
      rw [← hnow] at hlive ⊢
      rcases World.answer_none_or_same hq (w := w') with hq | hq
      · exact .inl hq
      · rwa [hq]) ⟨rfl, .inr rfl⟩
  exact hkeeps.2

/-- A run in which one command that takes the copy away is carried out leaves nothing alive. -/
theorem run_drops (hp : p.Asks (Within S (Cache.Drops id))) (hattached : w.attached = true)
    (hdrops : (p.trace w).any Exchange.drops = true) :
    (p.run w).2.keys.live? w.now (key id) = none := by
  induction hp generalizing w with
  | done a => cases hdrops
  | @ask q next here later ih =>
    have hnow := w.answer_now q
    have hconn : (w.answer q).2.attached = true := by
      rw [World.answer_attached_of_within here, hattached]
    rw [trace, List.any_cons, Bool.or_eq_true] at hdrops
    show ((next (w.answer q).1).run (w.answer q).2).2.keys.live? w.now (key id) = none
    rw [← hnow]
    rcases hdrops with hdrops | hdrops
    · have hdead := World.answer_drops here hattached hdrops
      rw [← hnow] at hdead
      rcases run_none_or_same (later (w.answer q).1) (w.answer q).2 with h | h
      · exact h
      · exact h.trans hdead
    · exact ih _ hconn hdrops

end Program.Asks

end Accounts
