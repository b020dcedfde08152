import Accounts.Proofs.World.Alike
import Accounts.Proofs.World.Run

/-!
# Worlds that differ in their logs

Worlds match when they are the same but for their logs and for the faults of their commands, and no
statement meets a fault in either.  An action that sends no command answers the same in both and leaves
them matching, and one that only reads the table leaves its world as it was:

    a sends no command      ->  (a.run w).1 = (a.run w').1,  and the worlds after it match
    a only reads the table  ->  (a.run w).2.settled = w.settled
-/

namespace Accounts

open Accounts.Request (Within)

variable {α : Type} {w w' w'' : World} {r : Request} {S : Store.Statement → Prop}

namespace World

/-! ## Reading -/

/-- A request that only reads changes no more than the log and the faults that are left. -/
theorem settled_of_answer (hr : r.Within Store.Reads fun _ => False) :
    (w.answer r).2.settled = w.settled := by
  cases r with
  | clock | salt | log => rfl
  | cache c => exact hr.elim
  | connection b => exact hr.elim
  | sql s =>
    show (w.runStatement s).2.settled = w.settled
    cases s with
    | insert | revise | remove => exact hr.elim
    | findById | findByEmail | probe =>
      rcases hfault : w.faults.sql.head?.join with _ | fault
      · rw [runStatement_of_no_fault hfault]
        rfl
      · rw [runStatement_of_fault hfault]
        rfl

/-! ## Matching worlds -/

/-- The same world but for the log, with a database that works. -/
structure Matches (w w' : World) : Prop where
  settled : w'.settled = w.settled
  sound : w.Sound
  sound' : w'.Sound

namespace Matches

theorem exists_log (h : w.Matches w') :
    ∃ faults events, w' = { w with faults := faults, events := events } := by
  have hsettled := h.settled
  refine ⟨w'.faults, w'.events, ?_⟩
  cases w
  cases w'
  simpa [World.settled] using hsettled

theorem refl (h : w.Sound) : w.Matches w := ⟨rfl, h, h⟩

theorem symm (h : w.Matches w') : w'.Matches w := ⟨h.settled.symm, h.sound', h.sound⟩

theorem trans (h : w.Matches w') (h' : w'.Matches w'') : w.Matches w'' :=
  ⟨h'.settled.trans h.settled, h.sound, h'.sound'⟩

/-- A request that is no command gets the same reply in worlds that match. -/
theorem answer (h : w.Matches w') (hr : r.Within S fun _ => False) :
    (w.answer r).1 = (w'.answer r).1 ∧ (w.answer r).2.Matches (w'.answer r).2 := by
  obtain ⟨faults, events, rfl⟩ := h.exists_log
  cases r with
  | clock | salt | log => exact ⟨rfl, rfl, h.sound, h.sound'⟩
  | cache c => exact hr.elim
  | connection b => exact hr.elim
  | sql s =>
    show (w.runStatement s).1 = (runStatement _ s).1 ∧
      (w.runStatement s).2.Matches (runStatement _ s).2
    rw [runStatement_of_no_fault h.sound.no_fault, runStatement_of_no_fault h.sound'.no_fault]
    exact ⟨rfl, rfl, h.sound.tried s, h.sound'.tried s⟩

end Matches

end World

/-! ## Actions -/

namespace Action

theorem Asks.run_settled {a : Action α} (ha : a.Asks (Within Store.Reads fun _ => False))
    (w : World) : (a.run w).2.settled = w.settled :=
  Program.Asks.run_keeps (I := fun w' => w'.settled = w.settled) ha
    (fun _ _ hr hw => (World.settled_of_answer hr).trans hw) rfl

theorem Asks.run_matches {a : Action α} (ha : a.Asks (Within S fun _ => False))
    (h : w.Matches w') : (a.run w).1 = (a.run w').1 ∧ (a.run w).2.Matches (a.run w').2 :=
  Program.Asks.run_simulates ha (fun _ _ _ hr hw => hw.answer hr) h

theorem Asks.matches_run {a : Action α} (ha : a.Asks (Within Store.Reads fun _ => False))
    (h : w.Sound) : w.Matches (a.run w).2 :=
  ⟨ha.run_settled w, h, (World.Alike.of_run h ha).sound'⟩

end Action

end Accounts
