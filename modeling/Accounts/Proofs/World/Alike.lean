import Accounts.Proofs.World.Answer

/-!
# Worlds that differ in their keys

Two worlds are alike when they have the same clock, table and salt, and meet no fault of the database.
Their keys, their connections and their logs may differ, and so may the faults of their commands.  A
program that sends no command cannot tell them apart, and one that only reads the table leaves its
world alike:

    p sends no command      ->  (p.run w).1 = (p.run w').1
    p only reads the table  ->  w and (p.run w).2 are alike
-/

namespace Accounts

open Accounts.Request (Within)

variable {α β : Type} {w w' w'' : World} {r : Request} {S : Store.Statement → Prop}
  {C : Cache.Command → Prop}

/-- No statement meets a fault. -/
def World.Sound (w : World) : Prop := ∀ fault ∈ w.faults.sql, fault = none

/-- Worlds with the same clock, table and salt, in which no statement meets a fault. -/
structure World.Alike (w w' : World) : Prop where
  now : w'.now = w.now
  table : w'.table = w.table
  insertions : w'.insertions = w.insertions
  salt : w'.salt = w.salt
  sound : w.Sound
  sound' : w'.Sound

namespace World

theorem Sound.no_fault (h : w.Sound) : w.faults.sql.head?.join = none := by
  unfold Sound at h
  rcases hl : w.faults.sql with _ | ⟨fault, faults⟩
  · rfl
  · rw [hl] at h
    exact h fault List.mem_cons_self

theorem Sound.tried (h : w.Sound) (s : Store.Statement) : (w.tried s).Sound :=
  fun fault hf => h fault (List.mem_of_mem_drop hf)

namespace Alike

theorem refl (h : w.Sound) : w.Alike w := ⟨rfl, rfl, rfl, rfl, h, h⟩

theorem symm (h : w.Alike w') : w'.Alike w :=
  ⟨h.now.symm, h.table.symm, h.insertions.symm, h.salt.symm, h.sound', h.sound⟩

theorem trans (h : w.Alike w') (h' : w'.Alike w'') : w.Alike w'' :=
  ⟨h'.now.trans h.now, h'.table.trans h.table, h'.insertions.trans h.insertions,
    h'.salt.trans h.salt, h.sound, h'.sound'⟩

/-! ## Requests -/

theorem runStatement (h : w.Alike w') (s : Store.Statement) :
    (w.runStatement s).1 = (w'.runStatement s).1 ∧
      (w.runStatement s).2.Alike (w'.runStatement s).2 := by
  have hid : w'.newId s = w.newId s := by
    unfold newId tried
    rw [h.insertions]
  rw [runStatement_of_no_fault h.sound.no_fault, runStatement_of_no_fault h.sound'.no_fault]
  rw [hid, h.now, h.table]
  refine ⟨rfl, ⟨h.now, rfl, ?_, h.salt, h.sound.tried s, h.sound'.tried s⟩⟩
  unfold tried
  rw [h.insertions]

/-- A request that is no command gets the same reply in worlds that are alike. -/
theorem answer (h : w.Alike w') (hr : r.Within S fun _ => False) :
    (w.answer r).1 = (w'.answer r).1 ∧ (w.answer r).2.Alike (w'.answer r).2 := by
  cases r with
  | clock => exact ⟨h.now.symm, h⟩
  | salt => exact ⟨h.salt.symm, h⟩
  | log e => exact ⟨rfl, ⟨h.now, h.table, h.insertions, h.salt, h.sound, h.sound'⟩⟩
  | sql s => exact h.runStatement s
  | cache c => exact hr.elim
  | connection b => exact hr.elim

/-- A request that only reads the table leaves its world alike. -/
theorem of_answer (h : w.Sound) (hr : r.Within Store.Reads C) : w.Alike (w.answer r).2 := by
  cases r with
  | clock | salt => exact .refl h
  | log e => exact ⟨rfl, rfl, rfl, rfl, h, h⟩
  | sql s =>
    show w.Alike (w.runStatement s).2
    rw [runStatement_of_no_fault h.no_fault]
    cases s with
    | insert | revise | remove => exact hr.elim
    | findById id => exact ⟨rfl, rfl, rfl, rfl, h, h.tried (.findById id)⟩
    | findByEmail email => exact ⟨rfl, rfl, rfl, rfl, h, h.tried (.findByEmail email)⟩
    | probe => exact ⟨rfl, rfl, rfl, rfl, h, h.tried .probe⟩
  | cache c =>
    obtain ⟨hnow, htable, hinsertions, -, hsalt, -, hsql⟩ := w.runCommand_frame c
    refine ⟨hnow, htable, hinsertions, hsalt, h, fun fault hf => h fault ?_⟩
    rw [← hsql]
    exact hf
  | connection b => exact hr.elim

end Alike

end World

/-! ## Actions -/

open World

/-- Two actions answer the same in worlds that are alike, and leave them alike. -/
def Action.Agrees (a b : Action α) : Prop :=
  ∀ w w', w.Alike w' → (a.run w).1 = (b.run w').1 ∧ (a.run w).2.Alike (b.run w').2

theorem Action.Asks.agrees {a : Action α} (ha : a.Asks (Within S fun _ => False)) : a.Agrees a :=
  fun _ _ hw => Program.Asks.run_simulates ha (fun _ _ _ hr hw => hw.answer hr) hw

theorem Action.agrees_pure (x : α) : (pure x : Action α).Agrees (pure x) := fun _ _ hw => ⟨rfl, hw⟩

theorem Action.agrees_log (e : Event) : (log e).Agrees (log e) :=
  Asks.agrees (S := fun _ => False) (asks_log trivial)

theorem Action.Agrees.bind {a b : Action α} {f g : α → Action β} (hab : a.Agrees b)
    (hfg : ∀ x, (f x).Agrees (g x)) : (a >>= f).Agrees (b >>= g) := by
  intro w w' hw
  obtain ⟨heq, hafter⟩ := hab w w' hw
  rw [Action.run_bind, Action.run_bind]
  rcases ha : a.run w with ⟨x | x, w₁⟩ <;> rcases hb : b.run w' with ⟨y | y, w₁'⟩ <;>
    rw [ha, hb] at heq hafter <;> cases heq
  · exact ⟨rfl, hafter⟩
  · exact hfg _ _ _ hafter

/-- An action that only reads the table leaves its world alike. -/
theorem World.Alike.of_run (h : w.Sound) {a : Action α} (ha : a.Asks (Within Store.Reads C)) :
    w.Alike (a.run w).2 :=
  Program.Asks.run_keeps (I := w.Alike) ha (fun _ _ hr hw => hw.trans (.of_answer hw.sound' hr))
    (.refl h)

end Accounts
