import Accounts.Proofs.Store.Profiles
import Accounts.Proofs.World.Answer

/-!
# Worlds that differ in their hashes

Twins are worlds that are the same but for the hashes of the passwords in their tables.  Two programs
end alike in twins when they fail with the same error or end with related values, and leave twins
behind.  Ending alike goes through the parts of a program:

    a and b end alike, f x and g y end alike for related x and y
      ->  a >>= f and b >>= g end alike
-/

namespace Accounts

variable {α β γ δ ε : Type} {w w' : World} {R : α → β → Prop} {S : γ → δ → Prop}

/-- Worlds that are the same but for the hashes of passwords. -/
structure World.Twin (w w' : World) : Prop where
  now : w.now = w'.now
  profiles : w.table.profiles = w'.table.profiles
  insertions : w.insertions = w'.insertions
  keys : w.keys = w'.keys
  attached : w.attached = w'.attached
  salt : w.salt = w'.salt
  faults : w.faults = w'.faults
  events : w.events = w'.events

namespace World

theorem Twin.refl (w : World) : w.Twin w := ⟨rfl, rfl, rfl, rfl, rfl, rfl, rfl, rfl⟩

/-- The first of two twins with the table of the second. -/
theorem Twin.eq_with (h : w.Twin w') : w' = { w with table := w'.table } := by
  obtain ⟨hnow, -, hinsertions, hkeys, hattached, hsalt, hfaults, hevents⟩ := h
  cases w
  cases w'
  cases hnow
  cases hinsertions
  cases hkeys
  cases hattached
  cases hsalt
  cases hfaults
  cases hevents
  rfl

/-! ## Requests -/

/-- A command looks at no table. -/
theorem runCommand_with_table (w : World) (c : Cache.Command) (t : Store.Table) :
    runCommand { w with table := t } c =
      ((w.runCommand c).1, { (w.runCommand c).2 with table := t }) := by
  rcases w with ⟨now, table, insertions, keys, attached, salt, faults, events⟩
  unfold runCommand
  cases attached with
  | false => rfl
  | true =>
    dsimp only [Bool.not_true, Bool.false_eq_true, if_false]
    rcases Faults.next faults c with ⟨_ | fault, faults⟩
    · rcases c.run now keys with ⟨fault | result, keys⟩ <;> rfl
    · rfl

theorem Twin.runCommand (h : w.Twin w') (c : Cache.Command) :
    (w.runCommand c).1 = (w'.runCommand c).1 ∧ (w.runCommand c).2.Twin (w'.runCommand c).2 := by
  have htable : (w.runCommand c).2.table = w.table := (w.runCommand_frame c).2.1
  have hrun := runCommand_with_table w c w'.table
  rw [← h.eq_with] at hrun
  rw [hrun]
  refine ⟨rfl, rfl, ?_, rfl, rfl, rfl, rfl, rfl, rfl⟩
  rw [htable]
  exact h.profiles

/-- Twins in which statements of the same kind were tried. -/
theorem Twin.tried (h : w.Twin w') {s s' : Store.Statement}
    (hs : isInsertion s = isInsertion s') : (w.tried s).Twin (w'.tried s') := by
  refine ⟨h.now, h.profiles, ?_, h.keys, h.attached, h.salt, ?_, h.events⟩
  · unfold World.tried
    rw [hs, h.insertions]
  · unfold World.tried
    rw [h.faults]

/-- Twins with new tables of the same profiles. -/
theorem Twin.with_tables (h : w.Twin w') {t t' : Store.Table} (ht : t.profiles = t'.profiles) :
    Twin { w with table := t } { w' with table := t' } :=
  ⟨h.now, ht, h.insertions, h.keys, h.attached, h.salt, h.faults, h.events⟩

theorem Twin.log (h : w.Twin w') (e : Event) :
    Twin { w with events := w.events ++ [e] } { w' with events := w'.events ++ [e] } := by
  refine ⟨h.now, h.profiles, h.insertions, h.keys, h.attached, h.salt, h.faults, ?_⟩
  show w.events ++ [e] = w'.events ++ [e]
  rw [h.events]

/-- A request whose reply holds no row. -/
def Plain : Request → Prop
  | .sql (.remove _) | .sql .probe => True
  | .sql _ => False
  | _ => True

theorem plain_of_within {S : Store.Statement → Prop} {C : Cache.Command → Prop}
    (hS : ∀ s, S s → Plain (.sql s)) (r : Request) (hr : r.Within S C) : Plain r := by
  cases r with
  | sql s => exact hS s hr
  | clock | salt | log | cache | connection => trivial

/-- A statement that meets a fault. -/
theorem Twin.runStatement_of_fault (h : w.Twin w') {s s' : Store.Statement} {fault : Store.Fault}
    (hs : isInsertion s = isInsertion s') (hfault : w.faults.sql.head?.join = some fault) :
    w.runStatement s = (.error fault, w.tried s) ∧
      w'.runStatement s' = (.error fault, w'.tried s') ∧ (w.tried s).Twin (w'.tried s') :=
  ⟨World.runStatement_of_fault hfault, World.runStatement_of_fault (h.faults ▸ hfault), h.tried hs⟩

theorem Twin.answer (h : w.Twin w') {r : Request} (hr : Plain r) :
    (w.answer r).1 = (w'.answer r).1 ∧ (w.answer r).2.Twin (w'.answer r).2 := by
  cases r with
  | clock => exact ⟨h.now, h⟩
  | salt => exact ⟨h.salt, h⟩
  | log e => exact ⟨rfl, h.log e⟩
  | cache c => exact h.runCommand c
  | connection b =>
    exact ⟨h.attached, h.now, h.profiles, h.insertions, h.keys, rfl, h.salt, h.faults, h.events⟩
  | sql s =>
    show (w.runStatement s).1 = (w'.runStatement s).1 ∧
      (w.runStatement s).2.Twin (w'.runStatement s).2
    cases hfault : w.faults.sql.head?.join with
    | some fault =>
      obtain ⟨h₁, h₂, htwin⟩ := h.runStatement_of_fault (s := s) rfl hfault
      rw [h₁, h₂]
      exact ⟨rfl, htwin⟩
    | none =>
      rw [runStatement_of_no_fault hfault, runStatement_of_no_fault (h.faults ▸ hfault)]
      cases s with
      | insert | revise | findById | findByEmail => exact hr.elim
      | probe => exact ⟨rfl, (h.tried rfl).with_tables h.profiles⟩
      | remove id =>
        refine ⟨congrArg Except.ok ?_, (h.tried rfl).with_tables ?_⟩
        · show (w.table.find? id).isSome = (w'.table.find? id).isSome
          rw [← Option.isSome_map, Store.Table.find?_alike h.profiles, Option.isSome_map]
        · show (w.table.remove id).profiles = (w'.table.remove id).profiles
          rw [Store.Table.profiles_remove, Store.Table.profiles_remove, h.profiles]

end World

/-! ## Ending alike -/

/-- Results that are the same error, or related values. -/
def SameOutcome (R : α → β → Prop) : Except ε α → Except ε β → Prop
  | .ok a, .ok b => R a b
  | .error e, .error e' => e = e'
  | _, _ => False

theorem SameOutcome.eq {x y : Except ε α} (h : SameOutcome Eq x y) : x = y := by
  cases x <;> cases y
  · exact congrArg _ h
  · exact h.elim
  · exact h.elim
  · exact congrArg _ h

theorem SameOutcome.of_map {x : Except ε α} {y : Except ε β} {f : α → γ} {g : β → γ}
    (h : x.map f = y.map g) : SameOutcome (fun a b => f a = g b) x y := by
  cases x <;> cases y
  · exact Except.error.inj h
  · cases h
  · cases h
  · exact Except.ok.inj h

/-- Two programs that may fail have the same outcome in two worlds, and leave twins. -/
structure EndsAlike (R : α → β → Prop) (a : ExceptT ε Program α) (b : ExceptT ε Program β)
    (w w' : World) : Prop where
  outcome : SameOutcome R (Program.run (ExceptT.run a) w).1 (Program.run (ExceptT.run b) w').1
  twin : (Program.run (ExceptT.run a) w).2.Twin (Program.run (ExceptT.run b) w').2

namespace EndsAlike

variable {a : ExceptT ε Program α} {b : ExceptT ε Program β} {f : α → ExceptT ε Program γ}
  {g : β → ExceptT ε Program δ}

theorem pure {x : α} {y : β} (h : w.Twin w') (hxy : R x y) :
    EndsAlike (ε := ε) R (pure x) (pure y) w w' := ⟨hxy, h⟩

theorem throw (h : w.Twin w') (e : ε) :
    EndsAlike R (throw e : ExceptT ε Program α) (throw e : ExceptT ε Program β) w w' := ⟨rfl, h⟩

theorem mono {R' : α → β → Prop} (hR : ∀ x y, R x y → R' x y) (h : EndsAlike R a b w w') :
    EndsAlike R' a b w w' := by
  obtain ⟨houtcome, htwin⟩ := h
  refine ⟨?_, htwin⟩
  revert houtcome
  rcases (Program.run (ExceptT.run a) w).1 with e | x <;>
    rcases (Program.run (ExceptT.run b) w').1 with e' | y
  · exact id
  · exact id
  · exact id
  · exact hR x y

theorem bind (h : EndsAlike R a b w w')
    (hfg : ∀ x y v v', R x y → v.Twin v' → EndsAlike S (f x) (g y) v v') :
    EndsAlike S (a >>= f) (b >>= g) w w' := by
  obtain ⟨houtcome, htwin⟩ := h
  rcases ha : Program.run (ExceptT.run a) w with ⟨e | x, v⟩ <;>
    rcases hb : Program.run (ExceptT.run b) w' with ⟨e' | y, v'⟩ <;>
    rw [ha, hb] at houtcome htwin
  · refine ⟨?_, ?_⟩ <;> rw [Program.run_except_bind, Program.run_except_bind, ha, hb]
    · exact houtcome
    · exact htwin
  · exact houtcome.elim
  · exact houtcome.elim
  · have hrest := hfg x y v v' houtcome htwin
    refine ⟨?_, ?_⟩ <;> rw [Program.run_except_bind, Program.run_except_bind, ha, hb]
    · exact hrest.outcome
    · exact hrest.twin

/-- A program whose replies hold no row. -/
theorem of_asks {a : ExceptT ε Program α} (ha : Program.Asks World.Plain (ExceptT.run a))
    (h : w.Twin w') : EndsAlike Eq a a w w' := by
  obtain ⟨hresult, htwin⟩ := ha.run_simulates (fun _ _ _ hr hw => hw.answer hr) h
  refine ⟨?_, htwin⟩
  rw [hresult]
  cases (Program.run (ExceptT.run a) w').1 with
  | ok x => exact rfl
  | error e => exact rfl

end EndsAlike

/-- An action that runs no statement. -/
theorem EndsAlike.of_no_statement {C : Cache.Command → Prop} {a : Action α}
    (ha : a.Asks (Request.Within (fun _ => False) C)) (h : w.Twin w') : EndsAlike Eq a a w w' :=
  .of_asks (ha.mono (World.plain_of_within fun _ hs => hs.elim)) h

/-- A handler of errors that ends alike for the same error. -/
theorem EndsAlike.handled {a : Action α} {b : Action β} {handle : Error → Action α}
    {handle' : Error → Action β} (h : EndsAlike R a b w w')
    (hh : ∀ e v v', v.Twin v' → EndsAlike R (handle e) (handle' e) v v') :
    EndsAlike R (tryCatch a handle) (tryCatch b handle') w w' := by
  obtain ⟨houtcome, htwin⟩ := h
  change SameOutcome R (a.run w).1 (b.run w').1 at houtcome
  change (a.run w).2.Twin (b.run w').2 at htwin
  suffices hends : SameOutcome R (Action.run (tryCatch a handle) w).1
      (Action.run (tryCatch b handle') w').1 ∧ (Action.run (tryCatch a handle) w).2.Twin
      (Action.run (tryCatch b handle') w').2 from ⟨hends.1, hends.2⟩
  rw [Action.run_tryCatch, Action.run_tryCatch]
  rcases ha : a.run w with ⟨e | x, v⟩ <;> rcases hb : b.run w' with ⟨e' | y, v'⟩ <;>
    rw [ha, hb] at houtcome htwin
  · obtain rfl : e = e' := houtcome
    have hrest := hh e v v' htwin
    exact ⟨hrest.outcome, hrest.twin⟩
  · exact houtcome.elim
  · exact houtcome.elim
  · exact ⟨houtcome, htwin⟩

/-- Statements that meet no fault and end alike on tables of the same profiles. -/
theorem EndsAlike.statement (s s' : Store.Statement)
    {R : Except Store.Fault s.Result → Except Store.Fault s'.Result → Prop} (h : w.Twin w')
    (hs : World.isInsertion s = World.isInsertion s')
    (hfault : ∀ fault, R (.error fault) (.error fault))
    (hrun : w.faults.sql.head?.join = none → ∀ new,
      R (s.run w.now new w.table).1 (s'.run w.now new w'.table).1 ∧
      (s.run w.now new w.table).2.profiles = (s'.run w.now new w'.table).2.profiles) :
    EndsAlike R (Action.statement s) (Action.statement s') w w' := by
  suffices hends : R (w.runStatement s).1 (w'.runStatement s').1 ∧
      (w.runStatement s).2.Twin (w'.runStatement s').2 from ⟨hends.1, hends.2⟩
  cases hf : w.faults.sql.head?.join with
  | some fault =>
    obtain ⟨h₁, h₂, htwin⟩ := h.runStatement_of_fault hs hf
    rw [h₁, h₂]
    exact ⟨hfault fault, htwin⟩
  | none =>
    have htried : (w.tried s).Twin (w'.tried s') := h.tried hs
    have hnew : w'.newId s' = w.newId s := congrArg World.insertionId htried.insertions.symm
    obtain ⟨hresult, hprofiles⟩ := hrun hf (w.newId s)
    rw [World.runStatement_of_no_fault hf, World.runStatement_of_no_fault (h.faults ▸ hf), hnew,
      ← h.now]
    exact ⟨hresult, htried.with_tables hprofiles⟩

theorem EndsAlike.query {s : Store.Statement} {R : s.Result → s.Result → Prop}
    (h : EndsAlike (SameOutcome R) (Action.statement s) (Action.statement s) w w') :
    EndsAlike R (Action.query s) (Action.query s) w w' := by
  refine h.bind fun x y v v' hxy hv => ?_
  rcases x with fault | a <;> rcases y with fault' | b
  · obtain rfl : fault = fault' := hxy
    exact .throw hv _
  · exact hxy.elim
  · exact hxy.elim
  · exact .pure hv hxy

end Accounts
