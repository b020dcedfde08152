import Accounts.Proofs.Cache.Coherence
import Accounts.Proofs.Service.Effects
import Accounts.Proofs.World.Alike

/-!
# The cache is transparent

A run of the service with the cache answers and stores exactly what the same run without the cache
does, whatever faults the commands meet, as long as each change of the table is followed by one
command for the copy that is carried out:

    answers and tables with the cache = answers and tables without it
    find id = the current row of id
-/

namespace Accounts

open Accounts.Action
open Accounts.Request (Within)
open Calendar (Instant)
open Cache (key)

variable {α : Type} {w w' : World} {id : Uuid}

/-- A part that never fails and gives nothing answers the same in worlds that are alike. -/
theorem Action.Returns.agrees {a : Action Unit} (ha : a.Returns) {C : Cache.Command → Prop}
    (hasks : a.Asks (Within Store.Reads C)) : a.Agrees a := by
  intro w w' hw
  obtain ⟨_, w₁, h₁⟩ := ha w
  obtain ⟨_, w₁', h₁'⟩ := ha w'
  refine ⟨by rw [h₁, h₁'], ?_⟩
  exact (World.Alike.of_run hw.sound hasks).symm.trans
    (hw.trans (World.Alike.of_run hw.sound' hasks))

/-! ## Looking up -/

/-- In a coherent world the cache gives nothing, or the account of the current row. -/
theorem Cache.find_run (hw : Coherent w) (id : Uuid) : ∃ cached w',
    (find id).run w = (.ok cached, w') ∧
      (cached = none ∨ ∃ row, w.table.find? id = some row ∧ cached = some row.account) := by
  obtain ⟨cached, w', h, hlive⟩ := find_live id w
  refine ⟨cached, w', h, ?_⟩
  cases cached with
  | none => exact .inl rfl
  | some account =>
    obtain ⟨e, he, hdecode⟩ := hlive account rfl
    obtain ⟨row, hrow, hfresh⟩ := hw.fresh id e he
    exact .inr ⟨row, hrow, hdecode.symm.trans hfresh⟩

namespace Identity

/-- The account of an identifier in a table, as a look-up answers it. -/
def lookUp (t : Store.Table) (id : Uuid) : Except Error Account :=
  match t.find? id with
  | some row => .ok row.account
  | none => .error
      (.failure { cause := .unknownAccount, operation := some "identity.get_by_id" })

theorem looked_run (hw : w.Sound) (id : Uuid) : ((looked id).run w).1 = lookUp w.table id := by
  have hquery : Action.run (query (.findById id)) w = (.ok (w.table.find? id),
      { w.tried (.findById id) with table := w.table }) := by
    rw [run_query, World.runStatement_of_no_fault hw.no_fault]
    rfl
  have hfind : Action.run (Store.find id) w = _ := run_bind_ok _ hquery
  unfold looked operation lookUp
  rw [run_tryCatch, hfind]
  rcases w.table.find? id with _ | row <;> rfl

theorem populated_run (hw : Coherent w) (hs : w.Sound) (config : Config) (id : Uuid) :
    ((populated config id).run w).1 = lookUp w.table id ∧
      Coherent ((populated config id).run w).2 := by
  have hlooked := looked_run hs id
  have hasks : (looked id).Asks (Within Store.Reads fun c => ∃ name, c = .get name) :=
    (asks_looked id).mono (Within.mono (fun _ h => by rw [h]; trivial) fun _ h => h)
  have hw₁ : Coherent ((looked id).run w).2 :=
    hw.run_reading (hasks.mono (Within.mono (fun _ h => h.not_rewrites) fun _ h => h))
  have htable : ((looked id).run w).2.table = w.table := (World.Alike.of_run hs hasks).table
  unfold populated
  rcases h₁ : (looked id).run w with ⟨result, w₁⟩
  rw [h₁] at hlooked hw₁ htable
  dsimp only at hlooked hw₁ htable
  cases hrow : w.table.find? id with
  | none =>
    have herror : result = .error (.failure
        { cause := .unknownAccount, operation := some "identity.get_by_id" }) := by
      rw [hlooked, lookUp, hrow]
    rw [run_bind_error _ (h₁.trans (by rw [herror]))]
    exact ⟨herror.symm.trans hlooked, hw₁⟩
  | some row =>
    have hok : result = .ok row.account := by rw [hlooked, lookUp, hrow]
    obtain ⟨stored, w₂, h₂⟩ := Cache.returns_store row.account config.cacheSeconds w₁
    have hw₂ : Coherent w₂ := by
      have h := hw₁.run_store (htable ▸ hrow) config.cacheSeconds
      rwa [h₂] at h
    rw [run_bind_ok _ (h₁.trans (by rw [hok])), ← hlooked, hok]
    show (Action.run (Cache.store row.account config.cacheSeconds >>= _) w₁).1 = _ ∧ Coherent
      (Action.run (Cache.store row.account config.cacheSeconds >>= _) w₁).2
    rw [run_bind_ok _ h₂]
    cases stored with
    | true => exact ⟨rfl, hw₂⟩
    | false => exact ⟨rfl, hw₂.of_same ⟨rfl, rfl, rfl, rfl⟩⟩

/-- A look-up answers the current row, and leaves a coherent world coherent and alike. -/
theorem find_run (hw : Coherent w) (hs : w.Sound) (config : Config) (id : Uuid) :
    ((find config id).run w).1 = lookUp w.table id ∧ Coherent ((find config id).run w).2 ∧
      w.Alike ((find config id).run w).2 := by
  have halike : w.Alike ((find config id).run w).2 :=
    .of_run hs ((asks_find config id).mono
      (Within.mono (fun _ h => by rw [h]; trivial) fun _ h => h))
  obtain ⟨cached, w₁, h₁, hcached⟩ := Cache.find_run hw id
  have hasks : (Cache.find id).Asks (Within Store.Reads fun c => ∃ name, c = .get name) :=
    (Cache.asks_find id).mono (Within.mono (fun _ h => h) fun _ h => ⟨_, h⟩)
  have hw₁ : Coherent w₁ := by
    have h := hw.run_reading (hasks.mono (Within.mono (fun _ h => h.not_rewrites) fun _ h => h))
    rwa [h₁] at h
  have hs₁ : w.Alike w₁ := by
    have h := World.Alike.of_run hs hasks
    rwa [h₁] at h
  refine and_assoc.1 ⟨?_, halike⟩
  rw [find_eq, run_bind_ok _ h₁]
  rcases hcached with rfl | ⟨row, hrow, rfl⟩
  · rw [← hs₁.table]
    exact populated_run hw₁ hs₁.sound' config id
  · refine ⟨?_, hw₁⟩
    unfold lookUp
    rw [hrow]
    rfl

end Identity

/-! ## Steps -/

/-- A step of the service, a new salt, or the passing of time. -/
def Step.IsService : Step → Prop
  | .register _ | .login _ | .update _ _ | .delete _ | .find _ | .setSalt _ => True
  | .advance span => 0 ≤ span
  | _ => False

/-- A change of an account that is there already. -/
def Step.Changes : Step → Prop
  | .update _ _ | .delete _ => True
  | _ => False

/-- The same setup with the cache disabled. -/
def Setup.uncached (setup : Setup) : Setup := { setup with cacheEnabled := false }

/-- A coherent world, and one that is alike but for having no cache. -/
structure World.Shadows (w w' : World) : Prop where
  alike : w.Alike w'
  coherent : Coherent w
  detached : w'.attached = false
  bare : w'.keys = []

namespace World.Shadows

theorem coherent' (h : w.Shadows w') : Coherent w' :=
  .of_no_keys h.bare (h.alike.table ▸ h.coherent.fits)

theorem of_run (h : w.Shadows w') {S : Store.Statement → Prop} {C : Cache.Command → Prop}
    {a : Action α} (ha : a.Asks (Within S C)) (halike : (a.run w).2.Alike (a.run w').2)
    (hcoherent : Coherent (a.run w).2) : (a.run w).2.Shadows (a.run w').2 := by
  obtain ⟨hdetached, hkeys⟩ := World.run_detached h.detached ha
  exact ⟨halike, hcoherent, hdetached, hkeys.trans h.bare⟩

/-- An action that rewrites no row and sends no command. -/
theorem run_quiet (h : w.Shadows w') {S : Store.Statement → Prop} {a : Action α}
    (ha : a.Asks (Within S fun _ => False)) (hS : ∀ s, S s → ∀ id, ¬ Store.Rewrites id s) :
    (a.run w).1 = (a.run w').1 ∧ (a.run w).2.Shadows (a.run w').2 := by
  obtain ⟨hanswer, halike⟩ := ha.agrees w w' h.alike
  exact ⟨hanswer, h.of_run ha halike
    (h.coherent.run_reading (ha.mono (Within.mono hS fun _ hc => hc.elim)))⟩

/-- An action that changes one account and then takes its copy away. -/
theorem run_change (h : w.Shadows w') (id : Uuid) {a : Action α} (hagrees : a.Agrees a)
    (ha : a.Asks (Within (Store.Rewrites id) (Cache.Drops id)))
    (hdrops : (a.run w).2.table ≠ w.table → (a.trace w).any Exchange.drops = true) :
    (a.run w).1 = (a.run w').1 ∧ (a.run w).2.Shadows (a.run w').2 := by
  obtain ⟨hanswer, halike⟩ := hagrees w w' h.alike
  exact ⟨hanswer, h.of_run ha halike (h.coherent.of_dropped ha hdrops)⟩

/-- Time passes, and only takes copies away. -/
theorem advance (h : w.Shadows w') {span : Instant} (hspan : 0 ≤ span) :
    World.Shadows { w with now := w.now + span } { w' with now := w'.now + span } := by
  obtain ⟨halike, hcoherent, hdetached, hbare⟩ := h
  refine ⟨⟨?_, halike.table, halike.insertions, halike.salt, halike.sound, halike.sound'⟩,
    ⟨fun id e he => ?_, hcoherent.fits, hcoherent.detached⟩, hdetached, hbare⟩
  · show w'.now + span = w.now + span
    rw [halike.now]
  · exact hcoherent.fresh id e (Cache.Keyspace.live?_later (Int.le_add_of_nonneg_right hspan) he)

/-- The next salt is drawn on both sides. -/
theorem setSalt (h : w.Shadows w') (salt : String) :
    World.Shadows { w with salt := salt } { w' with salt := salt } where
  alike := ⟨h.alike.now, h.alike.table, h.alike.insertions, rfl, h.alike.sound, h.alike.sound'⟩
  coherent := h.coherent.of_same ⟨rfl, rfl, rfl, rfl⟩
  detached := h.detached
  bare := h.bare

theorem facing (h : w.Shadows w') {faults : Faults} (hsql : ∀ fault ∈ faults.sql, fault = none) :
    (w.facing faults).Shadows (w'.facing faults) where
  alike := ⟨h.alike.now, h.alike.table, h.alike.insertions, h.alike.salt, hsql, hsql⟩
  coherent := h.coherent.of_same ⟨rfl, rfl, rfl, rfl⟩
  detached := h.detached
  bare := h.bare

theorem settled (h : w.Shadows w') : w.settled.Shadows w'.settled where
  alike := ⟨h.alike.now, h.alike.table, h.alike.insertions, h.alike.salt,
    fun _ hf => (nomatch hf), fun _ hf => (nomatch hf)⟩
  coherent := h.coherent.of_same ⟨rfl, rfl, rfl, rfl⟩
  detached := h.detached
  bare := h.bare

end World.Shadows

namespace Identity

theorem agrees_invalidate (name : String) (id : Uuid) :
    (invalidate name id).Agrees (invalidate name id) :=
  (returns_invalidate name id).agrees (asks_invalidate name id)

theorem agrees_update (id : Uuid) (d : Details) : (update id d).Agrees (update id d) := by
  rw [update_eq]
  refine (asks_revised id d).agrees.bind fun account => ?_
  exact (agrees_invalidate _ id).bind fun _ => agrees_pure _

theorem agrees_delete (id : Uuid) : (delete id).Agrees (delete id) := by
  rw [delete_eq]
  refine (asks_removed id).agrees.bind fun _ => ?_
  exact (agrees_invalidate _ id).bind fun _ => agrees_log _

end Identity

/-- What a look-up answers as a step. -/
def Answer.found (t : Store.Table) (id : Uuid) : Except Error Answer :=
  (Identity.lookUp t id).map fun account => .account (some account)

theorem Step.find_answers (setup : Setup) (hw : Coherent w) (hs : w.Sound) (id : Uuid) :
    (Step.run setup (.find id) w).1 = Answer.found w.table id ∧
      Coherent (Step.run setup (.find id) w).2 ∧ w.Alike (Step.run setup (.find id) w).2 := by
  obtain ⟨hanswer, hcoherent, halike⟩ := Identity.find_run hw hs setup.identity id
  rw [Step.run_find]
  exact ⟨congrArg (Except.map _) hanswer, hcoherent, halike⟩

/-- A step of the service answers the same with and without the cache, as long as a change takes the
copy away. -/
theorem Step.run_shadows (setup : Setup) {step : Step} (h : w.Shadows w') (hs : step.IsService)
    (hdrops : step.Changes → (step.run setup w).2.table ≠ w.table →
      (step.trace setup w).any Exchange.drops = true) :
    (step.run setup w).1 = (step.run setup.uncached w').1 ∧
      (step.run setup w).2.Shadows (step.run setup.uncached w').2 := by
  cases step with
  | register r =>
    exact h.run_quiet (Asks.bind (Identity.asks_register _ r) fun _ => asks_pure _)
      fun s hs => hs.not_rewrites
  | login c =>
    refine h.run_quiet (Asks.bind (Identity.asks_login _ c) fun _ => asks_pure _) ?_
    rintro s rfl id
    exact not_false
  | update id d =>
    refine h.run_change id ((Identity.agrees_update id d).bind fun _ => agrees_pure _)
      ?_ (hdrops trivial)
    refine Asks.bind ((Identity.asks_update id d).mono (Within.mono ?_ fun _ h => h))
      fun _ => asks_pure _
    rintro s ⟨d, rfl⟩
    exact rfl
  | delete id =>
    refine h.run_change id ((Identity.agrees_delete id).bind fun _ => agrees_pure _)
      ?_ (hdrops trivial)
    refine Asks.bind ((Identity.asks_delete id).mono (Within.mono ?_ fun _ h => h))
      fun _ => asks_pure _
    rintro s rfl
    exact rfl
  | find id =>
    obtain ⟨hanswer, hcoherent, halike⟩ := Step.find_answers setup h.coherent h.alike.sound id
    obtain ⟨hanswer', -, halike'⟩ :=
      Step.find_answers setup.uncached h.coherent' h.alike.sound' id
    refine ⟨by rw [hanswer, hanswer', h.alike.table], ?_⟩
    exact h.of_run (Asks.bind (Identity.asks_find _ id) fun _ => asks_pure _)
      (halike.symm.trans (h.alike.trans halike')) hcoherent
  | advance span =>
    refine ⟨?_, h.advance hs⟩
    show Except.ok (Answer.clock (w.now + span)) = Except.ok (Answer.clock (w'.now + span))
    rw [h.alike.now]
  | setSalt salt => exact ⟨rfl, h.setSalt salt⟩
  | _ => exact hs.elim

/-! ## Copies that are taken away -/

theorem Action.any_trace_bind {a : Action α} {f : α → Action β} {p : Exchange → Bool}
    (h : (a.trace w).any p = true) : ((a >>= f).trace w).any p = true := by
  rw [trace_bind, List.any_append, h, Bool.true_or]

/-- The copy is taken away at once when the first deletion meets no fault. -/
theorem Identity.invalidate_drops (h : w.faults.delete.head?.join = none) (name : String)
    (id : Uuid) : ((invalidate name id).trace w).any Exchange.drops = true := by
  have hrequest : ((request (.cache (.delete [key id]))).trace w).any Exchange.drops = true := by
    rw [trace_request, List.any_cons, Bool.or_eq_true]
    exact .inl (World.runCommand_delete h (key id))
  refine any_trace_bind (any_trace_bind (any_trace_bind (any_trace_bind ?_)))
  exact hrequest

theorem Action.Asks.run_delete_faults {S : Store.Statement → Prop} {a : Action α}
    (ha : a.Asks (Within S fun _ => False)) (w : World) :
    (a.run w).2.faults.delete = w.faults.delete := by
  refine Program.Asks.run_keeps (I := fun w' => w'.faults.delete = w.faults.delete) ha
    (fun r w' hr hw' => ?_) rfl
  cases r with
  | sql s =>
    refine Eq.trans ?_ hw'
    show (w'.runStatement s).2.faults.delete = w'.faults.delete
    cases hfault : w'.faults.sql.head?.join with
    | none => rw [World.runStatement_of_no_fault hfault]; rfl
    | some fault => rw [World.runStatement_of_fault hfault]; rfl
  | cache c => exact hr.elim
  | connection b => exact hr.elim
  | clock | salt | log => exact hw'

/-! ## Runs -/

/-- What is seen of a move without looking at the cache. -/
def Record.seen (x : Record) : Except Error Answer × Store.Table := (x.answer, x.after.table)

/-- A change of the table that is not followed by a command for the copy that is carried out, or
that finds no connection. -/
def Record.Strands (x : Record) : Prop :=
  x.move.step.Changes ∧ x.after.table ≠ x.before.table ∧ x.exchanges.any Exchange.drops = false

/-- A change that fails cleanly, and else takes the copy away, changes the table only when a command
for the copy is carried out. -/
theorem Identity.change_drops {S : Store.Statement → Prop} {a : Action α}
    {f : α → Unit → Action β} {name : String} (h : w.faults.delete.head?.join = none)
    (ha : a.Asks (Within S fun _ => False))
    (hclean : ∀ e w', a.run w = (.error e, w') → w'.table = w.table)
    (htable : ((a >>= fun x => invalidate name id >>= f x).run w).2.table ≠ w.table) :
    ((a >>= fun x => invalidate name id >>= f x).trace w).any Exchange.drops = true := by
  have hfaults := ha.run_delete_faults w
  rw [trace_bind, List.any_append, Bool.or_eq_true]
  rcases hrun : a.run w with ⟨e | x, w₁⟩
  · rw [run_bind_error _ hrun] at htable
    exact absurd (hclean e w₁ hrun) htable
  · rw [hrun] at hfaults
    exact .inr (any_trace_bind (invalidate_drops (hfaults ▸ h) name id))

theorem Step.drops_of_no_fault (setup : Setup) {step : Step} (hchanges : step.Changes)
    (h : w.faults.delete.head?.join = none) (htable : (step.run setup w).2.table ≠ w.table) :
    (step.trace setup w).any Exchange.drops = true := by
  cases step with
  | update id d =>
    rw [Step.run_update, Identity.update_eq] at htable
    refine any_trace_bind (f := fun account => pure (Answer.account (some account))) ?_
    rw [Identity.update_eq]
    refine Identity.change_drops h (Identity.asks_revised id d) (fun e w' herror => ?_) htable
    rcases Identity.revised_cases w id d with ⟨_, _, hcase, hsame⟩ | ⟨_, _, _, _, -, -, -, hcase, -⟩
    · cases herror.symm.trans hcase
      exact hsame
    · cases herror.symm.trans hcase
  | delete id =>
    rw [Step.run_delete, Identity.delete_eq] at htable
    refine any_trace_bind (f := fun _ => pure Answer.nothing) ?_
    rw [Identity.delete_eq]
    refine Identity.change_drops h (Identity.asks_removed id) (fun e w' herror => ?_) htable
    rcases Identity.removed_cases w id with ⟨_, _, hcase, hsame⟩ | ⟨_, _, -, hcase, -⟩
    · cases herror.symm.trans hcase
      exact hsame
    · cases herror.symm.trans hcase
  | _ => exact hchanges.elim

/-- A move strands no copy when its first deletion meets no fault. -/
theorem Move.not_strands {setup : Setup} {m : Move} (h : m.faults.delete.head?.join = none)
    (w : World) : ¬ (m.record setup w).Strands := by
  rintro ⟨hchanges, htable, hdrops⟩
  have hany : (m.record setup w).exchanges.any Exchange.drops = true :=
    Step.drops_of_no_fault setup (w := w.facing m.faults) hchanges h htable
  rw [hany] at hdrops
  cases hdrops

/-- Every move of the service finds no fault of the database. -/
structure Move.Plain (m : Move) : Prop where
  service : m.step.IsService
  sound : ∀ fault ∈ m.faults.sql, fault = none

theorem Move.record_shadows {setup : Setup} {m : Move} (h : w.Shadows w') (hm : m.Plain)
    (hstrands : ¬ (m.record setup w).Strands) :
    (m.record setup w).seen = (m.record setup.uncached w').seen ∧
      (m.record setup w).after.Shadows (m.record setup.uncached w').after := by
  have hdrops : m.step.Changes → (m.step.run setup (w.facing m.faults)).2.table ≠ w.table →
      (m.step.trace setup (w.facing m.faults)).any Exchange.drops = true := by
    intro hchanges htable
    cases hany : (m.step.trace setup (w.facing m.faults)).any Exchange.drops with
    | true => rfl
    | false => exact absurd ⟨hchanges, htable, hany⟩ hstrands
  obtain ⟨hanswer, hafter⟩ :=
    Step.run_shadows setup (h.facing hm.sound) hm.service hdrops
  exact ⟨Prod.ext hanswer hafter.alike.table.symm, hafter.settled⟩

theorem records_shadow {setup : Setup} {moves : List Move} (h : w.Shadows w')
    (hplain : ∀ m ∈ moves, m.Plain) (hstrands : ∀ x ∈ records setup moves w, ¬ x.Strands) :
    (records setup moves w).map Record.seen =
        (records setup.uncached moves w').map Record.seen ∧
      ∀ x ∈ records setup moves w, Coherent x.before ∧ x.move.Plain ∧
        x.answer = (x.move.step.run setup (x.before.facing x.move.faults)).1 := by
  induction moves generalizing w w' with
  | nil => exact ⟨rfl, fun x hx => nomatch hx⟩
  | cons m moves ih =>
    have hm : m.Plain := hplain m List.mem_cons_self
    obtain ⟨hseen, hafter⟩ := Move.record_shadows h hm (hstrands _ List.mem_cons_self)
    obtain ⟨hmap, hall⟩ := ih hafter (fun m' hm' => hplain m' (List.mem_cons_of_mem m hm'))
      (fun x hx => hstrands x (List.mem_cons_of_mem _ hx))
    refine ⟨by simp only [records, List.map_cons, hseen, hmap], fun x hx => ?_⟩
    rcases List.mem_cons.1 hx with rfl | hx
    · exact ⟨h.coherent, hm, rfl⟩
    · exact hall x hx

/-- With and without the cache, a run starts with nothing. -/
theorem World.started_shadows (setup : Setup) (now : Instant) (salt : String)
    (faults faults' : Faults) : (World.started setup now salt faults).Shadows
      (World.started setup.uncached now salt faults') := by
  have h := World.started_empty setup now salt faults
  have h' := World.started_empty setup.uncached now salt faults'
  have hno : ∀ fault ∈ ([] : List (Option Store.Fault)), fault = none := fun _ hf => nomatch hf
  refine ⟨⟨h'.now.trans h.now.symm, h'.table.trans h.table.symm,
    h'.insertions.trans h.insertions.symm, h'.salt.trans h.salt.symm, hno, hno⟩,
    .of_no_keys h.keys ?_, rfl, h'.keys⟩
  rw [h.table]
  exact fun row hrow => nomatch hrow

/-- **The cache is transparent.**  A run of the service answers and stores the same with and without
the cache, when the database works and no change strands a copy.  Every look-up answers the current
row. -/
theorem cache_transparent (setup : Setup) (now : Instant) (salt : String)
    (faults faults' : Faults) (moves : List Move) (hplain : ∀ m ∈ moves, m.Plain)
    (hstrands : ∀ x ∈ records setup moves (World.started setup now salt faults), ¬ x.Strands) :
    (records setup moves (World.started setup now salt faults)).map Record.seen =
        (records setup.uncached moves (World.started setup.uncached now salt faults')).map
          Record.seen ∧
      ∀ x ∈ records setup moves (World.started setup now salt faults), ∀ id,
        x.move.step = .find id → x.answer = Answer.found x.before.table id := by
  obtain ⟨hseen, hall⟩ :=
    records_shadow (World.started_shadows setup now salt faults faults') hplain hstrands
  refine ⟨hseen, fun x hx id hid => ?_⟩
  obtain ⟨hcoherent, hm, hanswer⟩ := hall x hx
  have hfacing : Coherent (x.before.facing x.move.faults) := hcoherent.of_same ⟨rfl, rfl, rfl, rfl⟩
  rw [hanswer, hid]
  exact (Step.find_answers _ hfacing hm.sound id).1

/-- A run that reads, changes and deletes an account, and meets faults of the cache on the way. -/
def sampleVisit : List Move :=
  [⟨.register ⟨{ email := some " Ann@b.co " }, some "secret!"⟩, {}⟩,
    ⟨.setSalt "$2b$04$uutsrqponmlkjihgfedcba", {}⟩,
    ⟨.find (World.insertionId 1), { setFor := [some .down] }⟩,
    ⟨.find (World.insertionId 1), {}⟩,
    ⟨.advance 1000000, {}⟩,
    ⟨.update (World.insertionId 1) { city := some "Graz" }, { expire := [some .down] }⟩,
    ⟨.find (World.insertionId 1), { get := [some .slow] }⟩,
    ⟨.delete (World.insertionId 1), {}⟩,
    ⟨.find (World.insertionId 1), {}⟩]

theorem cache_transparent_sampleVisit :
    (∀ m ∈ sampleVisit, m.Plain) ∧
      (∀ x ∈ records .sample sampleVisit
        (World.started .sample 0 "$2b$04$abcdefghijklmnopqrstuu" {}), ¬ x.Strands) ∧
      (records .sample sampleVisit
          (World.started .sample 0 "$2b$04$abcdefghijklmnopqrstuu" {})).map Record.seen =
        (records Setup.sample.uncached sampleVisit
          (World.started Setup.sample.uncached 0 "$2b$04$abcdefghijklmnopqrstuu" {})).map
            Record.seen := by
  have hplain : ∀ m ∈ sampleVisit, m.Plain := by
    simp only [sampleVisit, List.forall_mem_cons]
    refine ⟨⟨trivial, ?_⟩, ⟨trivial, ?_⟩, ⟨trivial, ?_⟩, ⟨trivial, ?_⟩,
      ⟨show (0 : Int) ≤ 1000000 by decide, ?_⟩, ⟨trivial, ?_⟩, ⟨trivial, ?_⟩, ⟨trivial, ?_⟩,
      ⟨trivial, ?_⟩, fun _ hm => nomatch hm⟩
    all_goals exact fun _ hf => nomatch hf
  have hdelete : ∀ m ∈ sampleVisit, m.faults.delete.head?.join = none := by
    simp [sampleVisit]
  have hstrands : ∀ x ∈ records .sample sampleVisit
      (World.started .sample 0 "$2b$04$abcdefghijklmnopqrstuu" {}), ¬ x.Strands := by
    intro x hx
    obtain ⟨-, m, hm, hrecord⟩ := records_keep (I := fun _ => True) (fun _ _ _ _ => trivial)
      trivial x hx
    rw [hrecord]
    exact Move.not_strands (hdelete m hm) x.before
  exact ⟨hplain, hstrands, (cache_transparent .sample 0 _ {} {} sampleVisit hplain hstrands).1⟩

end Accounts
