import Accounts.Proofs.Service.Overlap
import Accounts.Proofs.Service.Transparency

/-!
# Old copies are left by look-ups that straddle a change

After a change or a deletion of an account and any look-ups of it at the same time, all copies are
those of the current rows, and the next look-up answers the current row.  There is one exception: a
look-up that has read the row before the change was committed, and has stored its copy after the copy
was taken away.

    no look-up has straddled the change  ->  find id = the current row of id
-/

namespace Accounts

open Accounts.Action
open Accounts.Request (Within)
open Cache (key)
open Calendar

variable {α : Type} {start : World} {id : Uuid} {s : Scene} {i j : Nat} {ok : Turn → Prop}

namespace Overlap

/-- Something that neither the other calls nor quiet requests of the call itself can break. -/
abbrev Calm (start : World) (id : Uuid) : Nat → (Scene → Prop) → Prop :=
  Scene.Calm (Overlap start id) Store.Reads fun c => ∃ name, c = .get name

theorem calm_true : Calm start id i fun _ => True :=
  ⟨fun _ _ _ h => h, fun _ t _ hr hs h => ⟨hs.serve_quiet hr t, h⟩⟩

theorem calm_wrote (l : List (Nat × Mark)) : Calm start id 0 (Wrote l) :=
  ⟨fun _ _ hs h => h.awaits hs, fun _ t _ hr hs h => ⟨hs.serve_quiet hr t, h.serve_quiet hr t⟩⟩

theorem calm_holds (row : Store.Row) : Calm start id j fun s => Holds start id j row s.history :=
  ⟨fun _ _ hs h => h.awaits hs,
    fun _ t _ hr hs h => ⟨hs.serve_quiet hr t, h.serve (quiet_exchange hr _).1⟩⟩

/-- How a part ends that may fail. -/
def Ends (P : α → Scene → Prop) (E : Scene → Prop) : Except Error α → Scene → Prop
  | .ok x, s => P x s
  | .error _, s => E s

/-- An operation that tags the errors of its body. -/
theorem upholds_operation (hs : Overlap start id s) {P : α → Scene → Prop} {E : Scene → Prop}
    (hE : Calm start id i E) {a : Action α} (ha : a.Upholds (Overlap start id) ok i (Ends P E) s)
    (name : String) : (Identity.operation name a).Upholds (Overlap start id) ok i (Ends P E) s := by
  unfold Identity.operation
  refine ha.tryCatch hs (fun _ _ _ h => h) fun e s hs he => ?_
  have hend : E s := he s (.refl hs)
  have hthrow (e' : Error) : Action.Upholds (α := α) (Overlap start id) ok i (Ends P E) (throw e') s :=
    upholds_throw fun s' hs' => hE.steady s s' hs' hend
  split
  · exact hthrow _
  · split
    · exact hE.upholds_log_throw hs hend _ _ fun _ h => h
    · exact hthrow _
  · exact hthrow _

/-! ## The parts of a look-up -/

/-- A look-up that finds a row holds it. -/
theorem upholds_looked (hs : Overlap start id s) :
    (Identity.looked id).Upholds (Overlap start id) ok j
      (Ends (fun account s => ∃ row, account = row.account ∧ Holds start id j row s.history)
        fun _ => True) s := by
  have hquery : (query (.findById id)).Upholds (Overlap start id) ok j (fun found s =>
      ∀ row, found = .ok (some row) → Holds start id j row s.history) s := by
    refine upholds_query (.findById id) calm_true.steady trivial hs
      (fun found s s' hs' hfound row hrow => (hfound row hrow).awaits hs') fun s t ht _ hs _ => ?_
    refine ⟨hs.serve_quiet (r := .sql (.findById id)) trivial t, fun row hrow => ?_⟩
    rw [← ht]
    refine hs.holds_of_read ?_
    cases hfault : (t.faults (.sql (.findById id))).sql.head?.join with
    | some fault =>
      rw [Scene.reply_of_fault hfault] at hrow
      cases hrow
    | none =>
      rw [Scene.reply_of_no_fault hfault] at hrow
      exact Except.ok.inj hrow
  refine upholds_operation hs calm_true ?_ _
  refine hquery.bind hs (fun found s _ hfound => ?_) fun _ _ _ _ => trivial
  rcases found with _ | row
  · exact upholds_fail fun _ _ => trivial
  · exact upholds_pure fun s' hs' => ⟨row, rfl, hfound s' hs' row rfl⟩

/-- A call stores the copy of the row that it holds. -/
theorem upholds_store {row : Store.Row} (h : Holds start id j row s.history) (seconds : Int) :
    (Cache.store row.account seconds).Upholds (Overlap start id) ok j
      (fun _ s => Holds start id j row s.history) s := by
  refine Asks.upholds (Cache.asks_store (S := fun _ => False) row.account seconds)
    (calm_holds row).steady h fun s t r ht _ hr hs h => ?_
  cases r with
  | cache c =>
    subst hr ht
    have hkey : key row.account.id = key id := congrArg key h.owner
    rw [hkey]
    exact ⟨hs.serve_store h seconds, h.serve rfl⟩
  | sql st => exact hr.elim
  | connection b => exact hr.elim
  | clock => exact (calm_holds row).serve s t .clock trivial hs h
  | salt => exact (calm_holds row).serve s t .salt trivial hs h
  | log e => exact (calm_holds row).serve s t (.log e) trivial hs h

theorem upholds_find (hs : Overlap start id s) (config : Identity.Config) :
    (Identity.find config id).Upholds (Overlap start id) ok j (fun _ _ => True) s := by
  have hcache : (Cache.find id).Upholds (Overlap start id) ok j (fun _ _ => True) s :=
    calm_true.upholds trivial
      ((Cache.asks_find id).mono (Within.mono (fun _ h => h) fun _ h => ⟨_, h⟩))
  rw [Identity.find_eq]
  refine hcache.bind hs (fun cached s hs _ => ?_) fun _ _ _ _ => trivial
  rcases cached with _ | account
  · unfold Identity.populated
    refine (upholds_looked hs).bind hs (fun account s hs hlooked => ?_) fun _ _ _ _ => trivial
    obtain ⟨row, rfl, hrow⟩ := hlooked s (.refl hs)
    refine (upholds_store hrow config.cacheSeconds).bind hs (fun stored s _ _ => ?_)
      fun _ _ _ _ => trivial
    refine calm_true.upholds trivial ?_
    dsimp only
    split
    · exact (asks_log trivial).bind fun _ => asks_pure _
    · exact asks_pure _
  · exact upholds_pure fun _ _ => trivial

/-! ## The parts of a change -/

/-- The changed row is committed, or nothing is written. -/
theorem upholds_revised (hs : Overlap start id s) (h : Wrote [] s) (d : Details) :
    (Identity.revised id d).Upholds (Overlap start id) ok 0
      (Ends (fun _ => Wrote [(0, .commit)]) (Wrote [])) s := by
  have hnone : Calm start id 0 (Wrote []) := calm_wrote _
  have hrevise (d : Details) : (statement (.revise id d)).Yields (Overlap start id) ok 0
      (fun reply => Wrote ((Exchange.written? ⟨.sql (.revise id d), reply⟩).toList.map
        fun _ => (0, .commit))) s :=
    yields_request (r := .sql (.revise id d)) hnone.steady h
      (fun _ => (calm_wrote _).steady) fun s t ht _ hs h => hs.serve_change ht rfl h
  unfold Identity.revised
  refine upholds_operation hs hnone ?_ _
  cases d.prepare with
  | error fault => cases fault <;> exact upholds_throw fun s' hs' => h.awaits hs'
  | ok prepared =>
    rw [Identity.accept_ok, pure_bind]
    have hupdate : (Store.update id prepared).Upholds (Overlap start id) ok 0
        (Ends (fun _ => Wrote [(0, .commit)]) (Wrote [])) s := by
      unfold Store.update
      refine (hrevise prepared).bind hs fun reply s hs hwrote => ?_
      rcases reply with fault | found
      · cases fault with
        | conflict => exact hnone.upholds_log_throw hs hwrote _ _ fun _ h => h
        | _ => exact upholds_throw fun s' hs' => hwrote.awaits hs'
      · rcases found with _ | row
        · exact upholds_fail fun s' hs' => hwrote.awaits hs'
        · refine ((calm_wrote _).yields_log hwrote _).bind hs fun _ s _ h => ?_
          exact upholds_pure fun s' hs' => h.awaits hs'
    exact hupdate.bind hs (fun _ s _ h => upholds_pure h) fun _ _ _ h => h

/-- The deletion is committed, or nothing is written. -/
theorem upholds_removed (hs : Overlap start id s) (h : Wrote [] s) :
    (Identity.removed id).Upholds (Overlap start id) ok 0
      (Ends (fun _ => Wrote [(0, .commit)]) (Wrote [])) s := by
  have hnone : Calm start id 0 (Wrote []) := calm_wrote _
  have hquery : (query (.remove id)).Upholds (Overlap start id) ok 0
      (Ends (fun found : Bool => Wrote (if found then [(0, .commit)] else [])) (Wrote [])) s := by
    refine upholds_query (.remove id) hnone.steady h hs (fun found => ?_) fun s t ht _ hs h => ?_
    · cases found with
      | ok found => exact (calm_wrote _).steady
      | error e => exact hnone.steady
    · obtain ⟨hinv, hwrote⟩ := hs.serve_change ht (show Store.Rewrites id (.remove id) from rfl) h
      refine ⟨hinv, ?_⟩
      rcases hreply : (s.serve t (.sql (.remove id))).1 with fault | found
      all_goals rw [hreply] at hwrote
      · exact hwrote
      · cases found <;> exact hwrote
  unfold Identity.removed
  refine upholds_operation hs hnone ?_ _
  refine hquery.bind hs (fun found s hs hfound => ?_) fun _ _ _ h => h
  have hwrote := hfound s (.refl hs)
  cases found with
  | false => exact upholds_fail fun s' hs' => Wrote.awaits hs' hwrote
  | true => exact ((calm_wrote _).yields_log hwrote _).mono fun _ s _ ⟨_, hx, h⟩ => by subst hx; exact h

section
variable (hok : ∀ t, ok t → (t.faults (.cache (.delete [key id]))).delete.head?.join = none)
include hok

/-- The copy is taken away at the first attempt. -/
theorem yields_drop (hs : Overlap start id s) (h : Wrote [(0, .commit)] s) :
    (Cache.drop id).Yields (Overlap start id) ok 0
      (fun dropped s => dropped = true ∧ Wrote [(0, .commit), (0, .drop)] s) s := by
  have hdelete : (request (.cache (.delete [key id]))).Yields (Overlap start id) ok 0
      (fun (outcome : Cache.Outcome Unit) s =>
        outcome.isOkOrDetached = true ∧ Wrote [(0, .commit), (0, .drop)] s) s := by
    refine yields_request (r := .cache (.delete [key id])) (calm_wrote _).steady h
      (fun _ _ _ hs h => ⟨h.1, h.2.awaits hs⟩) fun s t ht hturn hs h => ?_
    obtain ⟨hinv, hwrote, houtcome⟩ := hs.serve_drop ht (hok t hturn) h
    exact ⟨hinv, houtcome, hwrote⟩
  have hsend : (Cache.delete [key id]).Yields (Overlap start id) ok 0
      (fun (outcome : Cache.Outcome Unit) s =>
        outcome.isOkOrDetached = true ∧ Wrote [(0, .commit), (0, .drop)] s) s := by
    refine hdelete.bind hs fun outcome s _ ⟨houtcome, hwrote⟩ => ?_
    rcases outcome with _ | fault | result
    · exact yields_pure fun s' hs' => ⟨rfl, hwrote.awaits hs'⟩
    · cases houtcome
    · exact yields_pure fun s' hs' => ⟨rfl, hwrote.awaits hs'⟩
  refine hsend.bind hs fun outcome s hs ⟨houtcome, hwrote⟩ => ?_
  dsimp only
  split
  · refine ((calm_wrote _).yields_log hwrote _).bind hs fun _ s _ h => ?_
    exact yields_pure fun s' hs' => ⟨houtcome, h.awaits hs'⟩
  · exact yields_pure fun s' hs' => ⟨houtcome, hwrote.awaits hs'⟩

theorem upholds_invalidate (hs : Overlap start id s) (h : Wrote [(0, .commit)] s) (name : String) :
    (Identity.invalidate name id).Upholds (Overlap start id) ok 0
      (fun _ => Wrote [(0, .commit), (0, .drop)]) s := by
  have hdrop : (Identity.dropFrom name id Identity.dropAttempts 1).Yields (Overlap start id) ok 0
      (fun dropped s => dropped = true ∧ Wrote [(0, .commit), (0, .drop)] s) s := by
    refine (yields_drop hok hs h).bind hs fun dropped s _ ⟨hdropped, hwrote⟩ => ?_
    subst hdropped
    exact yields_pure fun s' hs' => ⟨rfl, hwrote.awaits hs'⟩
  refine hdrop.bind hs fun dropped s _ ⟨hdropped, hwrote⟩ => ?_
  subst hdropped
  exact upholds_pure fun s' hs' => hwrote.awaits hs'

/-- When a change ends, it has written nothing, or committed its row and taken the copy away. -/
def Over (s : Scene) : Prop := Wrote [] s ∨ Wrote [(0, .commit), (0, .drop)] s

theorem upholds_update (hs : Overlap start id s) (h : Wrote [] s) (d : Details) :
    (Identity.update id d).Upholds (Overlap start id) ok 0 (fun _ => Over) s := by
  rw [Identity.update_eq]
  refine (upholds_revised hs h d).bind hs (fun account s hs h => ?_) fun _ _ _ h => .inl h
  refine (upholds_invalidate hok hs (h s (.refl hs)) _).bind hs (fun _ s _ h => ?_)
    fun _ _ _ h => .inr h
  exact upholds_pure fun s' hs' => .inr (h s' hs')

theorem upholds_delete (hs : Overlap start id s) (h : Wrote [] s) :
    (Identity.delete id).Upholds (Overlap start id) ok 0 (fun _ => Over) s := by
  rw [Identity.delete_eq]
  refine (upholds_removed hs h).bind hs (fun _ s hs h => ?_) fun _ _ _ h => .inl h
  refine (upholds_invalidate hok hs (h s (.refl hs)) _).bind hs (fun _ s hs h => ?_)
    fun _ _ _ h => .inr h
  exact ((calm_wrote _).upholds (h s (.refl hs)) (asks_log trivial)).mono fun _ _ _ h => .inr h

end

end Overlap

/-! ## A change and look-ups -/

/-- A step that changes or deletes an account. -/
def Step.Alters (id : Uuid) : Step → Prop
  | .update other _ | .delete other => other = id
  | _ => False

/-- The pool of a change of an account, which is the first call, and look-ups of it. -/
def overlapping (setup : Setup) (start : World) (change : Step) (id : Uuid) (finds : Nat) :
    Pool (Except Error Answer) where
  scene := { world := start }
  calls := change.call setup :: List.replicate finds (Step.call setup (.find id))

/-- The world at a later time, with no faults to come. -/
def World.later (w : World) (now : Instant) : World := { w with now := now, faults := {} }

theorem Overlap.initial (hstart : Coherent start) (id : Uuid) :
    Overlap start id { world := start } where
  apart := ⟨rfl, hstart.detached, hstart.fits, fun _ _ => rfl, fun _ _ => rfl⟩
  row := rfl
  stage := .inl rfl
  entry e he hlive := .inl (hstart.fresh id e (Cache.Keyspace.live?_eq_some.2 ⟨he, hlive⟩))

theorem Overlap.upheld (setup : Setup) (hstart : Coherent start) {change : Step}
    (hchange : change.Alters id) (finds : Nat) {schedule : List Turn}
    (hturns : ∀ t ∈ schedule, (t.faults (.cache (.delete [key id]))).delete.head?.join = none) :
    (overlapping setup start change id finds).Upheld (Overlap start id) (· ∈ schedule)
      fun i _ s => i = 0 → Overlap.Over s := by
  have hinv := Overlap.initial hstart id
  refine ⟨hinv, fun i c hc => ?_⟩
  cases i with
  | zero =>
    obtain rfl := Option.some.inj hc
    cases change with
    | update other d =>
      obtain rfl : other = id := hchange
      have hupdate := (upholds_update hturns hinv rfl d).mono fun _ _ _ h (_ : 0 = 0) => h
      exact hupdate.returned hinv
    | delete other =>
      obtain rfl : other = id := hchange
      have hdelete := (upholds_delete hturns hinv rfl).mono fun _ _ _ h (_ : 0 = 0) => h
      exact hdelete.returned hinv
    | _ => exact hchange.elim
  | succ i =>
    obtain rfl : c = Step.call setup (.find id) :=
      (List.mem_replicate.1 (List.mem_of_getElem? hc)).2
    exact ((upholds_find hinv setup.identity).mono fun _ _ _ _ hi => nomatch hi).returned hinv

/-- Once the change is over, all copies are those of the current rows, unless a call has straddled
it. -/
theorem Overlap.coherent (h : Overlap start id s) (hstart : Coherent start) (hover : Overlap.Over s)
    (hclear : ∀ j, ¬ Straddles j s.history) {now : Instant} (hnow : start.now ≤ now) :
    Coherent (s.world.later now) := by
  refine ⟨fun other e he => ?_, h.apart.fits, fun hd => h.apart.detached (h.apart.attached ▸ hd)⟩
  obtain ⟨hentry, hlive⟩ := Cache.Keyspace.live?_eq_some.1 he
  have hlater : start.now < e.expires := Int.lt_of_le_of_lt hnow hlive
  by_cases ho : other = id
  · subst ho
    rcases h.entry e hentry hlater with hfresh | hopen | ⟨j, hj⟩
    · exact hfresh
    · rcases hover with hnone | hdropped
      · cases hnone.symm.trans hopen
      · cases hdropped.symm.trans hopen
    · exact absurd hj (hclear j)
  · obtain ⟨row, hrow, hdecode⟩ := hstart.fresh other e
      (Cache.Keyspace.live?_eq_some.2 ⟨(h.apart.entries other ho).symm.trans hentry, hlater⟩)
    exact ⟨row, (h.apart.rows other ho).trans hrow, hdecode⟩

/-- **Copies are fresh unless a look-up straddles a change.**  After a change or a deletion of an
account and look-ups of it at the same time, in any order of their requests, all copies are those of
the current rows and the next look-up answers the current row, unless a look-up has straddled the
change. -/
theorem copies_fresh_unless_straddled (setup : Setup) (start : World) (hstart : Coherent start)
    (id : Uuid) (change : Step) (hchange : change.Alters id) (finds : Nat) (schedule : List Turn)
    (hturns : ∀ t ∈ schedule, (t.faults (.cache (.delete [key id]))).delete.head?.join = none)
    (hfinished : ((overlapping setup start change id finds).run schedule).Finished)
    (hclear : ∀ j, ¬ Straddles j
      ((overlapping setup start change id finds).run schedule).scene.history)
    (now : Instant) (hnow : start.now ≤ now) :
    Coherent (((overlapping setup start change id finds).run schedule).scene.world.later now) ∧
    (Step.run setup (.find id)
      (((overlapping setup start change id finds).run schedule).scene.world.later now)).1 =
        Answer.found ((overlapping setup start change id finds).run schedule).scene.world.table id := by
  have hupheld := (Overlap.upheld setup hstart hchange finds hturns).run fun _ ht => ht
  have hlength := Pool.length_run (overlapping setup start change id finds) schedule
  generalize (overlapping setup start change id finds).run schedule = p at *
  have hfirst : 0 < p.calls.length := by
    rw [hlength]
    exact Nat.succ_pos _
  obtain ⟨result, hresult⟩ := hfinished.ended hfirst
  have hcoherent := hupheld.inv.coherent hstart (hupheld.ended hresult rfl) hclear hnow
  exact ⟨hcoherent, (Step.find_answers setup hcoherent (fun _ h => nomatch h) id).1⟩

/-! ## A deletion and a look-up -/

/-- A row to try schedules with. -/
def keptRow : Store.Row :=
  (Store.Draft.ofRegistration ⟨{ email := some "ann@b.co" }, none⟩ "").row (World.insertionId 1)
    "ann@b.co" ⟨⟨1970, 1, 1, by decide, by decide, by decide⟩, .midnight, none⟩

/-- A world with this row and no copies yet. -/
def keptWorld : World := { now := 0, table := [keptRow], attached := true, salt := "" }

/-- Turns of some calls, at one time and without faults. -/
def faultlessTurns (calls : List Nat) : List Turn :=
  calls.map fun i => { call := i, now := 0, salt := "" }

/-- The deletion of the row and a look-up of it, in an order of their turns. -/
def deletionPool (calls : List Nat) : Pool (Except Error Answer) :=
  (overlapping .sample keptWorld (.delete (World.insertionId 1)) (World.insertionId 1) 1).run
    (faultlessTurns calls)

theorem keptWorld_coherent : Coherent keptWorld := .of_no_keys rfl fun row hrow => by
  rw [List.mem_singleton.1 hrow]
  rfl

theorem faultlessTurns_faults (calls : List Nat) :
    ∀ t ∈ faultlessTurns calls, ∀ r, t.faults r = {} := by
  intro t ht r
  obtain ⟨i, -, rfl⟩ := List.mem_map.1 ht
  rfl

theorem finished_of_pair {p : Pool (Except Error Answer)}
    (h : ∃ a b, p.calls = [.done a, .done b]) : p.Finished := by
  obtain ⟨a, b, hcalls⟩ := h
  intro c hc
  rw [hcalls] at hc
  rcases List.mem_cons.1 hc with rfl | hc
  · exact ⟨a, rfl⟩
  · exact ⟨b, List.mem_singleton.1 hc⟩

/-- A look-up that reads before the deletion and stores before the copy is taken away leaves nothing:
the next one does not find the account. -/
theorem copies_fresh_unless_straddled_deletion :
    (deletionPool [1, 1, 1, 0, 0, 1, 1, 0, 0, 0]).Finished ∧
    (∀ j, ¬ Straddles j (deletionPool [1, 1, 1, 0, 0, 1, 1, 0, 0, 0]).scene.history) ∧
    Coherent ((deletionPool [1, 1, 1, 0, 0, 1, 1, 0, 0, 0]).scene.world.later 1) ∧
    (Step.run .sample (.find (World.insertionId 1))
      ((deletionPool [1, 1, 1, 0, 0, 1, 1, 0, 0, 0]).scene.world.later 1)).1 =
        .error (.failure { cause := .unknownAccount, operation := some "identity.get_by_id" }) := by
  have hfinished : (deletionPool [1, 1, 1, 0, 0, 1, 1, 0, 0, 0]).Finished :=
    finished_of_pair ⟨_, _, rfl⟩
  have hmarks : marks (deletionPool [1, 1, 1, 0, 0, 1, 1, 0, 0, 0]).scene.history =
      [(1, .read), (0, .commit), (1, .store), (0, .drop)] := rfl
  have hclear : ∀ j, ¬ Straddles j (deletionPool [1, 1, 1, 0, 0, 1, 1, 0, 0, 0]).scene.history := by
    intro j hj
    unfold Straddles at hj
    rw [hmarks] at hj
    have hread := hj.subset List.mem_cons_self
    obtain rfl : j = 1 := by simpa using hread
    revert hj
    decide
  have hfresh := copies_fresh_unless_straddled .sample keptWorld keptWorld_coherent
    (World.insertionId 1) (.delete (World.insertionId 1)) rfl 1
    (faultlessTurns [1, 1, 1, 0, 0, 1, 1, 0, 0, 0])
    (fun t ht => by rw [faultlessTurns_faults _ t ht]; rfl) hfinished hclear 1 (by decide)
  exact ⟨hfinished, hclear, hfresh⟩

/-- A look-up that straddles the deletion leaves a living copy of the account that is gone. -/
theorem straddled_copy_outlives_row :
    Coherent keptWorld ∧ (∀ t ∈ faultlessTurns [1, 1, 1, 0, 0, 0, 0, 0, 1, 1], ∀ r, t.faults r = {}) ∧
    (deletionPool [1, 1, 1, 0, 0, 0, 0, 0, 1, 1]).Finished ∧
    (deletionPool [1, 1, 1, 0, 0, 0, 0, 0, 1, 1]).scene.world.table = [] ∧
    ∃ e, (deletionPool [1, 1, 1, 0, 0, 0, 0, 0, 1, 1]).scene.world.keys.live? 0
        (key (World.insertionId 1)) = some e ∧ Cache.decode e.value = some keptRow.account := by
  have hkeys : (deletionPool [1, 1, 1, 0, 0, 0, 0, 0, 1, 1]).scene.world.keys =
      Cache.Keyspace.put [] (key (World.insertionId 1))
        ⟨Cache.encode keptRow.account, 300 * second⟩ := rfl
  have hlive : (deletionPool [1, 1, 1, 0, 0, 0, 0, 0, 1, 1]).scene.world.keys.live? 0
      (key (World.insertionId 1)) = some ⟨Cache.encode keptRow.account, 300 * second⟩ := by
    rw [hkeys, Cache.Keyspace.live?_put_self]
    rfl
  have hdecode : Cache.decode (Cache.encode keptRow.account) = some keptRow.account :=
    Cache.decode_encode rfl
  exact ⟨keptWorld_coherent, faultlessTurns_faults _, finished_of_pair ⟨_, _, rfl⟩, rfl, _, hlive,
    hdecode⟩

end Accounts
