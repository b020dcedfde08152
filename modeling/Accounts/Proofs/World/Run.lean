import Accounts.Proofs.World.Answer
import Accounts.World.Start

/-!
# Runs

A move is a step with the faults that it meets.  A run makes one move after the other and keeps a
record of each: the world before it, its answer, its exchanges with the world, its events, and the
world after it.  What every move keeps holds all through the run.
-/

namespace Accounts

open Accounts.Action
open Calendar

variable {setup : Setup} {w : World} {m : Move} {moves : List Move}

/-! ## Moves -/

/-- A step and the faults that it meets. -/
structure Move where
  step : Step
  faults : Faults := {}

/-- The world as a move finds it: with the faults of the move, and nothing logged yet. -/
def World.facing (w : World) (faults : Faults) : World := { w with faults := faults, events := [] }

/-- The world as a move leaves it: no faults are left, and the log has been taken. -/
def World.settled (w : World) : World := { w with faults := {}, events := [] }

/-- The exchanges of a step, in their order. -/
def Step.trace (setup : Setup) (step : Step) (w : World) : List Exchange :=
  match step.action? setup with
  | some a => a.trace w
  | none => []

/-- What there is to say about a move. -/
structure Record where
  before : World
  move : Move
  answer : Except Error Answer
  exchanges : List Exchange
  events : List Event
  after : World

/-- Make a move. -/
def Move.record (setup : Setup) (m : Move) (w : World) : Record :=
  let (answer, events, after) := Step.runWith setup m.faults m.step w
  ⟨w, m, answer, m.step.trace setup (w.facing m.faults), events, after⟩

theorem Move.record_before (setup : Setup) (m : Move) (w : World) :
    (m.record setup w).before = w := rfl

theorem Move.record_move (setup : Setup) (m : Move) (w : World) :
    (m.record setup w).move = m := rfl

theorem Move.record_answer (setup : Setup) (m : Move) (w : World) :
    (m.record setup w).answer = (m.step.run setup (w.facing m.faults)).1 := rfl

theorem Move.record_exchanges (setup : Setup) (m : Move) (w : World) :
    (m.record setup w).exchanges = m.step.trace setup (w.facing m.faults) := rfl

theorem Move.record_events (setup : Setup) (m : Move) (w : World) :
    (m.record setup w).events = (m.step.run setup (w.facing m.faults)).2.events := rfl

theorem Move.record_after (setup : Setup) (m : Move) (w : World) :
    (m.record setup w).after = (m.step.run setup (w.facing m.faults)).2.settled := rfl

theorem Move.record_table (setup : Setup) (m : Move) (w : World) :
    (m.record setup w).after.table = (m.step.run setup (w.facing m.faults)).2.table := rfl

theorem Move.record_now (setup : Setup) (m : Move) (w : World) :
    (m.record setup w).after.now = (m.step.run setup (w.facing m.faults)).2.now := rfl

theorem Move.record_keys (setup : Setup) (m : Move) (w : World) :
    (m.record setup w).after.keys = (m.step.run setup (w.facing m.faults)).2.keys := rfl

theorem Step.run_action {step : Step} {a : Action Answer} (h : step.action? setup = some a) :
    step.run setup w = a.run w := by
  unfold Step.run
  rw [h]

/-- A registration as a step of a run. -/
theorem Step.run_register (setup : Setup) (r : Registration) (w : World) :
    (Step.register r).run setup w =
      (((Identity.register setup.identity r).run w).1.map .session,
        ((Identity.register setup.identity r).run w).2) :=
  run_bind_pure _ Answer.session w

theorem Step.trace_register (setup : Setup) (r : Registration) (w : World) :
    (Step.register r).trace setup w = (Identity.register setup.identity r).trace w :=
  trace_bind_pure _ Answer.session w

/-- A login as a step of a run. -/
theorem Step.run_login (setup : Setup) (c : Credentials) (w : World) :
    (Step.login c).run setup w = (((Identity.login setup.identity c).run w).1.map .session,
      ((Identity.login setup.identity c).run w).2) :=
  run_bind_pure _ Answer.session w

/-- A change as a step of a run. -/
theorem Step.run_update (setup : Setup) (id : Uuid) (d : Details) (w : World) :
    (Step.update id d).run setup w =
      (((Identity.update id d).run w).1.map fun account => .account (some account),
        ((Identity.update id d).run w).2) :=
  run_bind_pure _ (fun account => Answer.account (some account)) w

/-- A deletion as a step of a run. -/
theorem Step.run_delete (setup : Setup) (id : Uuid) (w : World) :
    (Step.delete id).run setup w =
      (((Identity.delete id).run w).1.map fun _ => .nothing, ((Identity.delete id).run w).2) :=
  run_bind_pure _ (fun _ => Answer.nothing) w

/-- A look-up as a step of a run. -/
theorem Step.run_find (setup : Setup) (id : Uuid) (w : World) :
    (Step.find id).run setup w =
      (((Identity.find setup.identity id).run w).1.map fun account => .account (some account),
        ((Identity.find setup.identity id).run w).2) :=
  run_bind_pure _ (fun account => Answer.account (some account)) w

theorem Step.trace_find (setup : Setup) (id : Uuid) (w : World) :
    (Step.find id).trace setup w = (Identity.find setup.identity id).trace w :=
  trace_bind_pure _ (fun account => Answer.account (some account)) w

/-- A call of the service. -/
def Step.IsCall : Step → Prop
  | .register _ | .login _ | .update _ _ | .delete _ | .find _ => True
  | _ => False

/-- The answers that a call of the service can give. -/
inductive Step.Answers : Step → Answer → Prop where
  | register (r : Registration) (s : Session) : Answers (.register r) (.session s)
  | login (c : Credentials) (s : Session) : Answers (.login c) (.session s)
  | find (id : Uuid) (account : Account) : Answers (.find id) (.account (some account))
  | update (id : Uuid) (d : Details) (account : Account) :
      Answers (.update id d) (.account (some account))
  | delete (id : Uuid) : Answers (.delete id) .nothing

theorem Step.IsCall.answers {step : Step} {answer : Answer} (h : step.IsCall)
    (hanswer : (step.run setup w).1 = .ok answer) : step.Answers answer := by
  cases step with
  | register r =>
    rw [Step.run_register] at hanswer
    dsimp only at hanswer
    obtain ⟨s, -, rfl⟩ := map_eq_ok hanswer
    exact .register r s
  | login c =>
    rw [Step.run_login] at hanswer
    dsimp only at hanswer
    obtain ⟨s, -, rfl⟩ := map_eq_ok hanswer
    exact .login c s
  | find id =>
    rw [Step.run_find] at hanswer
    dsimp only at hanswer
    obtain ⟨account, -, rfl⟩ := map_eq_ok hanswer
    exact .find id account
  | update id d =>
    rw [Step.run_update] at hanswer
    dsimp only at hanswer
    obtain ⟨account, -, rfl⟩ := map_eq_ok hanswer
    exact .update id d account
  | delete id =>
    rw [Step.run_delete] at hanswer
    dsimp only at hanswer
    obtain ⟨_, -, rfl⟩ := map_eq_ok hanswer
    exact .delete id
  | _ => exact h.elim

/-- Serving as a step of a run. -/
theorem Step.run_http (setup : Setup) (r : Http.Request) (w : World) :
    (Step.http r).run setup w = (.ok (.response ((Http.serve setup.site r).run w).1),
      ((Http.serve setup.site r).run w).2) := by
  show Action.run (ExceptT.lift (Http.serve setup.site r) >>= fun response =>
    pure (Answer.response response)) w = _
  rw [Action.run_bind, Action.run_lift]
  rfl

theorem Step.trace_http (setup : Setup) (r : Http.Request) (w : World) :
    (Step.http r).trace setup w = (Http.serve setup.site r).trace w := by
  show Action.trace (ExceptT.lift (Http.serve setup.site r) >>= fun response =>
    pure (Answer.response response)) w = _
  rw [Action.trace_bind, Action.trace_lift, Action.run_lift]
  exact List.append_nil _

/-- A step keeps what every request, the passing of time and a new salt keep. -/
theorem Step.run_keeps {I : World → Prop} (request : ∀ r w, I w → I (w.answer r).2)
    (time : ∀ span w, I w → I { w with now := w.now + span })
    (renewal : ∀ salt w, I w → I { w with salt := salt }) (setup : Setup) (step : Step)
    (hw : I w) : I (step.run setup w).2 := by
  cases ha : step.action? setup with
  | some a =>
    rw [Step.run_action ha]
    exact Program.run_keeps (P := fun _ => True) (fun _ _ => trivial) (fun r w _ => request r w) hw
  | none =>
    unfold Step.run
    rw [ha]
    cases step with
    | advance span => exact time span w hw
    | setSalt salt => exact renewal salt w hw
    | _ => exact hw

theorem Step.run_fits (setup : Setup) (step : Step) (hw : w.table.Fits) :
    (step.run setup w).2.table.Fits :=
  Step.run_keeps (I := fun w => w.table.Fits) (fun r _ h => World.answer_fits r h)
    (fun _ _ h => h) (fun _ _ h => h) setup step hw

theorem Step.run_distinct (setup : Setup) (step : Step) (hw : w.table.Distinct) :
    (step.run setup w).2.table.Distinct :=
  Step.run_keeps (I := fun w => w.table.Distinct) (fun r _ h => World.answer_distinct r h)
    (fun _ _ h => h) (fun _ _ h => h) setup step hw

theorem Step.run_insertions_le (setup : Setup) (step : Step) (w : World) :
    w.insertions ≤ (step.run setup w).2.insertions :=
  Step.run_keeps (I := fun w' => w.insertions ≤ w'.insertions)
    (fun r w' h => Nat.le_trans h (w'.answer_insertions_le r)) (fun _ _ h => h) (fun _ _ h => h)
    setup step (Nat.le_refl _)

theorem Move.record_insertions_le (setup : Setup) (m : Move) (w : World) :
    w.insertions ≤ (m.record setup w).after.insertions :=
  Step.run_insertions_le setup m.step (w.facing m.faults)

/-! ## Runs -/

/-- The records of the moves of a run. -/
def records (setup : Setup) : List Move → World → List Record
  | [], _ => []
  | m :: moves, w => m.record setup w :: records setup moves (m.record setup w).after

/-- The world after the moves of a run. -/
def finish (setup : Setup) : List Move → World → World
  | [], w => w
  | m :: moves, w => finish setup moves (m.record setup w).after

theorem finish_singleton (setup : Setup) (m : Move) (w : World) :
    finish setup [m] w = (m.record setup w).after := rfl

theorem finish_append (setup : Setup) (moves later : List Move) (w : World) :
    finish setup (moves ++ later) w = finish setup later (finish setup moves w) := by
  induction moves generalizing w with
  | nil => rfl
  | cons m moves ih => exact ih _

/-- A world with nothing in it. -/
def World.fresh (now : Instant) (salt : String) : World := { now := now, salt := salt }

/-- The world after starting with nothing in it. -/
def World.started (setup : Setup) (now : Instant) (salt : String) (faults : Faults) : World :=
  (start setup faults (World.fresh now salt)).2

/-- What every move keeps holds after a run. -/
theorem finish_keeps {I : World → Prop}
    (step : ∀ m ∈ moves, ∀ w, I w → I (m.record setup w).after) (hw : I w) :
    I (finish setup moves w) := by
  induction moves generalizing w with
  | nil => exact hw
  | cons m moves ih =>
    exact ih (fun m' h => step m' (List.mem_cons_of_mem m h)) (step m List.mem_cons_self w hw)

/-- What every move keeps holds before every move of a run. -/
theorem records_keep {I : World → Prop}
    (step : ∀ m ∈ moves, ∀ w, I w → I (m.record setup w).after) (hw : I w) :
    ∀ x ∈ records setup moves w, I x.before ∧ ∃ m ∈ moves, x = m.record setup x.before := by
  induction moves generalizing w with
  | nil => intro x hx; cases hx
  | cons m moves ih =>
    intro x hx
    rcases List.mem_cons.1 hx with rfl | hx
    · exact ⟨hw, m, List.mem_cons_self, rfl⟩
    · obtain ⟨hbefore, m', hm', heq⟩ := ih (fun m' h => step m' (List.mem_cons_of_mem m h))
        (step m List.mem_cons_self w hw) x hx
      exact ⟨hbefore, m', List.mem_cons_of_mem m hm', heq⟩

theorem finish_fits (hw : w.table.Fits) : (finish setup moves w).table.Fits :=
  finish_keeps (I := fun w => w.table.Fits)
    (fun m _ w hw => Step.run_fits (w := w.facing m.faults) setup m.step hw) hw

theorem finish_distinct (hw : w.table.Distinct) : (finish setup moves w).table.Distinct :=
  finish_keeps (I := fun w => w.table.Distinct)
    (fun m _ w hw => Step.run_distinct (w := w.facing m.faults) setup m.step hw) hw

theorem finish_insertions_le (setup : Setup) (moves : List Move) (w : World) :
    w.insertions ≤ (finish setup moves w).insertions :=
  finish_keeps (I := fun w' => w.insertions ≤ w'.insertions)
    (fun m _ w' h => Nat.le_trans h (m.record_insertions_le setup w')) (Nat.le_refl _)

/-- A setup with the cache, to try runs with. -/
def Setup.sample : Setup where
  site := {
    identity := ⟨"test-secret-key-long-enough-for-hs256-signing", 30, 300⟩
    cookie := ⟨"access_token", 1800, true, true⟩
    origins := []
    room := 900
    pages := fun _ => "" }
  cacheEnabled := true

/-! ## The start of a run -/

/-- The requests by which a connection is taken up. -/
def Cache.ConnectRequest : Request → Prop
  | .connection _ | .cache .ping | .log _ => True
  | _ => False

theorem Cache.asks_connect (enabled : Bool) : (connect enabled).Asks ConnectRequest := by
  unfold connect
  split
  · exact asks_log trivial
  · refine (asks_request trivial).bind fun _ => ?_
    refine (asks_request (P := ConnectRequest) (r := .cache .ping) trivial).bind fun outcome => ?_
    split
    · refine (asks_log trivial).bind fun _ => ?_
      exact (asks_request trivial).bind fun _ => asks_pure _
    · exact asks_log trivial

/-- A world with nothing in it but the time and the salt. -/
structure World.Empty (now : Instant) (salt : String) (w : World) : Prop where
  now : w.now = now
  salt : w.salt = salt
  table : w.table = []
  insertions : w.insertions = 0
  keys : w.keys = []

theorem World.Empty.answer {now : Instant} {salt : String} {r : Request}
    (hw : w.Empty now salt) (hr : Cache.ConnectRequest r) : (w.answer r).2.Empty now salt := by
  obtain ⟨hnow, hsalt, htable, hinsertions, hkeys⟩ := hw
  cases r with
  | cache c =>
    obtain ⟨hnow', htable', hinsertions', -, hsalt', -, -⟩ := w.runCommand_frame c
    refine ⟨hnow'.trans hnow, hsalt'.trans hsalt, htable'.trans htable,
      hinsertions'.trans hinsertions, ?_⟩
    cases c with
    | ping =>
      show (w.runCommand .ping).2.keys = []
      rcases w.runCommand_keys .ping with h | h <;> exact h.trans hkeys
    | get | setFor | delete | expire => exact hr.elim
  | clock | salt | sql => exact hr.elim
  | log | connection => exact ⟨hnow, hsalt, htable, hinsertions, hkeys⟩

/-- After starting there is nothing in the world. -/
theorem World.started_empty (setup : Setup) (now : Instant) (salt : String)
    (faults : Faults) : (World.started setup now salt faults).Empty now salt := by
  have hfresh : ((World.fresh now salt).facing faults).Empty now salt := ⟨rfl, rfl, rfl, rfl, rfl⟩
  have hasks : ((Cache.connect setup.cacheEnabled >>= fun _ => pure Answer.nothing) :
      Action Answer).Asks Cache.ConnectRequest :=
    (Cache.asks_connect _).bind fun _ => asks_pure _
  obtain ⟨hnow, hsalt, htable, hinsertions, hkeys⟩ :=
    Program.Asks.run_keeps hasks (fun _ _ hr hw => hw.answer hr) hfresh
  exact ⟨hnow, hsalt, htable, hinsertions, hkeys⟩

theorem World.started_fits (setup : Setup) (now : Instant) (salt : String) (faults : Faults) :
    (World.started setup now salt faults).table.Fits := by
  rw [(World.started_empty setup now salt faults).table]
  exact fun row hrow => nomatch hrow

end Accounts
