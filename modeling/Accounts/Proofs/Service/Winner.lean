import Accounts.Proofs.Service.Contest
import Accounts.Proofs.Service.Login
import Accounts.Proofs.Service.Rows
import Accounts.Proofs.Service.Secrecy

/-!
# One of the registrations under one email wins

Whatever the order of their requests, and whichever of their look-ups fail: one registration returns
its session, all others are refused with the same error, and the table has gained the row of the
winner.

    first insertion  ->  session
    all others       ->  emailTaken
-/

namespace Accounts

open Accounts.Action

variable {α : Type} {start : World} {rs : List Registration} {email : String} {s : Scene} {i : Nat}

namespace Contest

/-! ## The parts of a registration -/

/-- Something that neither the other calls nor quiet requests of the call itself can break. -/
abbrev Calm (start : World) (rs : List Registration) (email : String) : Nat → (Scene → Prop) → Prop :=
  Scene.Calm (Contest start rs email) Store.Reads fun _ => False

theorem calm_idle : Calm start rs email i (Idle i) :=
  ⟨fun _ _ hs h => h.awaits hs, fun _ t _ hr hs h => ⟨hs.serve_quiet hr t, h.serve hr t⟩⟩

theorem calm_won (row : Store.Row) : Calm start rs email i (Won i row) :=
  ⟨fun _ _ hs h => h.awaits hs, fun _ t _ hr hs h => ⟨hs.serve_quiet hr t, h.serve hr t⟩⟩

theorem calm_lost : Calm start rs email i (Lost i) :=
  ⟨fun _ _ hs h => h.awaits hs, fun _ t _ hr hs h => ⟨hs.serve_quiet hr t, h.serve hr t⟩⟩

variable {ok : Turn → Prop}

/-- What a look-up for the email tells a call that has not tried its insertion. -/
def Looked (i : Nat) : Except Error (Option Account) → Scene → Prop
  | .ok found, s => Idle i s ∧ (found.isSome = true → Lost i s)
  | .error e, s => Idle i s ∧ ∃ fault, e = .store fault ∧ fault.isReported = true

theorem steady_looked (result : Except Error (Option Account)) :
    Scene.Steady (Contest start rs email) i (Looked i result) := by
  intro s s' hs h
  cases result with
  | ok found => exact ⟨h.1.awaits hs, fun hfound => (h.2 hfound).awaits hs⟩
  | error e => exact ⟨h.1.awaits hs, h.2⟩

section
variable (hentrants : Entrants start rs email) (hok : ∀ t, ok t → t.Mild)
include hentrants hok

theorem upholds_findByEmail (hs : Contest start rs email s) (h : Idle i s) :
    (Store.findByEmail email).Upholds (Contest start rs email) ok i (Looked i) s := by
  have hquery : (query (.findByEmail email)).Upholds (Contest start rs email) ok i
      (fun found => Looked i (found.map fun row => Option.map Store.Row.secret row)) s := by
    refine upholds_query (.findByEmail email) calm_idle.steady h hs
      (fun found => steady_looked (found.map fun row => Option.map Store.Row.secret row))
      fun s t _ ht hs h => ?_
    refine ⟨hs.serve_quiet (r := .sql (.findByEmail email)) trivial t, ?_⟩
    have hidle : Idle i (s.serve t (.sql (.findByEmail email))).2 :=
      h.serve (r := .sql (.findByEmail email)) trivial t
    cases hfault : (t.faults (.sql (.findByEmail email))).sql.head?.join with
    | some fault =>
      rw [Scene.reply_of_fault hfault]
      exact ⟨hidle, fault, rfl, ((hok t ht).faults _ _ hfault).1⟩
    | none =>
      rw [Scene.reply_of_no_fault hfault]
      refine ⟨hidle, fun hfound => ?_⟩
      rw [Option.isSome_map] at hfound
      obtain ⟨row, hrow⟩ := Option.isSome_iff_exists.1 hfound
      exact (hs.taken_by_other hentrants h hrow).serve (r := .sql (.findByEmail email)) trivial t
  exact hquery.bind hs
    (fun found s _ hfound => upholds_pure fun s' hs' => hfound s' hs')
    fun e s _ he => he

/-- A registration goes on after its look-up, or was refused because another one was faster. -/
def Refused (i : Nat) (P : α → Scene → Prop) : Except Error α → Scene → Prop
  | .ok x, s => P x s
  | .error e, s => e = .failure { cause := .emailTaken } ∧ Lost i s

theorem upholds_refuseTaken (hs : Contest start rs email s) (h : Idle i s) (name : String) :
    (Identity.refuseTaken name email).Upholds (Contest start rs email) ok i
      (Refused i fun _ => Idle i) s := by
  have hlook : (Identity.lookAhead name email).Yields (Contest start rs email) ok i
      (fun found => Looked i (.ok found)) s := by
    refine (upholds_findByEmail hentrants hok hs h).tryCatch hs
      (fun found s _ hfound => ⟨found, rfl, hfound⟩) fun e s hs he => ?_
    obtain ⟨hidle, fault, rfl, hreported⟩ := he s (.refl hs)
    dsimp only
    rw [if_pos hreported]
    refine (calm_idle.yields_log hidle _).bind hs fun _ s _ hidle => ?_
    exact yields_pure fun s' hs' => ⟨hidle.awaits hs', fun hsome => nomatch hsome⟩
  unfold Identity.refuseTaken
  split
  · exact upholds_pure fun s' hs' => h.awaits hs'
  · refine hlook.bind hs fun found s _ ⟨hidle, hlost⟩ => ?_
    split
    · rename_i hfound
      exact upholds_fail fun s' hs' => ⟨rfl, (hlost hfound).awaits hs'⟩
    · exact upholds_pure fun s' hs' => hidle.awaits hs'

omit hentrants in
theorem upholds_hashPassword (hs : Contest start rs email s) (h : Idle i s)
    {password : Option LooseText} (hvalid : checkPassword password = .ok none) :
    (Identity.hashPassword (password.getD "")).Yields (Contest start rs email) ok i
      (fun hash s => Idle i s ∧ ∃ salt, Password.hashLoose? salt (password.getD "") = some hash)
      s := by
  have hsalt : (request .salt).Yields (Contest start rs email) ok i (fun salt s => Idle i s ∧
      (Password.Settings.ofText? salt).isSome = true) s :=
    yields_request (r := .salt) calm_idle.steady h (fun _ _ _ hs h => ⟨h.1.awaits hs, h.2⟩)
      fun s t _ ht hs h => ⟨hs.serve_quiet (r := .salt) trivial t,
        h.serve (r := .salt) trivial t, (hok t ht).salted⟩
  unfold Identity.hashPassword
  refine hsalt.bind hs fun salt s _ ⟨hidle, hsalted⟩ => ?_
  rw [← isSome_hashLoose? salt hvalid] at hsalted
  obtain ⟨hash, hhash⟩ := Option.isSome_iff_exists.1 hsalted
  rw [show Password.hashLoose? salt (password.getD "") = some hash from hhash]
  exact yields_pure fun s' hs' => ⟨hidle.awaits hs', salt, hhash⟩

/-- The store inserts the row of a registration, or refuses it because another one was faster. -/
theorem upholds_create (hs : Contest start rs email s) (h : Idle i s) {r prepared : Registration}
    {salt hash : String} (hr : rs[i]? = some r) (hprepared : r.prepare = .ok prepared)
    (hhash : Password.hashLoose? salt (r.password.getD "") = some hash) :
    (Store.create prepared hash).Upholds (Contest start rs email) ok i
      (Refused i fun account s => ∃ row, account = row.secret ∧ RowOf r row ∧ Won i row s) s := by
  have hinsert : (statement (.insert (.ofRegistration prepared hash))).Yields
      (Contest start rs email) ok i (fun reply s =>
        (∃ row : Store.Row, reply = .ok row ∧ RowOf r row ∧ Won i row s) ∨
          reply = .error .conflict ∧ Lost i s) s := by
    refine yields_request (r := .sql (.insert (.ofRegistration prepared hash))) calm_idle.steady h
      (fun reply s s' hs' hreply => ?_)
      fun s t ht hmild hs h => hs.serve_insert hentrants hr hprepared hhash h ht (hok t hmild)
    exact hreply.imp (fun ⟨row, heq, hrow, hwon⟩ => ⟨row, heq, hrow, hwon.awaits hs'⟩)
      fun ⟨heq, hlost⟩ => ⟨heq, hlost.awaits hs'⟩
  unfold Store.create
  refine hinsert.bind hs fun reply s hs hreply => ?_
  rcases hreply with ⟨row, rfl, hrow, hwon⟩ | ⟨rfl, hlost⟩
  · refine ((calm_won row).yields_log hwon _).bind hs fun _ s _ hwon => ?_
    exact upholds_pure fun s' hs' => ⟨row, rfl, hrow, hwon.awaits hs'⟩
  · exact calm_lost.upholds_log_throw hs hlost _ _ fun s hlost => ⟨rfl, hlost⟩

/-- The part of a registration that ends with its row in the table, if another one was not faster. -/
theorem upholds_stored (hs : Contest start rs email s) (h : Idle i s) {r : Registration}
    (hr : rs[i]? = some r) : (Identity.stored r).Upholds (Contest start rs email) ok i
      (Refused i fun account s => ∃ row, account = row.secret ∧ RowOf r row ∧ Won i row s) s := by
  have hmem : r ∈ rs := List.mem_of_getElem? hr
  obtain ⟨prepared, hprepared, -⟩ := hentrants.valid r hmem
  obtain ⟨hpassword, -, hcheck⟩ := Registration.prepare_eq_ok hprepared
  unfold Identity.stored
  rw [hentrants.normalEmail_eq hmem, hprepared]
  refine (upholds_refuseTaken hentrants hok hs h _).bind hs (fun _ s hs hidle => ?_)
    fun e s _ he => he
  have hidle : Idle i s := hidle s (.refl hs)
  rw [Identity.accept_ok, pure_bind, hpassword]
  refine (upholds_hashPassword hok hs hidle hcheck).bind hs ?_
  exact fun hash s hs ⟨hidle, salt, hhash⟩ => upholds_create hentrants hok hs hidle hr hprepared hhash

omit hentrants hok in
/-- A session is made at the time of some turn, if a token can be issued then. -/
theorem upholds_session (hs : Contest start rs email s) {row : Store.Row} (h : Won i row s)
    (config : Identity.Config) (name : String) :
    Action.Upholds (Contest start rs email) ok i
      (fun result s => Won i row s ∧ ∃ t, ok t ∧
        result = Identity.sessionFor config name t.now row)
      (do
        let token ← Identity.issueToken config name row.account
        return Session.mk row.account token) s := by
  have hclock : (request .clock).Yields (Contest start rs email) ok i
      (fun now s => Won i row s ∧ ∃ t, ok t ∧ now = t.now) s :=
    yields_request (r := .clock) (calm_won row).steady h (fun _ _ _ hs h => ⟨h.1.awaits hs, h.2⟩)
      fun s t _ ht hs h => ⟨hs.serve_quiet (r := .clock) trivial t,
        h.serve (r := .clock) trivial t, t, ht, rfl⟩
  unfold Identity.issueToken
  rw [bind_assoc]
  refine hclock.bind hs fun now s hs ⟨hwon, t, ht, hnow⟩ => ?_
  obtain rfl : now = t.now := hnow
  have hsession {result : Except Error Session}
      (hresult : Identity.sessionFor config name t.now row = result) (s' : Scene) (h : Won i row s') :
      Won i row s' ∧ ∃ t, ok t ∧ result = Identity.sessionFor config name t.now row :=
    ⟨h, t, ht, hresult.symm⟩
  dsimp only [Store.Row.account]
  rcases hissue : Token.issue t.now config.secret config.tokenMinutes row.profile.id
    row.profile.email with fault | token
  · have herror := hsession (Identity.sessionFor_of_error name hissue)
    cases fault with
    | unusableKey fault =>
      rw [bind_assoc]
      exact (calm_won row).upholds_log_throw hs hwon _ _ herror
    | _ => exact upholds_throw fun s' hs' => herror s' (hwon.awaits hs')
  · exact upholds_pure fun s' hs' =>
      hsession (Identity.sessionFor_of_ok name hissue) s' (hwon.awaits hs')

/-- How a registration ends: with its row in the table and the session for it, if a token can be issued
at the time of some turn, or with the error of those that another one was faster than. -/
def Ended (ok : Turn → Prop) (config : Identity.Config) (r : Registration) (i : Nat)
    (operation : Option String) (result : Except Error Session) (s : Scene) : Prop :=
  (∃ row t, RowOf r row ∧ Won i row s ∧ ok t ∧
    result = Identity.sessionFor config "identity.register" t.now row) ∨
  result = .error (.failure { cause := .emailTaken, operation := operation }) ∧ Lost i s

/-- The operation tags the error of those that came too late, and lets that of a token through. -/
theorem upholds_enrolled (hs : Contest start rs email s) (h : Idle i s) {r : Registration}
    (hr : rs[i]? = some r) (config : Identity.Config) :
    (Identity.enrolled config r).Upholds (Contest start rs email) ok i
      (Ended ok config r i (some "identity.register")) s := by
  have hbody : Action.Upholds (Contest start rs email) ok i (Ended ok config r i none) (do
      let account ← Identity.stored r
      let token ← Identity.issueToken config "identity.register" account.sanitized
      return Session.mk account.sanitized token) s := by
    refine (upholds_stored hentrants hok hs h hr).bind hs (fun account s hs hstored => ?_)
      fun e s _ ⟨he, hlost⟩ => .inr ⟨congrArg _ he, hlost⟩
    obtain ⟨row, rfl, hrow, hwon⟩ := hstored s (.refl hs)
    exact (upholds_session hs hwon config _).mono fun result s _ ⟨hwon, t, ht, hresult⟩ =>
      .inl ⟨row, t, hrow, hwon, ht, hresult⟩
  rw [Identity.enrolled_eq]
  refine hbody.tryCatch hs (fun session s _ hended => ?_) fun e s hs hended => ?_
  · exact hended.imp_right fun ⟨hresult, _⟩ => nomatch hresult
  · rcases hended s (.refl hs) with ⟨row, t, hrow, hwon, ht, hresult⟩ | ⟨hresult, hlost⟩
    · obtain ⟨fault, -, rfl⟩ := Identity.error_of_sessionFor hresult.symm
      cases fault <;> exact upholds_throw fun s' hs' =>
        .inl ⟨row, t, hrow, hwon.awaits hs', ht, hresult⟩
    · obtain rfl := Except.error.inj hresult
      exact upholds_throw fun s' hs' => .inr ⟨rfl, hlost.awaits hs'⟩

theorem upholds_register (hs : Contest start rs email s) (h : Idle i s) {r : Registration}
    (hr : rs[i]? = some r) (config : Identity.Config) :
    (Identity.register config r).Upholds (Contest start rs email) ok i
      (Ended ok config r i (some "identity.register")) s := by
  rw [Identity.register_eq]
  refine (upholds_enrolled hentrants hok hs h hr config).bind hs (fun session s hs hended => ?_)
    fun e s _ he => he
  rcases hended s (.refl hs) with ⟨row, t, hrow, hwon, ht, hresult⟩ | ⟨hresult, -⟩
  · refine ((calm_won row).yields_log hwon _).bind hs fun _ s _ hwon => ?_
    exact upholds_pure fun s' hs' => .inl ⟨row, t, hrow, hwon.awaits hs', ht, hresult⟩
  · cases hresult

end

end Contest

/-! ## The winner -/

/-- The pool of the registrations of some payloads. -/
def registrations (setup : Setup) (start : World) (rs : List Registration) :
    Pool (Except Error Answer) where
  scene := { world := start }
  calls := rs.map fun r => Step.call setup (.register r)

/-- A pool in which one registration has won with a row, and the others were refused. -/
structure WonBy (setup : Setup) (start : World) (rs : List Registration) (schedule : List Turn)
    (p : Pool (Except Error Answer)) (k : Nat) (row : Store.Row) : Prop where
  /-- The table has gained the row of the winner, and nothing else. -/
  table : p.scene.world.table = start.table ++ [row]
  /-- The row has the values of the winner in normal form, and a hash of its password. -/
  values : ∃ r prepared hash id time, rs[k]? = some r ∧ r.prepare = .ok prepared ∧
    row = (Store.Draft.ofRegistration prepared hash).row id (normalEmail r.details.email).chars
      time ∧ row.AskedBy r ∧
    Password.verifyLoose (some row.hash) (r.password.getD "") = .accepted
  /-- The winner ends with what comes of the session for its row, at the time of one of its turns. -/
  answer : ∃ t ∈ schedule, p.calls[k]? = some (.done
    ((Identity.sessionFor setup.identity "identity.register" t.now row).map .session))
  /-- The winner returns when tokens can be issued. -/
  returns : (∀ t ∈ schedule, ∃ token, Token.issue t.now setup.identity.secret
      setup.identity.tokenMinutes row.profile.id row.profile.email = .ok token) →
    ∃ token, p.calls[k]? = some (.done (.ok (.session ⟨row.account, token⟩)))
  /-- All others have one and the same error. -/
  refused : ∀ j < rs.length, j ≠ k → p.calls[j]? = some (.done (.error
    (.failure { cause := .emailTaken, operation := some "identity.register" })))

theorem Contest.upheld {schedule : List Turn} (hentrants : Entrants start rs email)
    (hturns : ∀ t ∈ schedule, t.Mild) (setup : Setup) :
    (registrations setup start rs).Upheld (Contest start rs email) (· ∈ schedule)
      fun i result s => ∀ r, rs[i]? = some r → ∃ session, result = Except.map .session session ∧
        Ended (· ∈ schedule) setup.identity r i (some "identity.register") session s := by
  have hstart : Contest start rs email { world := start } :=
    ⟨rfl, List.nodup_nil, fun _ hi => (nomatch hi), (List.append_nil _).symm, .inl rfl⟩
  refine ⟨hstart, fun i c hc => ?_⟩
  obtain ⟨r, hr, rfl⟩ := Option.map_eq_some_iff.1 ((List.getElem?_map).symm.trans hc)
  have hregister := upholds_register hentrants hturns hstart (fun hi => nomatch hi) hr setup.identity
  refine (hregister.mono fun session s _ hended r' hr' => ?_).returned hstart
  rw [← Option.some.inj (hr.symm.trans hr')]
  exact ⟨session, rfl, hended⟩

/-- **One registration wins.**  Of registrations under one email at the same time exactly one wins,
whatever the order of their steps and whichever of their look-ups fail. -/
theorem one_registration_wins (setup : Setup) (start : World) (rs : List Registration)
    (email : String) (hsome : rs ≠ []) (hentrants : Entrants start rs email) (schedule : List Turn)
    (hturns : ∀ t ∈ schedule, t.Mild)
    (hfinished : ((registrations setup start rs).run schedule).Finished) :
    ∃ k row, WonBy setup start rs schedule ((registrations setup start rs).run schedule) k row := by
  have hupheld := (Contest.upheld hentrants hturns setup).run fun _ ht => ht
  have hlength : ((registrations setup start rs).run schedule).calls.length = rs.length :=
    (Pool.length_run _ _).trans (List.length_map _)
  generalize (registrations setup start rs).run schedule = p at hfinished hupheld hlength ⊢
  have hended (j : Nat) (r : Registration) (hr : rs[j]? = some r) : ∃ session,
      p.calls[j]? = some (.done (Except.map .session session)) ∧ Contest.Ended (· ∈ schedule)
        setup.identity r j (some "identity.register") session p.scene := by
    have hj : j < p.calls.length := hlength ▸ (List.getElem?_eq_some_iff.1 hr).1
    obtain ⟨result, hresult⟩ := hfinished.ended hj
    obtain ⟨session, rfl, hsession⟩ := hupheld.ended hresult r hr
    exact ⟨session, hresult, hsession⟩
  -- The first call has ended, so some row was inserted: its own or that of a faster one.
  have hwon : won p.scene.history ≠ [] := by
    obtain ⟨r, hr⟩ : ∃ r, rs[0]? = some r :=
      ⟨_, List.getElem?_eq_getElem (List.length_pos_iff.2 hsome)⟩
    obtain ⟨_, -, ⟨row, t, -, hone, -⟩ | ⟨-, k, row, -, hone⟩⟩ := hended 0 r hr
    · rw [hone]
      exact List.cons_ne_nil _ _
    · rw [hone]
      exact List.cons_ne_nil _ _
  rcases hupheld.inv.single with hnone | ⟨k, r, row, hone, hr, hrow, -⟩
  · exact absurd hnone hwon
  have hanswer : ∃ t ∈ schedule, p.calls[k]? = some (.done
      ((Identity.sessionFor setup.identity "identity.register" t.now row).map .session)) := by
    obtain ⟨session, hanswer, ⟨row', t, -, hown, ht, hsession⟩ | ⟨-, k', row', hk', hother⟩⟩ :=
      hended k r hr
    · obtain ⟨-, rfl⟩ := Prod.mk.inj (List.cons.inj (hone.symm.trans hown)).1
      rw [hsession] at hanswer
      exact ⟨t, ht, hanswer⟩
    · exact absurd (Prod.mk.inj (List.cons.inj (hone.symm.trans hother)).1).1.symm hk'
  refine ⟨k, row, by rw [hupheld.inv.table, hone]; rfl, ?_, hanswer, fun hissue => ?_,
    fun j hj hjk => ?_⟩
  · obtain ⟨prepared, hash, salt, id, time, hprepared, hhash, rfl⟩ := hrow
    exact ⟨r, prepared, hash, id, time, hr, hprepared, rfl,
      Store.Row.askedBy_of_prepare hprepared hash id time, Password.verifyLoose_own hhash⟩
  · obtain ⟨t, ht, hanswer⟩ := hanswer
    obtain ⟨token, htoken⟩ := hissue t ht
    rw [Identity.sessionFor_of_ok _ htoken] at hanswer
    exact ⟨token, hanswer⟩
  · obtain ⟨session, hanswer, ⟨row', t, -, hown, -⟩ | ⟨hsession, -⟩⟩ :=
      hended j _ (List.getElem?_eq_getElem hj)
    · exact absurd (Prod.mk.inj (List.cons.inj (hown.symm.trans hone)).1).1 hjk
    · rw [hsession] at hanswer
      exact hanswer

/-- Registrations of broken texts add no row, whatever the order of their steps. -/
theorem broken_registrations_add_nothing (setup : Setup) (start : World) (rs : List Registration)
    (hbroken : ∀ r ∈ rs, ∀ prepared, r.prepare = .ok prepared → prepared.details.isWhole = false)
    (schedule : List Turn) :
    ((registrations setup start rs).run schedule).scene.world.table = start.table := by
  have hupheld : (registrations setup start rs).Upheld (fun s => s.world.table = start.table)
      (fun _ => True) fun _ _ _ => True := by
    refine ⟨rfl, fun i c hc => ?_⟩
    obtain ⟨r, hr, rfl⟩ := Option.map_eq_some_iff.1 ((List.getElem?_map).symm.trans hc)
    have hasks : Action.Asks (Request.Within (Identity.RegisterStatement r) fun _ => False)
        (Identity.register setup.identity r >>= fun session => pure (Answer.session session)) :=
      Asks.bind (Identity.asks_register _ r) fun _ => asks_pure _
    refine hasks.upholds (P := fun _ => True) (fun _ _ _ _ => trivial) trivial
      fun s t request _ _ hrequest hs _ => ⟨?_, trivial⟩
    refine World.answer_keeps (I := fun table => table = start.table) (w := s.facing t request)
      request (fun st new heq ht => ?_) hs
    subst heq
    -- the look-up only reads, and the values of the row cannot be handed over
    rcases hrequest with rfl | ⟨prepared, salt, hash, hprepared, -, rfl⟩
    · exact ht
    · have hfault := Store.bindFault?_of_broken
        (hbroken r (List.mem_of_getElem? hr) prepared hprepared) prepared.details.postcode
      exact (congrArg Prod.snd (Store.insert_of_fault hfault)).trans ht
  exact (hupheld.run fun _ _ => trivial).inv

/-- A turn in which look-ups for an email fail. -/
def sampleTurn (i : Nat) : Turn where
  call := i
  now := 0
  salt := sampleSalt
  faults
    | .sql (.findByEmail _) => { sql := [some .unavailable] }
    | _ => {}

theorem sampleTurn_mild (i : Nat) : (sampleTurn i).Mild := by
  have hdated : (Store.stamp? 0).isSome = true := by decide +kernel
  have hsalted : (Password.Settings.ofText? sampleSalt).isSome = true := by decide +kernel
  refine ⟨hdated, hsalted, fun r fault hfault => ?_⟩
  unfold sampleTurn at hfault
  dsimp only at hfault
  split at hfault
  · cases hfault
    exact ⟨rfl, _, rfl⟩
  · cases hfault

theorem sample_entrants : Entrants (World.fresh 0 sampleSalt)
    [sampleRegistration, sampleRegistration] (normalEmail sampleRegistration.details.email).chars where
  valid r hr := by
    obtain rfl : r = sampleRegistration := by simpa using hr
    exact ⟨_, sample_prepare, rfl⟩
  emails r hr := by
    obtain rfl : r = sampleRegistration := by simpa using hr
    rfl
  free := rfl
  fresh _ _ _ := rfl

/-- The same registration twice, while look-ups fail: one is stored and has a session. -/
theorem one_registration_wins_sample : ∃ schedule, (∀ t ∈ schedule, t.Mild) ∧
    ((registrations .sample (World.fresh 0 sampleSalt)
      [sampleRegistration, sampleRegistration]).run schedule).Finished ∧
    ∃ k row token, WonBy .sample (World.fresh 0 sampleSalt) [sampleRegistration, sampleRegistration]
        schedule ((registrations .sample (World.fresh 0 sampleSalt)
          [sampleRegistration, sampleRegistration]).run schedule) k row ∧
      ((registrations .sample (World.fresh 0 sampleSalt)
        [sampleRegistration, sampleRegistration]).run schedule).calls[k]? =
          some (.done (.ok (.session ⟨row.account, token⟩))) := by
  obtain ⟨schedule, hturns, hfinished⟩ := Pool.exists_finished sampleTurn (fun _ => rfl)
    (registrations .sample (World.fresh 0 sampleSalt) [sampleRegistration, sampleRegistration])
  have hmild : ∀ t ∈ schedule, t.Mild := by
    intro t ht
    obtain ⟨i, rfl⟩ := hturns t ht
    exact sampleTurn_mild i
  obtain ⟨k, row, hwon⟩ := one_registration_wins .sample _ _ _ (List.cons_ne_nil _ _)
    sample_entrants schedule hmild hfinished
  have hkey : Token.keyFault? Setup.sample.identity.secret = none := by decide +kernel
  obtain ⟨token, htoken⟩ := hwon.returns fun t ht => by
    obtain ⟨i, rfl⟩ := hturns t ht
    exact Token.issue_of_expiry (show Token.expiry 0 30 = .ok 1800 from rfl) hkey _ _
  exact ⟨schedule, hmild, hfinished, k, row, token, hwon, htoken⟩

/-- A registration with a broken name breaks no rule and its email is free, but it does not win even
alone. -/
theorem broken_name_wins_nothing : ∃ schedule, (∀ t ∈ schedule, t.Mild) ∧
    ((registrations .sample (World.fresh 0 sampleSalt) [brokenRegistration]).run schedule).Finished ∧
    brokenRegistration.prepare = .ok brokenRegistration.normal ∧
    Store.fitsColumn brokenRegistration.normal.details.postcode = true ∧
    (World.fresh 0 sampleSalt).table.findEmail?
      (normalEmail brokenRegistration.details.email).chars = none ∧
    ∀ k row, ¬ WonBy .sample (World.fresh 0 sampleSalt) [brokenRegistration] schedule
      ((registrations .sample (World.fresh 0 sampleSalt) [brokenRegistration]).run schedule) k row := by
  obtain ⟨schedule, hturns, hfinished⟩ := Pool.exists_finished sampleTurn (fun _ => rfl)
    (registrations .sample (World.fresh 0 sampleSalt) [brokenRegistration])
  have hbroken : brokenRegistration.normal.details.isWhole = false := by decide +kernel
  have hnothing := broken_registrations_add_nothing .sample (World.fresh 0 sampleSalt)
    [brokenRegistration] (fun r hr prepared hprepared => by
      obtain rfl : r = brokenRegistration := by simpa using hr
      obtain rfl := Except.ok.inj (broken_prepare.symm.trans hprepared)
      exact hbroken) schedule
  refine ⟨schedule, fun t ht => ?_, hfinished, broken_prepare, rfl, rfl, fun k row hwon => ?_⟩
  · obtain ⟨i, rfl⟩ := hturns t ht
    exact sampleTurn_mild i
  · rw [hwon.table] at hnothing
    cases hnothing

end Accounts
