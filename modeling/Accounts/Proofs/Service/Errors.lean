import Accounts.Proofs.Account.Rules
import Accounts.Proofs.Calendar.Instant
import Accounts.Proofs.Service.Login

/-!
# The errors of the service

While the database reports its own faults only and tokens can expire, an operation of the service
fails in a documented way: with a failure that is tagged with the name of the operation and of one of
its kinds.  Three errors come past that, each for an input that no rule forbids: a postcode that is no
integer of 64 bits, a broken text that a statement is to hand over, and a broken password whose bytes
are counted:

    the operation fails with e
      ->  e = .failure f,  f.operation = some name,  f.cause.kind ∈ kinds
      or  e escapes, for a postcode, a text or a password of the input
-/

namespace Accounts

open Accounts.Action
open Calendar

variable {α β : Type} {w : World} {E E' : Error → Prop} {config : Identity.Config}

/-! ## Worlds that report -/

/-- The database meets only faults that it reports, and an hour from now is a date. -/
structure World.Reports (w : World) : Prop where
  faults : ∀ fault ∈ w.faults.sql, fault = none ∨ fault = some .unavailable ∨ fault = some .conflict
  clock : calendarStart ≤ w.now + 3600 * second ∧ w.now + 3600 * second < calendarEnd

theorem World.answer_faults_subset (w : World) (r : Request) :
    ∀ fault ∈ (w.answer r).2.faults.sql, fault ∈ w.faults.sql := by
  intro fault hfault
  cases r with
  | sql s =>
    have hdrop : (w.runStatement s).2.faults.sql = w.faults.sql.drop 1 := by
      cases h : w.faults.sql.head?.join with
      | none => rw [runStatement_of_no_fault h]; rfl
      | some fault => rw [runStatement_of_fault h]; rfl
    have hmem : fault ∈ (w.runStatement s).2.faults.sql := hfault
    rw [hdrop] at hmem
    exact List.mem_of_mem_drop hmem
  | cache c =>
    have hmem : fault ∈ (w.runCommand c).2.faults.sql := hfault
    rwa [(runCommand_frame w c).2.2.2.2.2.2] at hmem
  | clock | salt | log | connection => exact hfault

theorem World.Reports.answer (h : w.Reports) (r : Request) : (w.answer r).2.Reports := by
  refine ⟨fun fault hfault => h.faults fault (w.answer_faults_subset r fault hfault), ?_⟩
  rw [w.answer_now r]
  exact h.clock

theorem World.Reports.run (h : w.Reports) (p : Program α) : (p.run w).2.Reports := by
  induction p generalizing w with
  | done a => exact h
  | ask r next ih => exact ih _ (h.answer r)

/-! ## Bounds on errors -/

namespace Action

/-- The errors of an action have a property, in every world that reports. -/
def Raises (E : Error → Prop) (a : Action α) : Prop :=
  ∀ w e, w.Reports → (a.run w).1 = .error e → E e

theorem Raises.mono {a : Action α} (ha : a.Raises E) (h : ∀ e, E e → E' e) : a.Raises E' :=
  fun w e hw herror => h e (ha w e hw herror)

theorem raises_of_returns {a : Action α} (ha : a.Returns) : a.Raises E := by
  intro w e _ h
  obtain ⟨x, w', hrun⟩ := ha w
  rw [hrun] at h
  cases h

theorem raises_pure (a : α) : (pure a : Action α).Raises E := raises_of_returns (returns_pure a)

theorem raises_log (event : Event) : (log event).Raises E := raises_of_returns (returns_log event)

theorem raises_throw {e : Error} (h : E e) : (throw e : Action α).Raises E := by
  intro w e' _ herror
  rw [run_throw] at herror
  rwa [← Except.error.inj herror]

theorem Raises.bind {a : Action α} {f : α → Action β} (ha : a.Raises E) (hf : ∀ x, (f x).Raises E) :
    (a >>= f).Raises E := by
  intro w e hw h
  rw [run_bind] at h
  rcases hrun : a.run w with ⟨e' | x, w'⟩
  · rw [hrun] at h
    rw [← Except.error.inj h]
    exact ha w e' hw (by rw [hrun])
  · rw [hrun] at h
    have hw' : (a.run w).2.Reports := hw.run (ExceptT.run a)
    rw [hrun] at hw'
    exact hf x w' e hw' h

theorem Raises.tryCatch {a : Action α} {handle : Error → Action α} (ha : a.Raises E')
    (hh : ∀ e, E' e → (handle e).Raises E) : (tryCatch a handle).Raises E := by
  intro w e hw h
  rw [run_tryCatch] at h
  rcases hrun : a.run w with ⟨e' | x, w'⟩
  · rw [hrun] at h
    have hw' : (a.run w).2.Reports := hw.run (ExceptT.run a)
    rw [hrun] at hw'
    exact hh e' (ha w e' hw (by rw [hrun])) w' e hw' h
  · rw [hrun] at h
    cases h

end Action

/-! ## Statements -/

namespace Store

/-- A fault of a statement for values that cannot be handed over. -/
def Statement.Refuses : Statement → Fault → Prop
  | .insert draft, fault => bindFault? draft.isWhole draft.postcode = some fault
  | .revise _ details, fault =>
    bindFault? details.changes.isWhole details.changes.postcode = some fault
  | .findByEmail email, fault => email.isWhole = false ∧ fault = .encoding .surrogate
  | .remove _, _ | .findById _, _ | .probe, _ => False

/-- A postcode that does not fit after blank values are left out did not fit before. -/
theorem oversized_of_filter {n : Option Int} {p : Int → Bool} (h : fitsColumn (n.filter p) = false) :
    fitsColumn n = false := by
  cases hfilter : n.filter p with
  | none =>
    rw [hfilter] at h
    cases h
  | some m =>
    rw [hfilter] at h
    rwa [(Option.filter_eq_some_iff.1 hfilter).1]

/-- What cannot be handed over is a broken text or a postcode that does not fit. -/
theorem bindFault?_eq_some {isWhole : Bool} {postcode : Option Int} {fault : Fault}
    (h : bindFault? isWhole postcode = some fault) :
    (isWhole = false ∧ fault = .encoding .surrogate) ∨
      fitsColumn postcode = false ∧ fault = .integerTooLarge := by
  unfold bindFault? at h
  split at h
  · rename_i hbroken
    cases h
    exact .inl ⟨by simpa using hbroken, rfl⟩
  · split at h
    · rename_i hover
      cases h
      exact .inr ⟨by simpa using hover, rfl⟩
    · cases h

/-- A fault that a statement can meet. -/
def Statement.MayMeet (s : Statement) (fault : Fault) : Prop :=
  fault.isReported = true ∨ s.Refuses fault

/-- An insertion fails when its values cannot be handed over, or else by a fault that is reported. -/
theorem fault_of_insert {now : Instant} {new : Uuid} {draft : Draft} {t : Table} {fault : Fault}
    (h : (insert now new draft t).1 = .error fault) :
    fault.isReported = true ∨ bindFault? draft.isWhole draft.postcode = some fault := by
  unfold insert at h
  split at h
  · rename_i hrefused
    cases h
    exact .inr hrefused
  · split at h
    · dsimp only at h
      split at h <;> cases h
      exact .inl rfl
    · cases h
      exact .inl rfl

/-- So does a revision. -/
theorem fault_of_revise {now : Instant} {id : Uuid} {d : Details} {t : Table} {fault : Fault}
    (h : (revise now id d t).1 = .error fault) :
    fault.isReported = true ∨ bindFault? d.changes.isWhole d.changes.postcode = some fault := by
  unfold revise at h
  split at h
  · rename_i hrefused
    cases h
    exact .inr hrefused
  · split at h
    · cases h
    · split at h
      · cases h
        exact .inl rfl
      · dsimp only at h
        split at h <;> cases h
        exact .inl rfl

/-- A look-up fails for a broken email alone. -/
theorem fault_of_lookUp {email : LooseText} {t : Table} {fault : Fault}
    (h : lookUp email t = .error fault) : email.isWhole = false ∧ fault = .encoding .surrogate := by
  unfold lookUp LooseText.whole at h
  cases hwhole : email.isWhole with
  | true =>
    rw [hwhole] at h
    cases h
  | false =>
    rw [hwhole] at h
    cases h
    exact ⟨rfl, rfl⟩

theorem Statement.mayMeet_of_run {s : Statement} {now : Instant} {new : Uuid} {t : Table}
    {fault : Fault} (h : (s.run now new t).1 = .error fault) : s.MayMeet fault := by
  cases s with
  | insert draft => exact fault_of_insert h
  | revise id details => exact fault_of_revise h
  | findByEmail email => exact .inr (fault_of_lookUp h)
  | remove | findById | probe => cases h

/-- In a world that reports, a statement meets a fault of the database or one of its own. -/
theorem Statement.mayMeet {s : Statement} {fault : Fault} (hw : w.Reports)
    (h : (w.runStatement s).1 = .error fault) : s.MayMeet fault := by
  cases hfault : w.faults.sql.head?.join with
  | none =>
    rw [World.runStatement_of_no_fault hfault] at h
    exact mayMeet_of_run h
  | some met =>
    rw [World.runStatement_of_fault hfault] at h
    cases h
    have hhead : w.faults.sql.head? = some (some fault) := Option.join_eq_some_iff.1 hfault
    rcases hw.faults _ (List.mem_of_mem_head? hhead) with hmet | hmet | hmet
    · cases hmet
    · cases hmet
      exact .inl rfl
    · cases hmet
      exact .inl rfl

end Store

theorem Action.raises_statement_bind {s : Store.Statement}
    {f : Except Store.Fault s.Result → Action β} (hok : ∀ r, (f (.ok r)).Raises E)
    (herror : ∀ fault, s.MayMeet fault → (f (.error fault)).Raises E) :
    (statement s >>= f).Raises E := by
  intro w e hw h
  rw [run_bind, run_statement] at h
  have hw' : (w.runStatement s).2.Reports := hw.answer (.sql s)
  rcases hrun : (w.runStatement s).1 with fault | r
  · rw [hrun] at h
    exact herror fault (Store.Statement.mayMeet hw hrun) _ e hw' h
  · rw [hrun] at h
    exact hok r _ e hw' h

/-! ## Failures of an operation -/

/-- What may come out of the parts of an operation: a failure of one of its kinds without another
tag, a fault that the database reports, or an error that escapes. -/
def Error.Inner (name : String) (kinds : List Cause.Kind) (escape : Error → Prop) : Error → Prop
  | .failure f => f.cause.kind ∈ kinds ∧ (f.operation = none ∨ f.operation = some name)
  | .store fault => fault.isReported = true ∨ escape (.store fault)
  | e => escape e

/-- What may come out of an operation: a failure of one of its kinds with its tag, or an error that
escapes. -/
def Error.Outer (name : String) (kinds : List Cause.Kind) (escape : Error → Prop) : Error → Prop
  | .failure f => f.cause.kind ∈ kinds ∧ f.operation = some name
  | e => escape e

open Error (Inner Outer)

variable {name : String} {kinds : List Cause.Kind} {escape : Error → Prop}

theorem raises_fail {cause : Cause} (h : cause.kind ∈ kinds) :
    (fail cause : Action α).Raises (Inner name kinds escape) := raises_throw ⟨h, .inl rfl⟩

/-- A fault of a statement comes out as it is. -/
theorem raises_throw_store {s : Store.Statement} {fault : Store.Fault}
    (hs : ∀ fault, s.Refuses fault → escape (.store fault)) (h : s.MayMeet fault) :
    (throw (.store fault) : Action α).Raises (Inner name kinds escape) :=
  raises_throw (h.imp_right fun h => hs fault h)

theorem raises_query {s : Store.Statement} (hs : ∀ fault, s.Refuses fault → escape (.store fault)) :
    (query s).Raises (Inner name kinds escape) := by
  refine raises_statement_bind (fun r => raises_pure r) fun fault hfault => ?_
  exact raises_throw_store hs hfault

namespace Store

theorem raises_create {r : Registration} {hash : String} (hconflict : .conflict ∈ kinds)
    (hs : ∀ fault, bindFault? r.details.isWhole r.details.postcode = some fault →
      escape (.store fault)) : (create r hash).Raises (Inner name kinds escape) := by
  have hs : ∀ fault, (Statement.insert (.ofRegistration r hash)).Refuses fault →
      escape (.store fault) := hs
  refine raises_statement_bind (fun row => ?_) fun fault hfault => ?_
  · exact (raises_log _).bind fun _ => raises_pure _
  · cases fault with
    | conflict => exact (raises_log _).bind fun _ => raises_fail hconflict
    | unavailable | timedOut | refused | integerTooLarge | encoding =>
      exact raises_throw_store hs hfault

theorem raises_update {id : Uuid} {d : Details} (hconflict : .conflict ∈ kinds)
    (hunknown : .notFound ∈ kinds)
    (hs : ∀ fault, bindFault? d.changes.isWhole d.changes.postcode = some fault →
      escape (.store fault)) : (update id d).Raises (Inner name kinds escape) := by
  have hs : ∀ fault, (Statement.revise id d).Refuses fault → escape (.store fault) := hs
  refine raises_statement_bind (fun row => ?_) fun fault hfault => ?_
  · cases row with
    | none => exact raises_fail hunknown
    | some row => exact (raises_log _).bind fun _ => raises_pure _
  · cases fault with
    | conflict => exact (raises_log _).bind fun _ => raises_fail hconflict
    | unavailable | timedOut | refused | integerTooLarge | encoding =>
      exact raises_throw_store hs hfault

theorem raises_delete {id : Uuid} (hunknown : .notFound ∈ kinds) :
    (delete id).Raises (Inner name kinds escape) := by
  refine Raises.bind (raises_query fun _ h => h.elim) fun found => ?_
  split
  · exact raises_log _
  · exact raises_fail hunknown

theorem raises_find {id : Uuid} (hunknown : .notFound ∈ kinds) :
    (find id).Raises (Inner name kinds escape) := by
  refine Raises.bind (raises_query fun _ h => h.elim) fun found => ?_
  split
  · exact raises_pure _
  · exact raises_fail hunknown

theorem raises_findByEmail {email : LooseText}
    (hs : email.isWhole = false → escape (.store (.encoding .surrogate))) :
    (findByEmail email).Raises (Inner name kinds escape) := by
  refine Raises.bind (raises_query fun fault h => ?_) fun _ => raises_pure _
  obtain ⟨hbroken, rfl⟩ := h
  exact hs hbroken

end Store

namespace Identity

/-- An operation tags its failures and hides the faults that the database reports. -/
theorem raises_operation {a : Action α} (hinternal : .internal ∈ kinds)
    (ha : a.Raises (Inner name kinds escape)) :
    (operation name a).Raises (Outer name kinds escape) := by
  refine Raises.tryCatch ha fun e he => ?_
  cases e with
  | failure f =>
    obtain ⟨hkind, htag⟩ := he
    refine raises_throw ⟨hkind, ?_⟩
    show some (f.operation.getD name) = some name
    rcases htag with htag | htag
    · rw [htag]
      rfl
    · rw [htag]
      rfl
  | store fault =>
    dsimp only
    split
    · exact (raises_log _).bind fun _ => raises_throw ⟨hinternal, rfl⟩
    · rename_i hreported
      exact raises_throw (he.resolve_left hreported)
  | token | claims | encoding => exact raises_throw he

theorem raises_accept_bind {x : Except InputFault α} {f : α → Action β}
    (hvalidation : .validation ∈ kinds)
    (hs : ∀ fault, x = .error (.encoding fault) → escape (.encoding fault))
    (hf : ∀ a, x = .ok a → (f a).Raises (Inner name kinds escape)) :
    (accept x >>= f).Raises (Inner name kinds escape) := by
  rcases x with (violations | fault) | a
  · have hfail : (fail (.invalidInput violations) : Action β).Raises (Inner name kinds escape) :=
      raises_fail hvalidation
    exact hfail
  · have hthrow : (throw (.encoding fault) : Action β).Raises (Inner name kinds escape) :=
      raises_throw (hs fault rfl)
    exact hthrow
  · exact hf a rfl

/-- A token for an hour can expire in a world that reports. -/
theorem expiry_of_reports (hw : w.Reports) : ∃ expires, Token.expiry w.now 60 = .ok expires := by
  obtain ⟨d, hd⟩ : ∃ d, DateTime.ofInstant? none (w.now + 60 * (60 * second)) = some d :=
    DateTime.exists_ofInstant?.2 hw.clock
  unfold Token.expiry
  dsimp only
  rw [hd]
  exact ⟨_, rfl⟩

theorem raises_issueToken (hminutes : config.tokenMinutes = 60) (hinternal : .internal ∈ kinds)
    (account : Account) : (issueToken config name account).Raises (Inner name kinds escape) := by
  intro w e hw h
  obtain ⟨expires, hexpiry⟩ := expiry_of_reports hw
  have hclock : Action.run (request .clock) w = (.ok w.now, w) := rfl
  unfold issueToken at h
  rw [run_bind_ok _ hclock, hminutes] at h
  rcases hissue : Token.issue w.now config.secret 60 account.id account.email with fault | token
  · rw [hissue] at h
    obtain ⟨key, rfl⟩ := Token.issue_error hexpiry hissue
    rw [← Except.error.inj h]
    exact ⟨hinternal, .inr rfl⟩
  · rw [hissue] at h
    cases h

theorem raises_hashPassword (hinternal : .internal ∈ kinds) (password : LooseText) :
    (hashPassword password).Raises (Inner name kinds escape) := by
  refine Raises.bind (raises_of_returns fun w => ⟨_, _, rfl⟩) fun salt => ?_
  split
  · exact raises_pure _
  · exact raises_fail hinternal

theorem raises_checkPassword (hunauthorized : .unauthorized ∈ kinds) (account : Account)
    (password : LooseText) : (checkPassword account password).Raises (Inner name kinds escape) := by
  unfold checkPassword
  split
  · exact raises_pure _
  · exact raises_fail hunauthorized
  · exact (raises_log _).bind fun _ => raises_fail hunauthorized

/-- A look-up before a registration hides the database faults that are reported. -/
theorem raises_refuseTaken (hconflict : .conflict ∈ kinds) {email : LooseText}
    (hs : email.isWhole = false → escape (.store (.encoding .surrogate))) :
    (refuseTaken name email).Raises (Inner name kinds escape) := by
  have hfind : (Store.findByEmail email).Raises (Inner name kinds escape) :=
    Store.raises_findByEmail hs
  have hlook : (lookAhead name email).Raises (Inner name kinds escape) := by
    refine Raises.tryCatch hfind fun e he => ?_
    cases e with
    | store fault =>
      dsimp only
      split
      · exact (raises_log _).bind fun _ => raises_pure _
      · exact raises_throw he
    | failure | token | claims | encoding => exact raises_throw he
  unfold refuseTaken
  split
  · exact raises_pure _
  · refine hlook.bind fun found => ?_
    split
    · exact raises_fail hconflict
    · exact raises_pure _

end Identity

/-! ## Errors that escape -/

/-- The name of the operation of a step of the service, and the kinds of failures that it has. -/
def Step.operation? : Step → Option (String × List Cause.Kind)
  | .register _ => some ("identity.register", [.validation, .conflict, .internal])
  | .login _ => some ("identity.login", [.validation, .unauthorized, .internal])
  | .update _ _ => some ("identity.update", [.validation, .notFound, .conflict, .internal])
  | .delete _ => some ("identity.delete", [.notFound, .internal])
  | .find _ => some ("identity.get_by_id", [.notFound, .internal])
  | _ => none

/-- The input of a step has a postcode that is no integer of 64 bits. -/
def Step.Oversized : Step → Prop
  | .register r => Store.fitsColumn r.details.postcode = false
  | .update _ d => Store.fitsColumn d.postcode = false
  | _ => False

/-- The input of a step has a broken text for the table. -/
def Step.Broken : Step → Prop
  | .register r => r.details.isWhole = false
  | .update _ d => d.isWhole = false
  | _ => False

/-- The input of a step has a broken password with as many characters as it needs. -/
def Step.Uncounted : Step → Prop
  | .register r => Ruled.password.Uncounted r.password
  | .login c => Ruled.password.Uncounted c.password
  | _ => False

/-- An error that comes past the tags of the service, for an input that no rule forbids. -/
inductive Step.Escapes (step : Step) : Error → Prop where
  | oversized (h : step.Oversized) : step.Escapes (.store .integerTooLarge)
  | broken (h : step.Broken) : step.Escapes (.store (.encoding .surrogate))
  | uncounted (fault : EncodingFault) (h : step.Uncounted) : step.Escapes (.encoding fault)

/-- What keeps the values of a step from being handed over escapes. -/
theorem Step.escapes_of_bindFault? {step : Step} {isWhole : Bool} {postcode : Option Int}
    {fault : Store.Fault} (h : Store.bindFault? isWhole postcode = some fault)
    (hbroken : isWhole = false → step.Broken)
    (hover : Store.fitsColumn postcode = false → step.Oversized) :
    step.Escapes (.store fault) := by
  rcases Store.bindFault?_eq_some h with ⟨hwhole, rfl⟩ | ⟨hfits, rfl⟩
  · exact .broken (hbroken hwhole)
  · exact .oversized (hover hfits)

theorem eq_false_of_imp {a b : Bool} (h : a = true → b = true) (hb : b = false) : a = false := by
  cases a with
  | true => exact absurd (h rfl) (by rw [hb]; decide)
  | false => rfl

/-- A preparation that cannot check the rules has met a broken password. -/
theorem prepare_eq_encoding {normal : α} {violations : Except EncodingFault (List Violation)}
    {fault : EncodingFault} (h : prepare normal violations = .error (.encoding fault)) :
    violations = .error fault := by
  unfold prepare at h
  split at h
  · cases h
  · cases h
  · cases h
    rfl

theorem Registration.uncounted_of_violations {r : Registration} {fault : EncodingFault}
    (h : r.violations = .error fault) : Ruled.password.Uncounted r.password :=
  (checkPassword_eq_error_iff r.password).1 ⟨fault, map_eq_error h⟩

theorem Credentials.uncounted_of_violations {c : Credentials} {fault : EncodingFault}
    (h : c.violations = .error fault) : Ruled.password.Uncounted c.password :=
  (checkPassword_eq_error_iff c.password).1 ⟨fault, map_eq_error h⟩

/-! ## Operations -/

namespace Identity

theorem raises_register (hminutes : config.tokenMinutes = 60) (r : Registration) :
    (register config r).Raises (Outer "identity.register" [.validation, .conflict, .internal]
      (Step.register r).Escapes) := by
  rw [register_eq]
  unfold enrolled
  refine Raises.bind (raises_operation (by decide) ?_) fun session =>
    (raises_log _).bind fun _ => raises_pure _
  refine Raises.bind (raises_refuseTaken (by decide) fun hbroken => ?_) fun _ => ?_
  · exact .broken (eq_false_of_imp isWhole_normalEmail hbroken)
  refine raises_accept_bind (by decide) (fun fault h => ?_) fun prepared hprepared => ?_
  · have hstopped : r.normal.violations = .error fault := prepare_eq_encoding h
    exact .uncounted fault (Registration.uncounted_of_violations (r := r.normal) hstopped)
  obtain ⟨rfl, -⟩ := prepare_eq_ok hprepared
  refine Raises.bind (raises_hashPassword (by decide) _) fun hash => ?_
  refine Raises.bind (Store.raises_create (by decide) fun fault h => ?_) fun account => ?_
  · exact Step.escapes_of_bindFault? h (eq_false_of_imp Registration.isWhole_normal) id
  · exact Raises.bind (raises_issueToken hminutes (by decide) _) fun _ => raises_pure _

theorem raises_login (hminutes : config.tokenMinutes = 60) (c : Credentials) :
    (login config c).Raises (Outer "identity.login" [.validation, .unauthorized, .internal]
      (Step.login c).Escapes) := by
  rw [login_eq]
  unfold admitted decided
  refine Raises.bind (raises_operation (by decide) ?_) fun session =>
    (raises_log _).bind fun _ => raises_pure _
  refine raises_accept_bind (by decide) (fun fault h => ?_) fun _ hvalid => ?_
  · exact .uncounted fault (Credentials.uncounted_of_violations (prepare_eq_encoding h))
  have hwhole : (normalEmail c.email).isWhole = true :=
    isWhole_of_required (Credentials.violations_eq_nil_iff.1 (prepare_eq_ok hvalid).2).1
  refine Raises.bind (Store.raises_findByEmail fun hbroken => ?_) fun found => ?_
  · cases hwhole.symm.trans hbroken
  split
  · exact raises_fail (by decide)
  · refine Raises.bind (raises_checkPassword (by decide) _ _) fun _ => ?_
    exact Raises.bind (raises_issueToken hminutes (by decide) _) fun _ => raises_pure _

theorem raises_update (id : Uuid) (d : Details) :
    (update id d).Raises (Outer "identity.update" [.validation, .notFound, .conflict, .internal]
      (Step.update id d).Escapes) := by
  rw [update_eq]
  unfold revised
  refine Raises.bind (raises_operation (by decide) ?_) fun account =>
    (raises_of_returns (returns_invalidate _ _)).bind fun _ => raises_pure _
  refine raises_accept_bind (by decide) (fun fault h => ?_) fun prepared hprepared => ?_
  · cases prepare_eq_encoding h
  obtain ⟨rfl, -⟩ := prepare_eq_ok hprepared
  refine Raises.bind (Store.raises_update (by decide) (by decide) fun fault h => ?_) fun _ =>
    raises_pure _
  have hwhole : d.isWhole = true → d.normal.changes.isWhole = true := fun h =>
    Details.isWhole_changes (Details.isWhole_normal h)
  exact Step.escapes_of_bindFault? h (eq_false_of_imp hwhole) Store.oversized_of_filter

theorem raises_delete (id : Uuid) :
    (delete id).Raises (Outer "identity.delete" [.notFound, .internal] (Step.delete id).Escapes) := by
  rw [delete_eq]
  unfold removed
  refine Raises.bind (raises_operation (by decide) (Store.raises_delete (by decide))) fun _ => ?_
  exact (raises_of_returns (returns_invalidate _ _)).bind fun _ => raises_log _

theorem raises_find (id : Uuid) : (find config id).Raises
    (Outer "identity.get_by_id" [.notFound, .internal] (Step.find id).Escapes) := by
  refine Raises.bind (raises_of_returns (Cache.returns_find id)) fun cached => ?_
  split
  · exact raises_pure _
  · refine Raises.bind (raises_operation (by decide) (Store.raises_find (by decide))) fun account => ?_
    refine Raises.bind (raises_of_returns (Cache.returns_store _ _)) fun stored => ?_
    dsimp only
    split
    · exact (raises_log _).bind fun _ => raises_pure _
    · exact raises_pure _

end Identity

/-! ## Steps -/

theorem Error.Outer.documented {step : Step} {e : Error} (h : Outer name kinds step.Escapes e) :
    (∃ f, e = .failure f ∧ f.operation = some name ∧ f.cause.kind ∈ kinds) ∨ step.Escapes e := by
  cases e with
  | failure f => exact .inl ⟨f, rfl, h.2, h.1⟩
  | store | token | claims | encoding => exact .inr h

/-- **Errors of the service are tagged.**  An operation of the service that fails raises a failure
with its own name and of one of its kinds, unless its postcode does not fit the store, or a text or
a password has no bytes. -/
theorem service_errors_are_tagged {setup : Setup} {m : Move} {w : World} {name : String}
    {kinds : List Cause.Kind} (hminutes : setup.identity.tokenMinutes = 60)
    (hclock : calendarStart ≤ w.now + 3600 * second ∧ w.now + 3600 * second < calendarEnd)
    (hfaults : ∀ fault ∈ m.faults.sql,
      fault = none ∨ fault = some .unavailable ∨ fault = some .conflict)
    (hstep : m.step.operation? = some (name, kinds)) {e : Error}
    (h : (m.record setup w).answer = .error e) :
    (∃ f, e = .failure f ∧ f.operation = some name ∧ f.cause.kind ∈ kinds) ∨ m.step.Escapes e := by
  have hw : (w.facing m.faults).Reports := ⟨hfaults, hclock⟩
  rw [Move.record_answer] at h
  have hraises {a : Action Answer} (haction : m.step.action? setup = some a)
      (ha : a.Raises (Outer name kinds m.step.Escapes)) :
      (∃ f, e = .failure f ∧ f.operation = some name ∧ f.cause.kind ∈ kinds) ∨ m.step.Escapes e := by
    rw [Step.run_action haction] at h
    exact (ha _ e hw h).documented
  obtain ⟨step, faults⟩ := m
  -- one case for each operation; the steps that are none have no name
  cases step with
  | register r =>
    cases hstep
    exact hraises rfl ((Identity.raises_register hminutes r).bind fun _ => raises_pure _)
  | login c =>
    cases hstep
    exact hraises rfl ((Identity.raises_login hminutes c).bind fun _ => raises_pure _)
  | update id d =>
    cases hstep
    exact hraises rfl ((Identity.raises_update id d).bind fun _ => raises_pure _)
  | delete id =>
    cases hstep
    exact hraises rfl ((Identity.raises_delete id).bind fun _ => raises_pure _)
  | find id =>
    cases hstep
    exact hraises rfl ((Identity.raises_find id).bind fun _ => raises_pure _)
  | _ => cases hstep

/-- A deletion of an account that is not there fails with its own tag. -/
theorem service_errors_are_tagged_missing :
    (Move.record (Setup.sample.withLifetime 60) ⟨.delete (World.insertionId 1), {}⟩
      (World.fresh 0 sampleSalt)).answer =
        .error (.failure { cause := .unknownAccount, operation := some "identity.delete" }) ∧
    ∃ f, (Move.record (Setup.sample.withLifetime 60) ⟨.delete (World.insertionId 1), {}⟩
      (World.fresh 0 sampleSalt)).answer = .error (.failure f) ∧
        f.operation = some "identity.delete" ∧ f.cause.kind ∈ [Cause.Kind.notFound, .internal] := by
  have hanswer : (Move.record (Setup.sample.withLifetime 60) ⟨.delete (World.insertionId 1), {}⟩
      (World.fresh 0 sampleSalt)).answer =
        .error (.failure { cause := .unknownAccount, operation := some "identity.delete" }) := rfl
  have hfaults : ∀ fault ∈ ({} : Faults).sql,
      fault = none ∨ fault = some .unavailable ∨ fault = some .conflict := fun _ h => nomatch h
  rcases service_errors_are_tagged rfl (by decide) hfaults rfl hanswer with
    ⟨f, hf, hname, hkind⟩ | hescapes
  · exact ⟨hanswer, f, hanswer.trans (congrArg _ hf), hname, hkind⟩
  · cases hescapes

/-- A postcode past 64 bits and a broken name break no rule, and the errors of their changes have no
tag; nor has that of a login with a broken password. -/
theorem untagged_errors_escape :
    (∃ e, (Move.record (Setup.sample.withLifetime 60)
      ⟨.update (World.insertionId 1) { postcode := some 9223372036854775808 }, {}⟩
      (World.fresh 0 sampleSalt)).answer = .error e ∧ ∀ f, e ≠ .failure f) ∧
    (∃ e, (Move.record (Setup.sample.withLifetime 60)
      ⟨.update (World.insertionId 1) { firstName := some brokenText }, {}⟩
      (World.fresh 0 sampleSalt)).answer = .error e ∧ ∀ f, e ≠ .failure f) ∧
    ∃ e, (Move.record (Setup.sample.withLifetime 60)
      ⟨.login { password := some endlessPassword }, {}⟩ (World.fresh 0 sampleSalt)).answer =
        .error e ∧ ∀ f, e ≠ .failure f := by
  refine ⟨⟨.store .integerTooLarge, ?_, fun f h => nomatch h⟩,
    ⟨.store (.encoding .surrogate), ?_, fun f h => nomatch h⟩,
    ⟨.encoding .surrogate, ?_, fun f h => nomatch h⟩⟩
  · rfl
  · rfl
  · rfl

end Accounts
