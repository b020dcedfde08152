import Accounts.Proofs.Program.Asks
import Accounts.Proofs.Store.Table
import Accounts.Service.Identity

/-!
# What the operations of the service ask for

The statements and commands of every operation, for all that the world may answer.  Registration and
login send no command; a change runs its one statement and then takes the copy of the same account
away; a look-up reads one account and stores its copy.
-/

namespace Accounts

open Accounts.Action Accounts.Request

variable {S : Store.Statement → Prop} {C : Cache.Command → Prop}

/-! ## The cache -/

namespace Cache

/-- The commands that take the copy of an account away. -/
def Drops (id : Uuid) (c : Command) : Prop := c = .delete [key id] ∨ c = .expire (key id) 0

theorem asks_send {name : String} {c : Command} (h : C c) : (send name c).Asks (Within S C) := by
  refine Asks.bind (asks_request (P := Within S C) h) fun outcome => ?_
  rcases outcome with _ | fault | r
  · exact asks_pure _
  · exact (asks_log trivial).bind fun _ => asks_pure _
  · exact asks_pure _

theorem asks_get (name : String) : (get name).Asks (Within S (· = .get name)) := by
  refine Asks.bind (asks_send rfl) fun outcome => ?_
  rcases outcome with _ | fault | value <;> exact asks_pure _

theorem asks_close {P : Request → Prop} (hlog : ∀ e, P (.log e)) (hconn : P (.connection false)) :
    close.Asks P := by
  refine (asks_request (P := P) (r := .connection false) hconn).bind fun wasAttached => ?_
  split
  · exact asks_log (hlog _)
  · exact asks_pure _

theorem asks_find (id : Uuid) : (find id).Asks (Within S (· = .get (key id))) := by
  refine (asks_get (key id)).bind fun value => ?_
  dsimp only
  split
  · exact (asks_log trivial).bind fun _ => asks_pure _
  · split <;> exact (asks_log trivial).bind fun _ => asks_pure _

/-- Send a command, log an event when it was carried out, and report whether it failed. -/
def carried (name : String) (c : Command) (e : Event) : Action Bool := do
  let outcome ← send name c
  if outcome.isOk then log e
  return outcome.isOkOrDetached

theorem store_eq (account : Account) (seconds : Int) : store account seconds =
    carried "SETEX" (.setFor (key account.id) seconds (encode account)) (.cacheSet account.id) := rfl

theorem drop_eq (id : Uuid) :
    drop id = carried "DELETE" (.delete [key id]) (.cacheInvalidated id) := rfl

theorem expireNow_eq (id : Uuid) :
    expireNow id = carried "EXPIRE" (.expire (key id) 0) (.cacheExpired id) := rfl

theorem asks_carried {name : String} {c : Command} {e : Event} (h : C c) :
    (carried name c e).Asks (Within S C) := by
  refine Asks.bind (asks_send h) fun outcome => ?_
  dsimp only
  split
  · exact (asks_log trivial).bind fun _ => asks_pure _
  · exact asks_pure _

theorem asks_store (account : Account) (seconds : Int) :
    (store account seconds).Asks
      (Within S (· = .setFor (key account.id) seconds (encode account))) := by
  rw [store_eq]
  exact asks_carried rfl

theorem asks_drop (id : Uuid) : (drop id).Asks (Within S (Drops id)) := by
  rw [drop_eq]
  exact asks_carried (.inl rfl)

theorem asks_expireNow (id : Uuid) : (expireNow id).Asks (Within S (Drops id)) := by
  rw [expireNow_eq]
  exact asks_carried (.inr rfl)

end Cache

/-! ## The store -/

namespace Store

theorem asks_create (r : Registration) (hash : String) :
    (create r hash).Asks (Within (· = .insert (Draft.ofRegistration r hash)) C) := by
  refine Asks.bind (asks_request rfl) fun reply => ?_
  rcases reply with fault | row
  · cases fault
    case conflict => exact (asks_log trivial).bind fun _ => asks_fail _
    all_goals exact asks_throw _
  · exact (asks_log trivial).bind fun _ => asks_pure _

theorem asks_update (id : Uuid) (d : Details) :
    (update id d).Asks (Within (· = .revise id d) C) := by
  refine Asks.bind (asks_request rfl) fun reply => ?_
  rcases reply with fault | row
  · cases fault
    case conflict => exact (asks_log trivial).bind fun _ => asks_fail _
    all_goals exact asks_throw _
  · rcases row with _ | row
    · exact asks_fail _
    · exact (asks_log trivial).bind fun _ => asks_pure _

theorem asks_delete (id : Uuid) : (delete id).Asks (Within (· = .remove id) C) := by
  refine Asks.bind (asks_query rfl) fun found => ?_
  split
  · exact asks_log trivial
  · exact asks_fail _

theorem asks_find (id : Uuid) : (find id).Asks (Within (· = .findById id) C) := by
  refine Asks.bind (asks_query rfl) fun found => ?_
  split
  · exact asks_pure _
  · exact asks_fail _

theorem asks_findByEmail (email : LooseText) :
    (findByEmail email).Asks (Within (· = .findByEmail email) C) :=
  Asks.bind (asks_query rfl) fun _ => asks_pure _

end Store

/-! ## The service -/

namespace Identity

theorem asks_operation {name : String} {a : Action α} (ha : a.Asks (Within S C)) :
    (operation name a).Asks (Within S C) := by
  refine ha.tryCatch fun e => ?_
  split
  · exact asks_throw _
  · split
    · exact (asks_log trivial).bind fun _ => asks_throw _
    · exact asks_throw _
  · exact asks_throw _

theorem accept_ok (x : α) : accept (.ok x) = pure x := rfl

theorem asks_accept (prepared : Except InputFault α) : (accept prepared).Asks (Within S C) := by
  unfold accept
  split
  · exact asks_pure _
  · exact asks_fail _
  · exact asks_throw _

theorem asks_issueToken (config : Config) (name : String) (account : Account) :
    (issueToken config name account).Asks (Within S C) := by
  refine Asks.bind (asks_request trivial) fun now => ?_
  split
  · exact asks_pure _
  · exact (asks_log trivial).bind fun _ => asks_throw _
  · exact asks_throw _

theorem asks_dropFrom (name : String) (id : Uuid) (left attempt : Nat) :
    (dropFrom name id left attempt).Asks (Within S (Cache.Drops id)) := by
  induction left generalizing attempt with
  | zero => exact asks_pure _
  | succ left ih =>
    refine (Cache.asks_drop id).bind fun dropped => ?_
    split
    · exact asks_pure _
    · exact (asks_log trivial).bind fun _ => ih _

theorem asks_invalidate (name : String) (id : Uuid) :
    (invalidate name id).Asks (Within S (Cache.Drops id)) := by
  refine (asks_dropFrom name id _ _).bind fun dropped => ?_
  split
  · exact asks_pure _
  · refine (Cache.asks_expireNow id).bind fun expired => ?_
    split
    · exact asks_pure _
    · exact asks_log trivial

theorem asks_refuseTaken (name : String) (email : LooseText) :
    (refuseTaken name email).Asks (Within (· = .findByEmail email) C) := by
  have hlook : (lookAhead name email).Asks (Within (· = .findByEmail email) C) := by
    refine (Store.asks_findByEmail email).tryCatch fun e => ?_
    split
    · split
      · exact (asks_log trivial).bind fun _ => asks_pure _
      · exact asks_throw _
    · exact asks_throw _
  unfold refuseTaken
  split
  · exact asks_pure _
  · refine hlook.bind fun found => ?_
    split
    · exact asks_fail _
    · exact asks_pure _

theorem asks_hashPassword (password : LooseText) : (hashPassword password).Asks (Within S C) := by
  refine Asks.bind (asks_request trivial) fun salt => ?_
  split
  · exact asks_pure _
  · exact asks_fail _

/-- What follows an accepted value may use what the value is. -/
theorem asks_accept_bind {α β : Type} {P : Request → Prop} {x : Except InputFault α}
    {f : α → Action β} (hf : ∀ a, x = .ok a → (f a).Asks P) : (accept x >>= f).Asks P := by
  cases x with
  | ok a => exact hf a rfl
  | error fault => cases fault <;> exact .done _

/-- What follows a hash may use what it is the hash of. -/
theorem asks_hashPassword_bind {β : Type} {password : LooseText} {f : String → Action β}
    (hf : ∀ salt hash, Password.hashLoose? salt password = some hash → (f hash).Asks (Within S C)) :
    (hashPassword password >>= f).Asks (Within S C) := by
  unfold hashPassword
  rw [bind_assoc]
  refine Asks.bind (asks_request trivial) fun salt => ?_
  split
  · rename_i hash hhash
    rw [pure_bind]
    exact hf salt hash hhash
  · exact .done _

theorem asks_checkPassword (account : Account) (password : LooseText) :
    (checkPassword account password).Asks (Within S C) := by
  unfold checkPassword
  split
  · exact asks_pure _
  · exact asks_fail _
  · exact (asks_log trivial).bind fun _ => asks_fail _

/-- A registration looks for the email, and inserts its normal form with a hash of its password. -/
def RegisterStatement (r : Registration) (s : Store.Statement) : Prop :=
  s = .findByEmail (normalEmail r.details.email)
    ∨ ∃ prepared salt hash, r.prepare = .ok prepared ∧
      Password.hashLoose? salt (prepared.password.getD "") = some hash ∧
      s = .insert (Store.Draft.ofRegistration prepared hash)

/-- A registration changes no row that is there. -/
theorem RegisterStatement.not_rewrites {r : Registration} {s : Store.Statement}
    (h : RegisterStatement r s) (id : Uuid) : ¬ Store.Rewrites id s := by
  rcases h with rfl | ⟨_, _, _, -, -, rfl⟩ <;> exact not_false

/-- The part of a registration that may fail. -/
def enrolled (config : Config) (r : Registration) : Action Session :=
  operation "identity.register" do
    refuseTaken "identity.register" (normalEmail r.details.email)
    let prepared ← accept r.prepare
    let hash ← hashPassword (prepared.password.getD "")
    let account ← Store.create prepared hash
    let token ← issueToken config "identity.register" account.sanitized
    return Session.mk account.sanitized token

theorem register_eq (config : Config) (r : Registration) :
    register config r = (do
      let session ← enrolled config r
      log (.accountRegistered session.account.id)
      return session) := rfl

theorem asks_enrolled (config : Config) (r : Registration) :
    (enrolled config r).Asks (Within (RegisterStatement r) C) := by
  unfold enrolled
  refine asks_operation ?_
  refine Asks.bind ((asks_refuseTaken _ _).mono (Within.mono (fun _ => .inl) fun _ h => h))
    fun _ => ?_
  refine asks_accept_bind fun prepared hprepared => ?_
  refine asks_hashPassword_bind fun salt hash hhash => ?_
  refine Asks.bind ((Store.asks_create prepared hash).mono
    (Within.mono (fun _ h => .inr ⟨prepared, salt, hash, hprepared, hhash, h⟩) fun _ h => h))
    fun account => ?_
  exact (asks_issueToken _ _ _).bind fun _ => asks_pure _

theorem asks_register (config : Config) (r : Registration) :
    (register config r).Asks (Within (RegisterStatement r) C) := by
  rw [register_eq]
  refine Asks.bind (asks_enrolled config r) fun session => ?_
  exact Asks.bind (asks_log trivial) fun _ => asks_pure _

/-- The part of a login after the account was found. -/
def entered (config : Config) (c : Credentials) (account : Account) : Action Session := do
  checkPassword account (c.password.getD "")
  let token ← issueToken config "identity.login" account.sanitized
  return Session.mk account.sanitized token

/-- The part of a login that decides. -/
def decided (config : Config) (c : Credentials) : Action Session := do
  accept (prepare () c.violations)
  match ← Store.findByEmail (normalEmail c.email) with
  | none => fail .badCredentials
  | some account => entered config c account

/-- The part of a login that may fail. -/
def admitted (config : Config) (c : Credentials) : Action Session :=
  operation "identity.login" (decided config c)

theorem login_eq (config : Config) (c : Credentials) :
    login config c = (do
      let session ← admitted config c
      log (.accountLogin session.account.id)
      return session) := rfl

theorem asks_admitted (config : Config) (c : Credentials) :
    (admitted config c).Asks (Within (· = .findByEmail (normalEmail c.email)) C) := by
  unfold admitted decided
  refine asks_operation ?_
  refine (asks_accept _).bind fun _ => ?_
  refine (Store.asks_findByEmail _).bind fun found => ?_
  split
  · exact asks_fail _
  · refine (asks_checkPassword _ _).bind fun _ => ?_
    exact (asks_issueToken _ _ _).bind fun _ => asks_pure _

theorem asks_login (config : Config) (c : Credentials) :
    (login config c).Asks (Within (· = .findByEmail (normalEmail c.email)) C) := by
  rw [login_eq]
  refine Asks.bind (asks_admitted config c) fun session => ?_
  exact Asks.bind (asks_log trivial) fun _ => asks_pure _

/-- The statement of a change of one account. -/
def UpdateStatement (id : Uuid) (s : Store.Statement) : Prop := ∃ d, s = .revise id d

/-- The part of a change that runs the statement. -/
def revised (id : Uuid) (d : Details) : Action Account :=
  operation "identity.update" do
    let prepared ← accept d.prepare
    let account ← Store.update id prepared
    return account.sanitized

theorem update_eq (id : Uuid) (d : Details) :
    update id d = (do
      let account ← revised id d
      invalidate "identity.update" id
      return account) := rfl

theorem asks_revised (id : Uuid) (d : Details) :
    (revised id d).Asks (Within (UpdateStatement id) C) := by
  refine asks_operation ((asks_accept _).bind fun prepared => ?_)
  exact Asks.bind ((Store.asks_update id prepared).mono
    (Within.mono (fun _ h => ⟨prepared, h⟩) fun _ h => h)) fun _ => asks_pure _

theorem asks_update (id : Uuid) (d : Details) :
    (update id d).Asks (Within (UpdateStatement id) (Cache.Drops id)) := by
  rw [update_eq]
  exact (asks_revised id d).bind fun _ => (asks_invalidate _ id).bind fun _ => asks_pure _

/-- The part of a deletion that runs the statement. -/
def removed (id : Uuid) : Action Unit := operation "identity.delete" (Store.delete id)

theorem delete_eq (id : Uuid) :
    delete id = (do
      removed id
      invalidate "identity.delete" id
      log (.accountDeleted id)) := rfl

theorem asks_removed (id : Uuid) : (removed id).Asks (Within (· = .remove id) C) :=
  asks_operation (Store.asks_delete id)

theorem asks_delete (id : Uuid) :
    (delete id).Asks (Within (· = .remove id) (Cache.Drops id)) := by
  rw [delete_eq]
  exact (asks_removed id).bind fun _ => (asks_invalidate _ id).bind fun _ => asks_log trivial

/-- The part of a look-up that runs the statement. -/
def looked (id : Uuid) : Action Account := operation "identity.get_by_id" (Store.find id)

theorem asks_looked (id : Uuid) : (looked id).Asks (Within (· = .findById id) C) :=
  asks_operation (Store.asks_find id)

/-- What a look-up does when the cache has nothing. -/
def populated (config : Config) (id : Uuid) : Action Account := do
  let account ← looked id
  if !(← Cache.store account.sanitized config.cacheSeconds) then
    log (.populateFailed "identity.get_by_id" id)
  return account.sanitized

theorem find_eq (config : Config) (id : Uuid) :
    find config id = (do
      match ← Cache.find id with
      | some account => return account
      | none => populated config id) := rfl

/-- The commands of a look-up: read the copy, or store one. -/
def FindCommand (id : Uuid) (seconds : Int) (c : Cache.Command) : Prop :=
  c = .get (Cache.key id) ∨ ∃ account : Account,
    c = .setFor (Cache.key account.id) seconds (Cache.encode account)

theorem asks_find (config : Config) (id : Uuid) :
    (find config id).Asks (Within (· = .findById id) (FindCommand id config.cacheSeconds)) := by
  refine Asks.bind ((Cache.asks_find id).mono (Within.mono (fun _ h => h) fun _ => .inl))
    fun cached => ?_
  split
  · exact asks_pure _
  · refine (asks_looked id).bind fun account => ?_
    refine Asks.bind ((Cache.asks_store account.sanitized _).mono
      (Within.mono (fun _ h => h) fun _ h => .inr ⟨_, h⟩)) fun stored => ?_
    dsimp only
    split
    · exact (asks_log trivial).bind fun _ => asks_pure _
    · exact asks_pure _

end Identity

end Accounts
