import Accounts.Proofs.Http.Handler
import Accounts.Proofs.Service.Secrecy
import Accounts.Proofs.World.Steps
import Mathlib.Data.List.Forall2

/-!
# Passwords and hashes do not leak

Two runs of steps that differ in valid passwords alone cannot be told apart, as long as the logins in
the one find what those in the other find: all answers, all events, all keys and all rows but for the
hashes are the same.

    moves and moves' differ in passwords, verdicts are the same
      ->  records of moves = records of moves', but for the hashes
-/

namespace Accounts

/-! ## Input -/

/-- A relation of functions: related arguments give related values. -/
def Carries (R : α → β → Prop) (S : γ → δ → Prop) (f : α → γ) (g : β → δ) : Prop :=
  ∀ x y, R x y → S (f x) (g y)

theorem SameOutcome.refl (x : Except ε α) : SameOutcome Eq x x := by
  cases x
  · exact rfl
  · exact rfl

namespace Input

variable {α β γ δ : Type} {R : α → β → Prop} {S : γ → δ → Prop}

/-- Values that are read alike are put together alike. -/
theorem apply_alike {f : Checked (α → γ)} {g : Checked (β → δ)} {x : Checked α} {y : Checked β}
    (hfg : SameOutcome (Carries R S) f g) (hxy : SameOutcome R x y) :
    SameOutcome S (f.apply x) (g.apply y) := by
  rcases f with ps | f <;> rcases g with ps' | g <;> try exact hfg.elim
  all_goals rcases x with qs | a <;> rcases y with qs' | b <;> try exact hxy.elim
  · obtain rfl : ps = ps' := hfg
    obtain rfl : qs = qs' := hxy
    exact rfl
  · exact hfg
  · exact hxy
  · exact hfg a b hxy

/-- Members of objects that differ in valid passwords. -/
structure MembersAlike (m m' : List (String × Json)) : Prop where
  others : ∀ name, name ≠ "password" → Json.member? name m = Json.member? name m'
  password : Json.member? "password" m = Json.member? "password" m' ∨
    ∃ p p', Json.member? "password" m = some (.str p) ∧
      Json.member? "password" m' = some (.str p') ∧
      checkPassword (some p) = .ok none ∧ checkPassword (some p') = .ok none

variable {m m' : List (String × Json)}

theorem optional_alike (h : MembersAlike m m') (read : Json → Checked α) {name : String}
    (hname : name ≠ "password") :
    SameOutcome Eq (optional read name m) (optional read name m') := by
  unfold optional withDefault
  rw [h.others name hname]
  exact .refl _

theorem password_alike (h : MembersAlike m m') :
    SameOutcome PasswordsAlike (optional text "password" m) (optional text "password" m') := by
  unfold optional withDefault
  rcases h.password with heq | ⟨p, p', hp, hp', hvalid, hvalid'⟩
  · rw [heq]
    split
    · rename_i j _
      rcases (orNull text j).at "password" with ps | a
      · exact rfl
      · exact .inl rfl
    · exact .inl rfl
  · rw [hp, hp']
    exact .inr ⟨hvalid, hvalid'⟩

theorem credentials_alike (h : MembersAlike m m') :
    SameOutcome Credentials.Alike (credentials (.obj m)) (credentials (.obj m')) := by
  refine apply_alike (R := PasswordsAlike) (apply_alike (R := Eq) ?_
    (optional_alike h text (by decide))) (password_alike h)
  rintro email _ rfl p p' hp
  exact ⟨rfl, hp⟩

theorem registration_alike (h : MembersAlike m m') :
    SameOutcome Registration.Alike (registration (.obj m)) (registration (.obj m')) := by
  refine apply_alike (R := Eq) (apply_alike (R := Eq) (apply_alike (R := Eq) (apply_alike (R := Eq)
    (apply_alike (R := Eq) (apply_alike (R := Eq) (apply_alike (R := Eq) (apply_alike (R := Eq)
    (apply_alike (R := PasswordsAlike) (apply_alike (R := Eq) (apply_alike (R := Eq)
    (apply_alike (R := Eq) ?_
      (optional_alike h text (by decide))) (optional_alike h text (by decide)))
      (optional_alike h text (by decide))) (password_alike h))
      (optional_alike h text (by decide))) (optional_alike h text (by decide)))
      (optional_alike h text (by decide))) (optional_alike h text (by decide)))
      (optional_alike h text (by decide))) (optional_alike h text (by decide)))
      (optional_alike h integer (by decide))) (optional_alike h date (by decide))
  rintro _ _ rfl _ _ rfl _ _ rfl p p' hp _ _ rfl _ _ rfl _ _ rfl _ _ rfl _ _ rfl _ _ rfl _ _ rfl
    _ _ rfl
  exact ⟨rfl, hp⟩

end Input

namespace Http

open Handler

variable {α β : Type} {w w' : World} {R : α → β → Prop} {site : Site} {r r' : Request} {room : Nat}

/-! ## Requests -/

/-- Requests that are the same, or registrations or logins that differ in valid passwords, as they are
read with so much room. -/
structure Request.Alike (room : Nat) (r r' : Request) : Prop where
  method : r.method = r'.method
  target : r.target = r'.target
  headers : r.headers = r'.headers
  payload : r.body = r'.body ∨ ∃ e argument m m', r.destination = .endpoint e argument ∧
    (e = .register ∨ e = .login) ∧ r.payload room = .ok (.json (.obj m)) ∧
    r'.payload room = .ok (.json (.obj m')) ∧ Input.MembersAlike m m'

theorem Request.Alike.eq_with (h : r.Alike room r') : r' = { r with body := r'.body } := by
  obtain ⟨hmethod, htarget, hheaders, -⟩ := h
  cases r
  cases r'
  cases hmethod
  cases htarget
  cases hheaders
  rfl

/-- What a request carries as a record, or the refusal of it. -/
def Request.received (room : Nat) (read : Json → Input.Checked α) (r : Request) :
    Except Refusal α :=
  match r.payload room with
  | .ok payload => (payload.read read).mapError Refusal.ofProblems
  | .error fault => .error (Refusal.ofPayload fault)

theorem receive_eq (room : Nat) (read : Json → Input.Checked α) (r : Request) :
    receive room read r = accept id (r.received room read) := by
  unfold receive Request.received
  rcases r.payload room with fault | payload
  · rfl
  · show accept Refusal.ofProblems (payload.read read) = _
    dsimp only
    rcases payload.read read with ps | a <;> rfl

/-- Requests at the endpoint are received alike. -/
theorem received_alike {read : Json → Input.Checked α} {Q : α → α → Prop} (hrefl : ∀ a, Q a a)
    (hread : ∀ m m', Input.MembersAlike m m' → SameOutcome Q (read (.obj m)) (read (.obj m')))
    (h : r.Alike room r') : SameOutcome Q (r.received room read) (r'.received room read) := by
  have hself : ∀ x : Except Refusal α, SameOutcome Q x x := by
    rintro (e | a)
    · exact rfl
    · exact hrefl a
  rcases h.payload with hbody | ⟨_, _, m, m', -, -, hm, hm', halike⟩
  · rw [h.eq_with, ← hbody]
    exact hself _
  · unfold Request.received
    rw [hm, hm']
    show SameOutcome Q ((read (.obj m)).mapError _) ((read (.obj m')).mapError _)
    have hfields := hread m m' halike
    revert hfields
    rcases read (.obj m) with ps | a <;> rcases read (.obj m') with ps' | a'
    · exact congrArg Refusal.ofProblems
    · exact False.elim
    · exact False.elim
    · exact id

/-! ## Handlers -/

theorem endsAlike_accept {ε : Type} (h : w.Twin w') (refuse : ε → Refusal) {x : Except ε α}
    {y : Except ε β} (hxy : SameOutcome R x y) :
    EndsAlike R (accept refuse x) (accept refuse y) w w' := by
  cases x <;> cases y
  · cases hxy
    exact .throw h _
  · exact hxy.elim
  · exact hxy.elim
  · exact .pure h hxy

theorem run_call (a : Action α) (w : World) :
    (call a).run w = ((a.run w).1.mapError Refusal.ofError, (a.run w).2) := by
  show Program.run (ExceptT.run a >>= _) w = _
  rw [Program.run_bind]
  show _ = ((Program.run (ExceptT.run a) w).1.mapError Refusal.ofError, _)
  rcases h : Program.run (ExceptT.run a) w with ⟨e | x, v⟩ <;> (rw [Action.run, h]; rfl)

theorem endsAlike_call {a : Action α} {b : Action β} (h : EndsAlike R a b w w') :
    EndsAlike R (call a) (call b) w w' := by
  obtain ⟨houtcome, htwin⟩ := h
  suffices hends : SameOutcome R ((call a).run w).1 ((call b).run w').1 ∧
      ((call a).run w).2.Twin ((call b).run w').2 from ⟨hends.1, hends.2⟩
  rw [run_call, run_call]
  refine ⟨?_, htwin⟩
  change SameOutcome R (a.run w).1 (b.run w').1 at houtcome
  revert houtcome
  rcases (a.run w).1 with e | x <;> rcases (b.run w').1 with e' | y
  · exact congrArg Refusal.ofError
  · exact False.elim
  · exact False.elim
  · exact id

theorem endsAlike_register (h : w.Twin w') (hr : r.Alike site.room r') (argument : String) :
    EndsAlike Eq (handle site r argument .register) (handle site r' argument .register) w w' := by
  show EndsAlike Eq (receive site.room Input.registration r >>= _)
    (receive site.room Input.registration r' >>= _) w w'
  rw [receive_eq, receive_eq]
  refine (endsAlike_accept h _ (received_alike (Q := Registration.Alike) (fun _ => ⟨rfl, .inl rfl⟩)
    (fun m m' => Input.registration_alike) hr)).bind fun x y v v' hxy hv => ?_
  refine (endsAlike_call (Identity.endsAlike_register hv _ hxy)).bind fun session _ v v' heq hv => ?_
  subst heq
  exact .of_asks (asks_withCookie _ _) hv

/-- The credentials that a request carries, if it is a login. -/
def Request.credentials? (room : Nat) (r : Request) : Option Credentials :=
  match r.destination with
  | .endpoint .login _ => (r.received room Input.credentials).toOption
  | _ => none

theorem endsAlike_login (h : w.Twin w') (hr : r.Alike site.room r') (argument : String)
    (hverdict : ∀ c c', r.received site.room Input.credentials = .ok c →
      r'.received site.room Input.credentials = .ok c' → w.verdict? c = w'.verdict? c') :
    EndsAlike Eq (handle site r argument .login) (handle site r' argument .login) w w' := by
  show EndsAlike Eq (receive site.room Input.credentials r >>= _)
    (receive site.room Input.credentials r' >>= _) w w'
  have halike := received_alike (Q := Credentials.Alike) (fun _ => ⟨rfl, .inl rfl⟩)
    (fun m m' => Input.credentials_alike) hr
  rw [receive_eq, receive_eq]
  rcases hc : r.received site.room Input.credentials with e | c <;>
    rcases hc' : r'.received site.room Input.credentials with e' | c' <;> rw [hc, hc'] at halike
  · obtain rfl : e = e' := halike
    exact .throw h _
  · exact halike.elim
  · exact halike.elim
  · have haccept : ∀ c : Credentials, accept id (.ok c) = (pure c : Handler Credentials) :=
      fun _ => rfl
    rw [haccept, haccept, pure_bind, pure_bind]
    have hlogin := Identity.endsAlike_login h site.identity halike (hverdict c c' hc hc')
    refine (endsAlike_call hlogin).bind fun session _ v v' heq hv => ?_
    subst heq
    exact .of_asks (asks_withCookie _ _) hv

/-- Any endpoint but the one for logins ends alike for the same request. -/
theorem endsAlike_handle (h : w.Twin w') (site : Site) (r : Request) (argument : String)
    {e : Endpoint} (hlogin : e ≠ .login) :
    EndsAlike Eq (handle site r argument e) (handle site r argument e) w w' := by
  have hclaims : ∀ v v', v.Twin v' → EndsAlike Eq (site.claims r) (site.claims r) v v' :=
    fun v v' hv => .of_asks ((asks_claims (S := fun _ => False) (C := fun _ => False) _ _ _ r).mono
      (World.plain_of_within fun _ hs => hs.elim)) hv
  cases e with
  | health =>
    refine .of_asks (Asks.bind (Asks.bind (asks_request trivial) fun reply => ?_)
      fun database => ?_) h
    · rcases reply with fault | _
      · exact Asks.bind (asks_request trivial) fun _ => asks_pure _
      · exact asks_pure _
    · exact Asks.bind (asks_call (Action.Asks.bind (Action.asks_request trivial) fun _ =>
        Action.asks_pure _)) fun _ => asks_pure _
  | register => exact endsAlike_register h ⟨rfl, rfl, rfl, .inl rfl⟩ argument
  | login => exact absurd rfl hlogin
  | me =>
    refine (hclaims w w' h).bind fun claims _ v v' heq hv => ?_
    subst heq
    refine (endsAlike_call (Identity.endsAlike_find hv _ _)).bind fun account _ v v' heq hv => ?_
    exact heq ▸ .pure hv rfl
  | find =>
    refine (endsAlike_accept h _ (SameOutcome.refl _)).bind fun id _ v v' heq hv => ?_
    subst heq
    refine (endsAlike_call (Identity.endsAlike_find hv _ _)).bind fun account _ v v' heq hv => ?_
    exact heq ▸ .pure hv rfl
  | update =>
    refine (endsAlike_accept h _ (SameOutcome.refl _)).bind fun payload _ v v' heq hv => ?_
    subst heq
    refine (hclaims v v' hv).bind fun claims _ v v' heq hv => ?_
    subst heq
    refine (endsAlike_accept hv _ (SameOutcome.refl _)).bind fun p _ v v' heq hv => ?_
    subst heq
    refine EndsAlike.bind (R := Eq) (.of_asks (asks_requireSelf _ _) hv) fun _ _ v v' _ hv => ?_
    refine (endsAlike_call (Identity.endsAlike_update hv _ _)).bind fun account _ v v' heq hv => ?_
    exact heq ▸ .pure hv rfl
  | delete =>
    refine (hclaims w w' h).bind fun claims _ v v' heq hv => ?_
    subst heq
    refine (endsAlike_accept hv _ (SameOutcome.refl _)).bind fun id _ v v' heq hv => ?_
    subst heq
    refine EndsAlike.bind (R := Eq) (.of_asks (asks_requireSelf _ _) hv) fun _ _ v v' _ hv => ?_
    refine (endsAlike_call (Identity.endsAlike_delete hv _)).bind fun _ _ v v' _ hv => ?_
    exact .of_asks (Asks.bind (asks_request trivial) fun now => asks_withCookie _ _) hv

theorem endsAlike_respond (h : w.Twin w') (hr : r.Alike site.room r')
    (hverdict : ∀ c c', r.credentials? site.room = some c → r'.credentials? site.room = some c' →
      w.verdict? c = w'.verdict? c') :
    EndsAlike Eq (respond site r) (respond site r') w w' := by
  have hsame : r'.destination = r.destination := by
    rw [hr.eq_with]
    rfl
  unfold respond
  rw [hsame]
  cases hdestination : r.destination with
  | page page => exact .pure h rfl
  | endpoint e argument =>
    dsimp only
    by_cases hlogin : e = .login
    · subst hlogin
      refine endsAlike_login h hr argument fun c c' hc hc' => hverdict c c' ?_ ?_
      · unfold Request.credentials?
        rw [hdestination, hc]
        rfl
      · unfold Request.credentials?
        rw [hsame, hdestination, hc']
        rfl
    · by_cases hregister : e = .register
      · subst hregister
        exact endsAlike_register h hr argument
      · rcases hr.payload with hbody | ⟨e', argument', _, _, hleads, he, -⟩
        · rw [hr.eq_with, ← hbody]
          exact endsAlike_handle h site r argument hlogin
        · rw [hdestination] at hleads
          cases hleads
          rcases he with he | he
          · exact absurd he hregister
          · exact absurd he hlogin
  | otherMethod allowed => exact .throw h _
  | shorter target => exact .pure h rfl
  | nowhere => exact .throw h _

/-- What is done with the result of a request. -/
def Site.finished (site : Site) (r : Request) (result : Except Refusal Response) :
    Program Response := do
  logRefusal r result
  return (site.responseOf r result).toMethod r.method

theorem asks_finished (site : Site) (r : Request) (result : Except Refusal Response) :
    Program.Asks World.Plain (site.finished r result) := by
  unfold Site.finished logRefusal
  rcases result with refusal | response
  · dsimp only
    cases refusal.event? r with
    | some event => exact .ask trivial fun _ => .done _
    | none => exact .done _
  · exact .done _

/-- Requests that differ in valid passwords get the same response. -/
theorem serve_alike (h : w.Twin w') (hr : r.Alike site.room r')
    (hverdict : ∀ c c', r.credentials? site.room = some c → r'.credentials? site.room = some c' →
      w.verdict? c = w'.verdict? c') :
    ((serve site r).run w).1 = ((serve site r').run w').1 ∧
      ((serve site r).run w).2.Twin ((serve site r').run w').2 := by
  have hquestion : questionResponse? site.origins r' = questionResponse? site.origins r := by
    rw [hr.eq_with]
    rfl
  unfold serve
  rw [hquestion]
  cases questionResponse? site.origins r with
  | some response => exact ⟨rfl, h⟩
  | none =>
    obtain ⟨houtcome, htwin⟩ := endsAlike_respond h hr hverdict
    have hfinished : ∀ result, site.finished r' result = site.finished r result := by
      intro result
      rw [hr.eq_with]
      rfl
    show ((ExceptT.run (respond site r) >>= site.finished r).run w).1 =
        ((ExceptT.run (respond site r') >>= site.finished r').run w').1 ∧
      World.Twin ((ExceptT.run (respond site r) >>= site.finished r).run w).2
        ((ExceptT.run (respond site r') >>= site.finished r').run w').2
    rw [Program.run_bind, Program.run_bind, ← houtcome.eq, hfinished]
    exact (asks_finished site r _).run_simulates (fun _ _ _ hq hw => hw.answer hq) htwin

end Http

/-! ## Steps -/

open Accounts.Action

variable {α : Type} {w w' : World} {setup : Setup}

/-- A step of the store alone. -/
def Step.IsStore : Step → Prop
  | .storeCreate _ _ | .storeUpdate _ _ | .storeFind _ | .storeDelete _ | .storeFindByEmail _ => True
  | _ => False

/-- Steps that are the same, or differ in valid passwords. -/
inductive Step.Alike (setup : Setup) : Step → Step → Prop where
  | same {step : Step} (h : ¬ step.IsStore) : Alike setup step step
  | register {r r' : Registration} (h : r.Alike r') : Alike setup (.register r) (.register r')
  | login {c c' : Credentials} (h : c.Alike c') : Alike setup (.login c) (.login c')
  | http {r r' : Http.Request} (h : r.Alike setup.site.room r') : Alike setup (.http r) (.http r')

/-- The credentials of a step, if it is a login. -/
def Step.credentials? (setup : Setup) : Step → Option Credentials
  | .login c => some c
  | .http r => r.credentials? setup.site.room
  | _ => none

/-- A step of the cache or of the store of keys. -/
def Step.IsCache : Step → Prop
  | .cacheFind _ | .cacheStore _ _ | .cacheDrop _ | .cacheExpire _ | .get _ | .setFor _ _ _
  | .deleteKeys _ | .expire _ _ | .ping | .connect | .close | .attach => True
  | _ => False

/-- Steps of the cache run no statement. -/
theorem Step.plain_of_cache (setup : Setup) {step : Step} (h : step.IsCache) :
    ∃ a, step.action? setup = some a ∧ a.Asks World.Plain := by
  have hplain {a : Action Answer} (ha : step.action? setup = some a)
      (hr : ∀ r, step.MayAsk setup r → World.Plain r) :
      ∃ a, step.action? setup = some a ∧ a.Asks World.Plain := ⟨a, ha, (Step.asks ha).mono hr⟩
  cases step with
  | cacheFind | cacheStore | cacheDrop | cacheExpire | get | setFor | deleteKeys | expire | ping =>
    exact hplain rfl (World.plain_of_within fun _ hs => hs.elim)
  | connect =>
    refine hplain rfl fun r hr => ?_
    cases r with
    | sql => exact hr.elim
    | clock | salt | log | cache | connection => trivial
  | close => exact hplain rfl fun r hr => by rcases hr with rfl | ⟨_, rfl⟩ <;> trivial
  | attach => exact hplain rfl fun r hr => by cases hr; trivial
  | _ => exact h.elim

/-- Answers of actions that end alike. -/
theorem EndsAlike.answers {β : Type} {a b : Action α} (h : EndsAlike Eq a b w w') (f : α → β) :
    (Action.run (a >>= fun x => Pure.pure (f x)) w).1 =
        (Action.run (b >>= fun x => Pure.pure (f x)) w').1 ∧
      (Action.run (a >>= fun x => Pure.pure (f x)) w).2.Twin
        (Action.run (b >>= fun x => Pure.pure (f x)) w').2 := by
  obtain ⟨houtcome, htwin⟩ := h
  rw [run_bind_pure, run_bind_pure]
  exact ⟨congrArg (Except.map f) houtcome.eq, htwin⟩

/-- Steps that differ in valid passwords answer the same and leave twins. -/
theorem Step.run_alike (setup : Setup) {step step' : Step} (h : w.Twin w')
    (hs : step.Alike setup step')
    (hverdict : ∀ c c', step.credentials? setup = some c → step'.credentials? setup = some c' →
      w.verdict? c = w'.verdict? c') :
    (step.run setup w).1 = (step'.run setup w').1 ∧
      (step.run setup w).2.Twin (step'.run setup w').2 := by
  have hregister : ∀ {r r' : Registration}, r.Alike r' →
      (Step.run setup (.register r) w).1 = (Step.run setup (.register r') w').1 ∧
        (Step.run setup (.register r) w).2.Twin (Step.run setup (.register r') w').2 := fun hr =>
    (Identity.endsAlike_register h setup.identity hr).answers Answer.session
  have hhttp : ∀ {r r' : Http.Request}, r.Alike setup.site.room r' →
      (∀ c c', r.credentials? setup.site.room = some c →
        r'.credentials? setup.site.room = some c' → w.verdict? c = w'.verdict? c') →
      (Step.run setup (.http r) w).1 = (Step.run setup (.http r') w').1 ∧
        (Step.run setup (.http r) w).2.Twin (Step.run setup (.http r') w').2 := by
    intro r r' hr hv
    obtain ⟨hresponse, htwin⟩ := Http.serve_alike h hr hv
    rw [Step.run_http, Step.run_http, hresponse]
    exact ⟨rfl, htwin⟩
  cases hs with
  | register hr => exact hregister hr
  | login hc =>
    exact (Identity.endsAlike_login h setup.identity hc (hverdict _ _ rfl rfl)).answers
      Answer.session
  | http hr => exact hhttp hr hverdict
  | same hstore =>
    have hcache : step.IsCache → (step.run setup w).1 = (step.run setup w').1 ∧
        (step.run setup w).2.Twin (step.run setup w').2 := by
      intro hcache
      obtain ⟨a, haction, ha⟩ := Step.plain_of_cache setup hcache
      rw [Step.run_action haction, Step.run_action haction]
      exact Program.Asks.run_simulates ha (fun _ _ _ hr hw => hw.answer hr) h
    cases step with
    | register r => exact hregister ⟨rfl, .inl rfl⟩
    | login c =>
      exact (Identity.endsAlike_login h setup.identity ⟨rfl, .inl rfl⟩
        (hverdict _ _ rfl rfl)).answers Answer.session
    | update id d =>
      exact (Identity.endsAlike_update h id d).answers fun account => Answer.account (some account)
    | delete id => exact (Identity.endsAlike_delete h id).answers fun _ => Answer.nothing
    | find id =>
      exact (Identity.endsAlike_find h setup.identity id).answers
        fun account => Answer.account (some account)
    | http r => exact hhttp ⟨rfl, rfl, rfl, .inl rfl⟩ hverdict
    | advance span =>
      have hnow : w.now + span = w'.now + span := congrArg (· + span) h.now
      exact ⟨congrArg (fun now => Except.ok (Answer.clock now)) hnow, hnow, h.profiles,
        h.insertions, h.keys, h.attached, h.salt, h.faults, h.events⟩
    | setSalt salt =>
      exact ⟨rfl, h.now, h.profiles, h.insertions, h.keys, h.attached, rfl, h.faults, h.events⟩
    | isConnected =>
      exact ⟨congrArg (fun attached => Except.ok (Answer.flag attached)) h.attached, h⟩
    | peek =>
      refine ⟨?_, h⟩
      show Except.ok (Answer.entries (w.keys.liveEntries w.now)) =
        Except.ok (Answer.entries (w'.keys.liveEntries w'.now))
      rw [h.keys, h.now]
    | storeCreate | storeUpdate | storeFind | storeDelete | storeFindByEmail =>
      exact absurd trivial hstore
    | _ => exact hcache trivial

/-! ## Runs -/

/-- Moves that differ in valid passwords. -/
structure Move.Alike (setup : Setup) (m m' : Move) : Prop where
  step : m.step.Alike setup m'.step
  faults : m.faults = m'.faults

/-- What verifying a password finds in a move, if the move is a login that gets to it. -/
def Record.verdict? (setup : Setup) (x : Record) : Option Password.Verdict :=
  (x.move.step.credentials? setup).bind (x.before.facing x.move.faults).verdict?

theorem Move.record_verdict? (setup : Setup) (m : Move) (w : World) :
    (m.record setup w).verdict? setup =
      (m.step.credentials? setup).bind (w.facing m.faults).verdict? := rfl

/-- All that is seen of a move: the answer, the events, the keys, and the rows without hashes. -/
def Record.shown (x : Record) :
    Except Error Answer × List Event × Cache.Keyspace × List Profile :=
  (x.answer, x.events, x.after.keys, x.after.table.profiles)

theorem World.Twin.facing (h : w.Twin w') (faults : Faults) :
    (w.facing faults).Twin (w'.facing faults) :=
  ⟨h.now, h.profiles, h.insertions, h.keys, h.attached, h.salt, rfl, rfl⟩

theorem World.Twin.settled (h : w.Twin w') : w.settled.Twin w'.settled :=
  ⟨h.now, h.profiles, h.insertions, h.keys, h.attached, h.salt, rfl, rfl⟩

theorem Move.record_alike {m m' : Move} (h : w.Twin w') (hm : m.Alike setup m')
    (hverdict : (m.record setup w).verdict? setup = (m'.record setup w').verdict? setup) :
    (m.record setup w).shown = (m'.record setup w').shown ∧
      (m.record setup w).after.Twin (m'.record setup w').after := by
  have hfacing : (w.facing m.faults).Twin (w'.facing m'.faults) := hm.faults ▸ h.facing m.faults
  obtain ⟨hanswer, htwin⟩ := Step.run_alike setup hfacing hm.step fun c c' hc hc' => by
    rw [Move.record_verdict?, Move.record_verdict?, hc, hc', Option.bind_some, Option.bind_some]
      at hverdict
    exact hverdict
  refine ⟨?_, htwin.settled⟩
  show (_, _, _, _) = (_, _, _, _)
  rw [Move.record_answer, Move.record_answer, Move.record_events, Move.record_events,
    Move.record_after, Move.record_after, hanswer, htwin.events]
  exact congrArg (Prod.mk _) (congrArg (Prod.mk _) (Prod.ext htwin.keys htwin.profiles))

/-- **Passwords do not leak.**  Runs of moves that differ in valid passwords alone show the same,
move by move, when they start in the same world, or in twins, and their logins find the same about
their passwords. -/
theorem passwords_do_not_leak (setup : Setup) {w w' : World} (h : w.Twin w')
    {moves moves' : List Move} (halike : List.Forall₂ (Move.Alike setup) moves moves')
    (hverdicts : (records setup moves w).map (Record.verdict? setup) =
      (records setup moves' w').map (Record.verdict? setup)) :
    (records setup moves w).map Record.shown = (records setup moves' w').map Record.shown := by
  induction halike generalizing w w' with
  | nil => rfl
  | cons hm hmoves ih =>
    obtain ⟨hverdict, hrest⟩ := List.cons.inj hverdicts
    obtain ⟨hshown, htwin⟩ := Move.record_alike h hm hverdict
    rw [records, records, List.map_cons, List.map_cons, hshown, ih htwin hrest]

/-- A visitor who tries to log in, registers and looks at the account, with a password. -/
def sampleEntry (password : String) : List Move :=
  [⟨.login ⟨some "ann@b.co", some password⟩, {}⟩,
    ⟨.register ⟨{ email := some "Ann@b.co", city := some "Graz" }, some password⟩, {}⟩,
    ⟨.find (World.insertionId 1), {}⟩]

theorem passwords_do_not_leak_sampleEntry :
    List.Forall₂ (Move.Alike .sample) (sampleEntry "secret!") (sampleEntry "hunter22") ∧
      (records .sample (sampleEntry "secret!") (World.fresh 0 "$2b$04$abcdefghijklmnopqrstuu")).map
          (Record.verdict? .sample) =
        (records .sample (sampleEntry "hunter22") (World.fresh 0 "$2b$04$abcdefghijklmnopqrstuu")).map
          (Record.verdict? .sample) ∧
      (records .sample (sampleEntry "secret!") (World.fresh 0 "$2b$04$abcdefghijklmnopqrstuu")).map
          Record.shown =
        (records .sample (sampleEntry "hunter22") (World.fresh 0 "$2b$04$abcdefghijklmnopqrstuu")).map
          Record.shown := by
  have hpassword : PasswordsAlike (some "secret!") (some "hunter22") := .inr ⟨rfl, rfl⟩
  have halike : List.Forall₂ (Move.Alike .sample) (sampleEntry "secret!") (sampleEntry "hunter22") := by
    refine .cons ⟨.login ⟨rfl, hpassword⟩, rfl⟩ (.cons ⟨.register ⟨rfl, hpassword⟩, rfl⟩
      (.cons ⟨.same not_false, rfl⟩ .nil))
  have hverdicts : ∀ password, (records .sample (sampleEntry password)
      (World.fresh 0 "$2b$04$abcdefghijklmnopqrstuu")).map (Record.verdict? .sample) = [none, none, none] := by
    intro password
    have hnone : ∀ w : World, w.table = [] → ∀ c, w.verdict? c = none := by
      intro w htable c
      unfold World.verdict?
      rw [htable]
      split <;> rfl
    simp only [sampleEntry, records, List.map_cons, List.map_nil, Move.record_verdict?,
      Step.credentials?, Option.bind_none, Option.bind_some]
    rw [hnone _ rfl]
  have h : (records .sample (sampleEntry "secret!") _).map (Record.verdict? .sample) = _ :=
    (hverdicts "secret!").trans (hverdicts "hunter22").symm
  exact ⟨halike, h, passwords_do_not_leak .sample (World.Twin.refl _) halike h⟩

end Accounts
