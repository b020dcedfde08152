import Accounts.Http.Api
import Accounts.Proofs.Service.Requests
import Accounts.Proofs.Store.Table

/-!
# What handlers ask for

A handler is a program that refuses a request or gives a response.  Its bounds are put together from
those of the operations that it calls: only the endpoint for changes asks for a revision, only the
endpoint for deletions asks for a deletion, and both name the account of the path.
-/

namespace Accounts.Http

open Accounts.Request (Within)

variable {P : Accounts.Request → Prop} {S : Store.Statement → Prop} {C : Cache.Command → Prop}

namespace Handler

/-! ## Runs -/

/-- Run a handler to its end. -/
def run (h : Handler α) (w : World) : Except Refusal α × World := Program.run (ExceptT.run h) w

/-- The exchanges of a run, in their order. -/
def trace (h : Handler α) (w : World) : List Exchange := Program.trace (ExceptT.run h) w

theorem run_bind (h : Handler α) (f : α → Handler β) (w : World) :
    (h >>= f).run w = match h.run w with
      | (.ok a, w') => (f a).run w'
      | (.error e, w') => (.error e, w') := by
  rw [run, run, Program.run_except_bind]
  rcases hr : Program.run (ExceptT.run h) w with ⟨a | a, w'⟩ <;> rfl

theorem trace_bind (h : Handler α) (f : α → Handler β) (w : World) :
    (h >>= f).trace w = h.trace w ++ match h.run w with
      | (.ok a, w') => (f a).trace w'
      | (.error _, _) => [] := by
  rw [trace, trace, run, Program.trace_except_bind]
  rcases hr : Program.run (ExceptT.run h) w with ⟨a | a, w'⟩ <;> rfl

theorem run_bind_ok {h : Handler α} {w w' : World} {a : α} (f : α → Handler β)
    (hr : h.run w = (.ok a, w')) : (h >>= f).run w = (f a).run w' := by
  rw [run_bind, hr]

theorem run_bind_error {h : Handler α} {w w' : World} {e : Refusal} (f : α → Handler β)
    (hr : h.run w = (.error e, w')) : (h >>= f).run w = (.error e, w') := by
  rw [run_bind, hr]

@[simp] theorem run_pure (a : α) (w : World) : (pure a : Handler α).run w = (.ok a, w) := rfl

@[simp] theorem trace_pure (a : α) (w : World) : (pure a : Handler α).trace w = [] := rfl

@[simp] theorem run_throw (e : Refusal) (w : World) :
    (throw e : Handler α).run w = (.error e, w) := rfl

@[simp] theorem trace_throw (e : Refusal) (w : World) : (throw e : Handler α).trace w = [] := rfl

@[simp] theorem run_request (r : Accounts.Request) (w : World) :
    (request r).run w = (.ok (w.answer r).1, (w.answer r).2) := rfl

@[simp] theorem trace_request (r : Accounts.Request) (w : World) :
    (request r).trace w = [⟨r, (w.answer r).1⟩] := rfl

/-! ## Bounds -/

/-- Every request of a handler has a property, whatever the world answers. -/
def Asks (P : Accounts.Request → Prop) (h : Handler α) : Prop := Program.Asks P (ExceptT.run h)

theorem asks_pure (a : α) : (pure a : Handler α).Asks P := .done _

theorem asks_throw (e : Refusal) : (throw e : Handler α).Asks P := .done _

theorem asks_request {r : Accounts.Request} (h : P r) : (request r).Asks P :=
  .ask h fun _ => .done _

theorem Asks.bind {h : Handler α} {f : α → Handler β} (hh : h.Asks P) (hf : ∀ a, (f a).Asks P) :
    (h >>= f).Asks P := by
  refine Program.Asks.bind hh fun result => ?_
  cases result with
  | ok a => exact hf a
  | error e => exact .done _

theorem asks_accept (refuse : ε → Refusal) (x : Except ε α) : (accept refuse x).Asks P := by
  cases x with
  | ok a => exact asks_pure a
  | error fault => exact asks_throw _

/-- What follows an accepted value may use what the value is. -/
theorem asks_accept_bind {refuse : ε → Refusal} {x : Except ε α} {f : α → Handler β}
    (hf : ∀ a, x = .ok a → (f a).Asks P) : (accept refuse x >>= f).Asks P := by
  cases x with
  | ok a => exact hf a rfl
  | error fault => exact .done _

theorem asks_call {a : Action α} (ha : a.Asks P) : (call a).Asks P := by
  refine Program.Asks.bind ha fun result => ?_
  cases result with
  | ok a => exact .done _
  | error e => exact .done _

end Handler

open Handler

/-! ## Tokens and input -/

theorem asks_claims (room : Nat) (secret name : String) (r : Request) :
    (claims room secret name r).Asks (Within S C) := by
  unfold claims
  split
  · exact asks_throw _
  · refine Asks.bind (asks_request trivial) fun now => ?_
    split
    · exact asks_pure _
    · split
      · exact Asks.bind (asks_request trivial) fun _ => asks_throw _
      · exact asks_throw _

theorem asks_receive (room : Nat) (read : Json → Input.Checked α) (r : Request) :
    (receive room read r).Asks P :=
  Asks.bind (asks_accept _ _) fun _ => asks_accept _ _

theorem asks_requireSelf (claims : Token.Claims) (id : Uuid) : (requireSelf claims id).Asks P := by
  unfold requireSelf
  split
  · exact asks_pure _
  · exact asks_throw _

theorem asks_withCookie (field : Option String) (response : Response) :
    (withCookie field response).Asks P := by
  cases field with
  | some field => exact asks_pure _
  | none => exact asks_throw _

/-! ## Endpoints -/

/-- The identifier that a path gives is the one that its segment writes. -/
theorem readId_eq_ok {argument : String} {id : Uuid} (h : readId argument = .ok id) :
    Uuid.read argument = .ok id := by
  simp only [readId, Input.uuid] at h
  rcases hread : Uuid.read argument with fault | found
  · rw [hread] at h
    cases h
  · rw [hread] at h
    cases h
    rfl

/-- Two values are accepted together when each is accepted. -/
theorem pair_eq_ok {x : Input.Checked α} {y : Input.Checked β} {p : α × β}
    (h : ((Input.Checked.of Prod.mk).apply x).apply y = .ok p) : x = .ok p.1 ∧ y = .ok p.2 := by
  rcases x with ps | a <;> rcases y with qs | b <;> cases h
  exact ⟨rfl, rfl⟩

/-- The endpoint for changes rewrites no row and drops no copy but those of the account in the
path. -/
theorem asks_handle_update (site : Site) (r : Request) (argument : String) :
    (handle site r argument .update).Asks
      (Within (fun s => ∃ id, Uuid.read argument = .ok id ∧ Store.Rewrites id s)
        fun c => ∃ id, Uuid.read argument = .ok id ∧ Cache.Drops id c) := by
  refine Asks.bind (asks_accept _ _) fun payload => ?_
  refine Asks.bind (asks_claims _ _ _ _) fun claims => ?_
  refine asks_accept_bind fun p hp => ?_
  have hid := readId_eq_ok (pair_eq_ok hp).1
  refine Asks.bind (asks_requireSelf _ _) fun _ => ?_
  refine Asks.bind (asks_call ((Identity.asks_update p.1 p.2).mono ?_)) fun _ => asks_pure _
  exact Within.mono (fun s hs => ⟨p.1, hid, by obtain ⟨d, rfl⟩ := hs; rfl⟩) fun _ hc => ⟨p.1, hid, hc⟩

/-- The endpoint for deletions rewrites no row and drops no copy but those of the account in the
path. -/
theorem asks_handle_delete (site : Site) (r : Request) (argument : String) :
    (handle site r argument .delete).Asks
      (Within (fun s => ∃ id, Uuid.read argument = .ok id ∧ Store.Rewrites id s)
        fun c => ∃ id, Uuid.read argument = .ok id ∧ Cache.Drops id c) := by
  refine Asks.bind (asks_claims _ _ _ _) fun claims => ?_
  refine asks_accept_bind fun id hid => ?_
  have hread := readId_eq_ok hid
  refine Asks.bind (asks_requireSelf _ _) fun _ => ?_
  refine Asks.bind (asks_call ((Identity.asks_delete id).mono ?_)) fun _ => ?_
  · exact Within.mono (fun s hs => ⟨id, hread, by subst hs; rfl⟩) fun _ hc => ⟨id, hread, hc⟩
  · exact Asks.bind (asks_request trivial) fun now => asks_withCookie _ _

/-- The endpoint for signs of life asks for no more than these. -/
theorem asks_health (site : Site) (r : Request) (argument : String) (hprobe : S .probe)
    (hping : C .ping) : (handle site r argument .health).Asks (Within S C) := by
  refine Asks.bind (Asks.bind (asks_request hprobe) fun reply => ?_) fun database => ?_
  · rcases reply with fault | _
    · exact Asks.bind (asks_request trivial) fun _ => asks_pure _
    · exact asks_pure _
  · exact Asks.bind (asks_call (Action.Asks.bind (Action.asks_request hping) fun _ =>
      Action.asks_pure _)) fun _ => asks_pure _

/-- The other endpoints rewrite no row. -/
theorem asks_handle_other (site : Site) (r : Request) (argument : String) {e : Endpoint}
    (hu : e ≠ .update) (hd : e ≠ .delete) :
    (handle site r argument e).Asks (Within (fun s => ∀ id, ¬ Store.Rewrites id s) fun _ => True) := by
  have hfind (id : Uuid) : (call (Identity.find site.identity id)).Asks
      (Within (fun s => ∀ id, ¬ Store.Rewrites id s) fun _ => True) :=
    asks_call ((Identity.asks_find site.identity id).mono
      (Within.mono (fun s hs => by subst hs; exact fun _ h => h) fun _ _ => trivial))
  cases e with
  | health => exact asks_health site r argument (fun _ h => h) trivial
  | register =>
    refine Asks.bind (asks_receive _ _ _) fun registration => ?_
    refine Asks.bind (asks_call ((Identity.asks_register (C := fun _ => True) _ _).mono ?_))
      fun session => asks_withCookie _ _
    exact Within.mono (fun s hs => hs.not_rewrites) fun _ _ => trivial
  | login =>
    refine Asks.bind (asks_receive _ _ _) fun credentials => ?_
    refine Asks.bind (asks_call ((Identity.asks_login (C := fun _ => True) _ _).mono ?_))
      fun session => asks_withCookie _ _
    exact Within.mono (fun s hs => by subst hs; exact fun _ h => h) fun _ _ => trivial
  | me =>
    refine Asks.bind (asks_claims _ _ _ _) fun claims => ?_
    exact Asks.bind (hfind _) fun _ => asks_pure _
  | find =>
    refine Asks.bind (asks_accept _ _) fun id => ?_
    exact Asks.bind (hfind _) fun _ => asks_pure _
  | update => exact absurd rfl hu
  | delete => exact absurd rfl hd

/-- Bounds on the operations of the service. -/
structure OperationsAsk (config : Identity.Config) (S : Store.Statement → Prop)
    (C : Cache.Command → Prop) : Prop where
  register : ∀ r, (Identity.register config r).Asks (Within S C)
  login : ∀ c, (Identity.login config c).Asks (Within S C)
  update : ∀ id d, (Identity.update id d).Asks (Within S C)
  delete : ∀ id, (Identity.delete id).Asks (Within S C)
  find : ∀ id, (Identity.find config id).Asks (Within S C)

/-- The interface asks for what its operations ask for, and for signs of life. -/
theorem asks_handle {site : Site} (h : OperationsAsk site.identity S C) (hprobe : S .probe)
    (hping : C .ping) (r : Request) (argument : String) (e : Endpoint) :
    (handle site r argument e).Asks (Within S C) := by
  cases e with
  | health => exact asks_health site r argument hprobe hping
  | register =>
    refine Asks.bind (asks_receive _ _ _) fun registration => ?_
    exact Asks.bind (asks_call (h.register registration)) fun _ => asks_withCookie _ _
  | login =>
    refine Asks.bind (asks_receive _ _ _) fun credentials => ?_
    exact Asks.bind (asks_call (h.login credentials)) fun _ => asks_withCookie _ _
  | me =>
    refine Asks.bind (asks_claims _ _ _ _) fun claims => ?_
    exact Asks.bind (asks_call (h.find _)) fun _ => asks_pure _
  | find =>
    refine Asks.bind (asks_accept _ _) fun id => ?_
    exact Asks.bind (asks_call (h.find id)) fun _ => asks_pure _
  | update =>
    refine Asks.bind (asks_accept _ _) fun payload => ?_
    refine Asks.bind (asks_claims _ _ _ _) fun claims => ?_
    refine Asks.bind (asks_accept _ _) fun p => ?_
    refine Asks.bind (asks_requireSelf _ _) fun _ => ?_
    exact Asks.bind (asks_call (h.update p.1 p.2)) fun _ => asks_pure _
  | delete =>
    refine Asks.bind (asks_claims _ _ _ _) fun claims => ?_
    refine Asks.bind (asks_accept _ _) fun id => ?_
    refine Asks.bind (asks_requireSelf _ _) fun _ => ?_
    refine Asks.bind (asks_call (h.delete id)) fun _ => ?_
    exact Asks.bind (asks_request trivial) fun now => asks_withCookie _ _

theorem asks_respond {site : Site} (h : OperationsAsk site.identity S C) (hprobe : S .probe)
    (hping : C .ping) (r : Request) : (respond site r).Asks (Within S C) := by
  unfold respond
  split
  · exact asks_pure _
  · exact asks_handle h hprobe hping r _ _
  · exact asks_throw _
  · exact asks_pure _
  · exact asks_throw _

/-- Serving asks for what the response asks for, and for events. -/
theorem asks_serve_of_respond {site : Site} {r : Request} (h : (respond site r).Asks (Within S C)) :
    (serve site r).Asks (Within S C) := by
  unfold serve
  split
  · exact .done _
  · refine Program.Asks.bind h fun result => ?_
    refine Program.Asks.bind ?_ fun _ => .done _
    unfold logRefusal
    split
    · exact .done _
    · split
      · exact .ask trivial fun _ => .done _
      · exact .done _

theorem asks_serve {site : Site} (h : OperationsAsk site.identity S C) (hprobe : S .probe)
    (hping : C .ping) (r : Request) : (serve site r).Asks (Within S C) :=
  asks_serve_of_respond (asks_respond h hprobe hping r)

/-! ## Serving -/

/-- A question before a call is answered without a look at the world. -/
theorem run_serve_of_question {site : Site} {r : Request} {response : Response}
    (h : questionResponse? site.origins r = some response) (w : World) :
    (serve site r).run w = (response, w) := by
  unfold serve
  rw [h]
  rfl

theorem run_logRefusal (r : Request) (result : Except Refusal Response) (w : World) :
    ∃ events, (logRefusal r result).run w = ((), { w with events := events }) := by
  unfold logRefusal
  split
  · exact ⟨_, rfl⟩
  · split
    · exact ⟨_, rfl⟩
    · exact ⟨_, rfl⟩

/-- Any other request is answered with the response for its result, and no more is done than to log
that. -/
theorem run_serve {site : Site} {r : Request} (h : questionResponse? site.origins r = none)
    (w : World) : ∃ events, (serve site r).run w =
      ((site.responseOf r ((respond site r).run w).1).toMethod r.method,
        { ((respond site r).run w).2 with events := events }) := by
  obtain ⟨events, hlog⟩ := run_logRefusal r ((respond site r).run w).1 ((respond site r).run w).2
  refine ⟨events, ?_⟩
  unfold serve
  rw [h]
  show Program.run (ExceptT.run (respond site r) >>= _) w = _
  rw [Program.run_bind, Program.run_bind]
  show ((site.responseOf r ((respond site r).run w).1).toMethod r.method,
    ((logRefusal r ((respond site r).run w).1).run ((respond site r).run w).2).2) = _
  rw [hlog]

end Accounts.Http
