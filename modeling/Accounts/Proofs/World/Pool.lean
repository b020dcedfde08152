import Accounts.Proofs.World.Answer
import Accounts.World.Step

/-!
# Calls that are under way together

A pool holds calls that were not all answered yet.  In every turn of a schedule one of them makes its
next request, and the world answers it as one atomic step; any order of the turns is a schedule.  A call
upholds an invariant when each of its requests does, whatever the other calls may have done within the
invariant while it waited.

    every call upholds the invariant
      ->  after any schedule the invariant holds, and a call that has ended has what it promised
-/

namespace Accounts

open Calendar

variable {α β : Type}

/-! ## Pools -/

/-- One turn of a schedule: the call that makes its next request, the time and the salt that it finds,
and the faults that it meets. -/
structure Turn where
  call : Nat
  now : Instant
  salt : String
  faults : Request → Faults := fun _ => {}

/-- The world, and what the calls have exchanged with it so far. -/
structure Scene where
  world : World
  history : List (Nat × Exchange) := []

/-- The world as a request finds it in a turn. -/
def Scene.facing (s : Scene) (t : Turn) (r : Request) : World :=
  { s.world with now := t.now, salt := t.salt, faults := t.faults r }

/-- Answer the request that a call makes in its turn. -/
def Scene.serve (s : Scene) (t : Turn) (r : Request) : r.Reply × Scene :=
  let (reply, world) := (s.facing t r).answer r
  (reply, { world := world, history := s.history ++ [(t.call, ⟨r, reply⟩)] })

/-- What some exchanges of a history tell, each with its call. -/
def noted (f : Exchange → Option β) (history : List (Nat × Exchange)) : List (Nat × β) :=
  history.filterMap fun x => (f x.2).map (x.1, ·)

/-- Calls that are under way together. -/
structure Pool (α : Type) where
  scene : Scene
  calls : List (Program α)

/-- Take a turn.  A call that has ended, or is not there, changes nothing. -/
def Pool.turn (p : Pool α) (t : Turn) : Pool α :=
  match p.calls[t.call]? with
  | some (.ask r next) =>
    let (reply, scene) := p.scene.serve t r
    { scene := scene, calls := p.calls.set t.call (next reply) }
  | _ => p

/-- Take the turns of a schedule. -/
def Pool.run (p : Pool α) (schedule : List Turn) : Pool α := schedule.foldl Pool.turn p

/-- All calls have ended. -/
def Pool.Finished (p : Pool α) : Prop := ∀ c ∈ p.calls, ∃ a, c = .done a

/-- A step as a call. -/
def Step.call (setup : Setup) (step : Step) : Program (Except Error Answer) :=
  match step.action? setup with
  | some a => ExceptT.run a
  | none => .done (.ok .nothing)

/-! ## Histories -/

theorem noted_append (f : Exchange → Option β) (history more : List (Nat × Exchange)) :
    noted f (history ++ more) = noted f history ++ noted f more := List.filterMap_append

theorem mem_noted {f : Exchange → Option β} {history : List (Nat × Exchange)} {m : Nat × β} :
    m ∈ noted f history ↔ ∃ x ∈ history, f x.2 = some m.2 ∧ x.1 = m.1 := by
  unfold noted
  rw [List.mem_filterMap]
  refine exists_congr fun x => and_congr_right fun _ => ?_
  rw [Option.map_eq_some_iff]
  constructor
  · rintro ⟨b, hb, rfl⟩
    exact ⟨hb, rfl⟩
  · rintro ⟨hb, hcall⟩
    exact ⟨m.2, hb, by rw [hcall]⟩

namespace Scene

theorem history_serve (s : Scene) (t : Turn) (r : Request) :
    (s.serve t r).2.history = s.history ++ [(t.call, ⟨r, (s.serve t r).1⟩)] := rfl

theorem noted_serve (f : Exchange → Option β) (s : Scene) (t : Turn) (r : Request) :
    noted f (s.serve t r).2.history =
      noted f s.history ++ (f ⟨r, (s.serve t r).1⟩).toList.map (t.call, ·) := by
  rw [history_serve, noted_append]
  congr 1
  unfold noted
  rw [List.filterMap_cons]
  cases f ⟨r, (s.serve t r).1⟩ <;> rfl

end Scene

/-! ## Upholding an invariant -/

/-- What may have happened while a call waited: requests of other calls, within the invariant. -/
structure Scene.Awaits (Inv : Scene → Prop) (i : Nat) (s s' : Scene) : Prop where
  inv : Inv s'
  grown : ∃ more, s'.history = s.history ++ more ∧ ∀ x ∈ more, x.1 ≠ i

/-- A call upholds an invariant with every request, and promises something of its result and of the
scene from its end on. -/
def Program.Upholds (Inv : Scene → Prop) (ok : Turn → Prop) (i : Nat) (post : α → Scene → Prop) :
    Program α → Scene → Prop
  | done a, s => ∀ s', s.Awaits Inv i s' → post a s'
  | ask r next, s => ∀ s', s.Awaits Inv i s' → ∀ t, t.call = i → ok t →
      Inv (s'.serve t r).2 ∧ (next (s'.serve t r).1).Upholds Inv ok i post (s'.serve t r).2

variable {Inv : Scene → Prop} {ok : Turn → Prop} {i : Nat} {post : α → Scene → Prop} {s s' : Scene}

namespace Scene

theorem Awaits.refl (h : Inv s) : s.Awaits Inv i s := ⟨h, [], by simp, fun _ hx => nomatch hx⟩

theorem Awaits.trans {s'' : Scene} (h : s.Awaits Inv i s') (h' : s'.Awaits Inv i s'') :
    s.Awaits Inv i s'' := by
  obtain ⟨-, more, heq, hother⟩ := h
  obtain ⟨hinv, more', heq', hother'⟩ := h'
  refine ⟨hinv, more ++ more', by rw [heq', heq, List.append_assoc], fun x hx => ?_⟩
  rcases List.mem_append.1 hx with hx | hx
  · exact hother x hx
  · exact hother' x hx

theorem reply_of_fault {t : Turn} {st : Store.Statement} {fault : Store.Fault}
    (h : (t.faults (.sql st)).sql.head?.join = some fault) :
    (s.serve t (.sql st)).1 = .error fault :=
  congrArg Prod.fst (World.runStatement_of_fault (w := s.facing t (.sql st)) h)

theorem reply_of_no_fault {t : Turn} {st : Store.Statement}
    (h : (t.faults (.sql st)).sql.head?.join = none) : (s.serve t (.sql st)).1 =
      (st.run t.now ((s.facing t (.sql st)).newId st) s.world.table).1 :=
  congrArg Prod.fst (World.runStatement_of_no_fault (w := s.facing t (.sql st)) h)

/-- The other calls wait while a call takes its turn. -/
theorem awaits_serve {j : Nat} {t : Turn} {r : Request} (hj : t.call ≠ j)
    (h : Inv (s.serve t r).2) : s.Awaits Inv j (s.serve t r).2 := by
  refine ⟨h, [(t.call, ⟨r, (s.serve t r).1⟩)], rfl, fun x hx => ?_⟩
  rw [List.mem_singleton.1 hx]
  exact hj

end Scene

/-- Something that the other calls cannot break. -/
def Scene.Steady (Inv : Scene → Prop) (i : Nat) (P : Scene → Prop) : Prop :=
  ∀ s s', s.Awaits Inv i s' → P s → P s'

namespace Program

theorem Upholds.awaits {p : Program α} (h : p.Upholds Inv ok i post s)
    (hs : s.Awaits Inv i s') : p.Upholds Inv ok i post s' := by
  cases p with
  | done a => exact fun s'' hs' => h s'' (hs.trans hs')
  | ask r next => exact fun s'' hs' => h s'' (hs.trans hs')

theorem Upholds.mono {p : Program α} {post' : α → Scene → Prop}
    (hpost : ∀ a s, Inv s → post a s → post' a s) (h : p.Upholds Inv ok i post s) :
    p.Upholds Inv ok i post' s := by
  induction p generalizing s with
  | done a => exact fun s' hs' => hpost a s' hs'.inv (h s' hs')
  | ask r next ih =>
    intro s' hs' t ht hok
    obtain ⟨hinv, hrest⟩ := h s' hs' t ht hok
    exact ⟨hinv, ih _ hrest⟩

/-- What comes after a part may use what the part promises. -/
theorem Upholds.bind {p : Program α} {f : α → Program β} {post' : β → Scene → Prop}
    (hp : p.Upholds Inv ok i post s) (hs : Inv s)
    (hf : ∀ a s, Inv s → (∀ s', s.Awaits Inv i s' → post a s') → (f a).Upholds Inv ok i post' s) :
    (p >>= f).Upholds Inv ok i post' s := by
  induction p generalizing s with
  | done a => exact hf a s hs hp
  | ask r next ih =>
    intro s' hs' t ht hok
    obtain ⟨hinv, hrest⟩ := hp s' hs' t ht hok
    exact ⟨hinv, ih _ hrest hinv⟩

end Program

/-! ## Actions -/

namespace Action

/-- An action upholds an invariant, and promises something of its value or error. -/
def Upholds (Inv : Scene → Prop) (ok : Turn → Prop) (i : Nat)
    (post : Except Error α → Scene → Prop) (a : Action α) (s : Scene) : Prop :=
  Program.Upholds Inv ok i post (ExceptT.run a) s

variable {post : Except Error α → Scene → Prop} {post' : Except Error β → Scene → Prop}

theorem upholds_pure {x : α} (h : ∀ s', s.Awaits Inv i s' → post (.ok x) s') :
    (pure x : Action α).Upholds Inv ok i post s := h

theorem upholds_throw {e : Error} (h : ∀ s', s.Awaits Inv i s' → post (.error e) s') :
    (throw e : Action α).Upholds Inv ok i post s := h

theorem upholds_fail {cause : Cause}
    (h : ∀ s', s.Awaits Inv i s' → post (.error (.failure { cause := cause })) s') :
    (fail cause : Action α).Upholds Inv ok i post s := h

theorem Upholds.awaits {a : Action α} (h : a.Upholds Inv ok i post s) (hs : s.Awaits Inv i s') :
    a.Upholds Inv ok i post s' := Program.Upholds.awaits h hs

theorem Upholds.mono {a : Action α} {post' : Except Error α → Scene → Prop}
    (hpost : ∀ x s, Inv s → post x s → post' x s) (h : a.Upholds Inv ok i post s) :
    a.Upholds Inv ok i post' s := Program.Upholds.mono hpost h

theorem Upholds.bind {a : Action α} {f : α → Action β} (ha : a.Upholds Inv ok i post s) (hs : Inv s)
    (hok : ∀ x s, Inv s → (∀ s', s.Awaits Inv i s' → post (.ok x) s') →
      (f x).Upholds Inv ok i post' s)
    (herror : ∀ e s, Inv s → post (.error e) s → post' (.error e) s) :
    (a >>= f).Upholds Inv ok i post' s := by
  refine Program.Upholds.bind ha hs fun result s hs hpost => ?_
  cases result with
  | ok x => exact hok x s hs hpost
  | error e => exact fun s' hs' => herror e s' hs'.inv (hpost s' hs')

/-- A part whose value is only put in another form. -/
theorem Upholds.returned {a : Action α} {g : α → β} (hs : Inv s)
    (ha : a.Upholds Inv ok i (fun result => post' (result.map g)) s) :
    (a >>= fun x => pure (g x)).Upholds Inv ok i post' s :=
  ha.bind hs (fun _ _ _ hx => upholds_pure hx) fun _ _ _ he => he

theorem Upholds.tryCatch {a : Action α} {handle : Error → Action α}
    {post' : Except Error α → Scene → Prop} (ha : a.Upholds Inv ok i post s) (hs : Inv s)
    (hok : ∀ x s, Inv s → post (.ok x) s → post' (.ok x) s)
    (herror : ∀ e s, Inv s → (∀ s', s.Awaits Inv i s' → post (.error e) s') →
      (handle e).Upholds Inv ok i post' s) :
    (tryCatch a handle).Upholds Inv ok i post' s := by
  refine Program.Upholds.bind ha hs fun result s hs hpost => ?_
  cases result with
  | ok x => exact fun s' hs' => hok x s' hs'.inv (hpost s' hs')
  | error e => exact herror e s hs hpost

/-! ### Actions that do not fail -/

/-- An action upholds an invariant and ends with a value, of which it promises something. -/
def Yields (Inv : Scene → Prop) (ok : Turn → Prop) (i : Nat) (post : α → Scene → Prop)
    (a : Action α) (s : Scene) : Prop :=
  a.Upholds Inv ok i (fun result s => ∃ x, result = .ok x ∧ post x s) s

/-- One request, in a scene of which something is known that the other calls cannot break. -/
theorem yields_request {r : Request} {P : Scene → Prop} {post : r.Reply → Scene → Prop}
    (hP : Scene.Steady Inv i P) (h : P s) (hpost : ∀ x, Scene.Steady Inv i (post x))
    (step : ∀ s t, t.call = i → ok t → Inv s → P s →
      Inv (s.serve t r).2 ∧ post (s.serve t r).1 (s.serve t r).2) :
    (request r).Yields Inv ok i post s := by
  intro s' hs' t ht hok
  obtain ⟨hinv, hreply⟩ := step s' t ht hok hs'.inv (hP s s' hs' h)
  exact ⟨hinv, fun s'' hs'' => ⟨_, rfl, hpost _ _ s'' hs'' hreply⟩⟩

theorem yields_pure {x : α} {post : α → Scene → Prop}
    (h : ∀ s', s.Awaits Inv i s' → post x s') : (pure x : Action α).Yields Inv ok i post s :=
  upholds_pure fun s' hs' => ⟨x, rfl, h s' hs'⟩

/-- What comes after an action that does not fail. -/
theorem Yields.bind {a : Action α} {f : α → Action β} {post : α → Scene → Prop}
    (ha : a.Yields Inv ok i post s) (hs : Inv s)
    (hf : ∀ x s, Inv s → post x s → (f x).Upholds Inv ok i post' s) :
    (a >>= f).Upholds Inv ok i post' s := by
  refine Upholds.bind ha hs (fun x s hs hx => ?_) fun e s _ he => ?_
  · obtain ⟨y, hy, hpost⟩ := hx s (.refl hs)
    obtain rfl := Except.ok.inj hy
    exact hf x s hs hpost
  · obtain ⟨_, hy, -⟩ := he
    cases hy

/-- One statement, whose fault is an error. -/
theorem upholds_query (st : Store.Statement) {P : Scene → Prop}
    {post : Except Error st.Result → Scene → Prop} (hP : Scene.Steady Inv i P) (h : P s) (hs : Inv s)
    (hpost : ∀ x, Scene.Steady Inv i (post x))
    (step : ∀ s t, t.call = i → ok t → Inv s → P s → Inv (s.serve t (.sql st)).2 ∧
      post (Except.mapError .store (show Except Store.Fault st.Result from (s.serve t (.sql st)).1))
        (s.serve t (.sql st)).2) :
    (query st).Upholds Inv ok i post s := by
  have hrequest : (statement st).Yields Inv ok i
      (fun reply => post (Except.mapError .store (show Except Store.Fault st.Result from reply))) s :=
    yields_request hP h (fun _ => hpost _) step
  refine hrequest.bind hs fun reply s _ hreply => ?_
  rcases reply with fault | result
  · exact upholds_throw fun s' hs' => hpost _ s s' hs' hreply
  · exact upholds_pure fun s' hs' => hpost _ s s' hs' hreply

/-- A part of which every request keeps the invariant, and something that the other calls cannot
break. -/
theorem Asks.upholds {a : Action α} {R : Request → Prop} {P : Scene → Prop} (ha : a.Asks R)
    (hP : Scene.Steady Inv i P) (h : P s)
    (step : ∀ s t r, t.call = i → ok t → R r → Inv s → P s →
      Inv (s.serve t r).2 ∧ P (s.serve t r).2) :
    a.Upholds Inv ok i (fun _ => P) s := by
  unfold Upholds
  unfold Asks at ha
  generalize ExceptT.run a = p at ha
  induction ha generalizing s with
  | done result => exact fun s' hs' => hP s s' hs' h
  | @ask r next here _ ih =>
    intro s' hs' t ht hok
    obtain ⟨hinv, hkept⟩ := step s' t r ht hok here hs'.inv (hP s s' hs' h)
    exact ⟨hinv, ih _ hkept⟩

end Action

/-! ## Requests that break nothing -/

/-- Something that the other calls cannot break, and that requests of a class break neither; such
requests keep the invariant, too. -/
structure Scene.Calm (Inv : Scene → Prop) (S : Store.Statement → Prop) (C : Cache.Command → Prop)
    (i : Nat) (P : Scene → Prop) : Prop where
  steady : Scene.Steady Inv i P
  serve : ∀ s t r, Request.Within S C r → Inv s → P s → Inv (s.serve t r).2 ∧ P (s.serve t r).2

namespace Scene.Calm

variable {S : Store.Statement → Prop} {C : Cache.Command → Prop} {P : Scene → Prop}

/-- A part that asks for nothing else. -/
theorem upholds (hP : Scene.Calm Inv S C i P) (h : P s) {a : Action α}
    (ha : a.Asks (Request.Within S C)) : a.Upholds Inv ok i (fun _ => P) s :=
  ha.upholds hP.steady h fun s t r _ _ hr hs h => hP.serve s t r hr hs h

theorem yields_log (hP : Scene.Calm Inv S C i P) (h : P s) (e : Event) :
    (Action.log e).Yields Inv ok i (fun _ => P) s :=
  Action.yields_request (r := .log e) hP.steady h (fun _ => hP.steady) fun s t _ _ hs h =>
    hP.serve s t (.log e) trivial hs h

/-- Fail after an event. -/
theorem upholds_log_throw (hP : Scene.Calm Inv S C i P) (hs : Inv s) (h : P s) (e : Event)
    (error : Error) {post : Except Error α → Scene → Prop} (hpost : ∀ s, P s → post (.error error) s) :
    (Action.log e >>= fun _ => throw error : Action α).Upholds Inv ok i post s :=
  (hP.yields_log h e).bind hs fun _ s _ h =>
    Action.upholds_throw fun s' hs' => hpost s' (hP.steady s s' hs' h)

end Scene.Calm

/-! ## Schedules -/

/-- The invariant holds, and every call upholds it. -/
structure Pool.Upheld (Inv : Scene → Prop) (ok : Turn → Prop) (posts : Nat → α → Scene → Prop)
    (p : Pool α) : Prop where
  inv : Inv p.scene
  calls : ∀ i (c : Program α), p.calls[i]? = some c → c.Upholds Inv ok i (posts i) p.scene

namespace Pool

variable {p : Pool α} {t : Turn} {schedule : List Turn} {posts : Nat → α → Scene → Prop}

theorem turn_of_ask {r : Request} {next : r.Reply → Program α}
    (h : p.calls[t.call]? = some (.ask r next)) :
    p.turn t = { scene := (p.scene.serve t r).2,
                 calls := p.calls.set t.call (next (p.scene.serve t r).1) } := by
  unfold turn
  rw [h]

/-- A turn changes nothing, or answers the next request of its call. -/
theorem turn_cases (p : Pool α) (t : Turn) : p.turn t = p ∨
    ∃ r next, p.calls[t.call]? = some (.ask r next) ∧
      p.turn t = { scene := (p.scene.serve t r).2,
                   calls := p.calls.set t.call (next (p.scene.serve t r).1) } := by
  rcases h : p.calls[t.call]? with _ | c
  · exact .inl (by rw [turn, h])
  · cases c with
    | done a => exact .inl (by rw [turn, h])
    | ask r next => exact .inr ⟨r, next, rfl, turn_of_ask h⟩

theorem Upheld.turn (h : p.Upheld Inv ok posts) (ht : ok t) : (p.turn t).Upheld Inv ok posts := by
  rcases turn_cases p t with hsame | ⟨r, next, hcall, hturn⟩
  · rw [hsame]
    exact h
  · obtain ⟨hinv, hrest⟩ := h.calls _ _ hcall p.scene (.refl h.inv) t rfl ht
    rw [hturn]
    refine ⟨hinv, fun j c hc => ?_⟩
    by_cases hj : t.call = j
    · subst hj
      rw [List.getElem?_set_self (List.getElem?_eq_some_iff.1 hcall).1] at hc
      rw [← Option.some.inj hc]
      exact hrest
    · rw [List.getElem?_set_ne hj] at hc
      exact (h.calls j c hc).awaits (Scene.awaits_serve hj hinv)

/-- Through every schedule the invariant holds and every call upholds it. -/
theorem Upheld.run (h : p.Upheld Inv ok posts) (hok : ∀ t ∈ schedule, ok t) :
    (p.run schedule).Upheld Inv ok posts := by
  induction schedule generalizing p with
  | nil => exact h
  | cons t schedule ih =>
    exact ih (h.turn (hok t List.mem_cons_self)) fun t' ht' => hok t' (List.mem_cons_of_mem t ht')

/-- A call that has ended has what it promised. -/
theorem Upheld.ended (h : p.Upheld Inv ok posts) {a : α} (hi : p.calls[i]? = some (.done a)) :
    posts i a p.scene :=
  h.calls i _ hi p.scene (.refl h.inv)

theorem length_turn (p : Pool α) (t : Turn) : (p.turn t).calls.length = p.calls.length := by
  rcases turn_cases p t with hsame | ⟨r, next, -, hturn⟩
  · rw [hsame]
  · rw [hturn, List.length_set]

theorem length_run (p : Pool α) (schedule : List Turn) :
    (p.run schedule).calls.length = p.calls.length := by
  induction schedule generalizing p with
  | nil => rfl
  | cons t schedule ih => exact (ih _).trans (length_turn p t)

theorem run_append (p : Pool α) (schedule later : List Turn) :
    p.run (schedule ++ later) = (p.run schedule).run later := List.foldl_append

/-! ## Running to the end -/

/-- A call that gets turns enough ends, and the others are left as they were. -/
theorem exists_ended {turn : Nat → Turn} (hturn : ∀ i, (turn i).call = i) (p : Pool α) {i : Nat}
    {c : Program α} (hi : p.calls[i]? = some c) :
    ∃ n a, (p.run (List.replicate n (turn i))).calls = p.calls.set i (.done a) := by
  induction c generalizing p with
  | done a =>
    refine ⟨0, a, ?_⟩
    obtain ⟨hlt, heq⟩ := List.getElem?_eq_some_iff.1 hi
    rw [← heq, List.set_getElem_self]
    rfl
  | ask r next ih =>
    have hstep := turn_of_ask (t := turn i) ((congrArg (p.calls[·]?) (hturn i)).trans hi)
    rw [hturn i] at hstep
    have hlt : i < p.calls.length := (List.getElem?_eq_some_iff.1 hi).1
    obtain ⟨n, a, hrest⟩ := ih (p.scene.serve (turn i) r).1 (p.turn (turn i))
      (by rw [hstep]; exact List.getElem?_set_self hlt)
    refine ⟨n + 1, a, ?_⟩
    rw [List.replicate_succ]
    show ((p.turn (turn i)).run (List.replicate n (turn i))).calls = _
    rw [hrest, hstep, List.set_set]

/-- No call waits for another: every pool can be run to its end, whatever the turns are like. -/
theorem exists_finished (turn : Nat → Turn) (hturn : ∀ i, (turn i).call = i) (p : Pool α) :
    ∃ schedule, (∀ t ∈ schedule, ∃ i, t = turn i) ∧ (p.run schedule).Finished := by
  have hfirst : ∀ k ≤ p.calls.length, ∃ schedule, (∀ t ∈ schedule, ∃ i, t = turn i) ∧
      ∀ i < k, ∃ a, (p.run schedule).calls[i]? = some (.done a) := by
    intro k hk
    induction k with
    | zero => exact ⟨[], fun _ ht => (nomatch ht), fun _ hi => absurd hi (Nat.not_lt_zero _)⟩
    | succ k ih =>
      obtain ⟨schedule, hturns, hdone⟩ := ih (Nat.le_of_succ_le hk)
      have hlt : k < (p.run schedule).calls.length := by rw [length_run]; exact hk
      obtain ⟨n, a, hcalls⟩ := exists_ended hturn (p.run schedule) (List.getElem?_eq_getElem hlt)
      refine ⟨schedule ++ List.replicate n (turn k), fun t ht => ?_, fun i hi => ?_⟩
      · rcases List.mem_append.1 ht with ht | ht
        · exact hturns t ht
        · exact ⟨k, (List.mem_replicate.1 ht).2⟩
      · rw [run_append, hcalls]
        by_cases hik : k = i
        · subst hik
          exact ⟨a, List.getElem?_set_self hlt⟩
        · rw [List.getElem?_set_ne hik]
          exact hdone i (by omega)
  obtain ⟨schedule, hturns, hdone⟩ := hfirst _ (Nat.le_refl _)
  refine ⟨schedule, hturns, fun c hc => ?_⟩
  obtain ⟨i, hi, rfl⟩ := List.getElem_of_mem hc
  obtain ⟨a, ha⟩ := hdone i (by rwa [length_run] at hi)
  exact ⟨a, Option.some.inj ((List.getElem?_eq_getElem hi).symm.trans ha)⟩

/-- The result of a call of a pool that has run to its end. -/
theorem Finished.ended (h : p.Finished) (hi : i < p.calls.length) :
    ∃ a, p.calls[i]? = some (.done a) := by
  obtain ⟨a, ha⟩ := h _ (List.getElem_mem hi)
  exact ⟨a, (List.getElem?_eq_getElem hi).trans (congrArg some ha)⟩

end Pool

-- A goal about a call would be unfolded along its program, up to the first request that depends on
-- the payload.  Elsewhere the rules above are all that is needed.
attribute [irreducible] Program.Upholds

end Accounts
