import Accounts.World.Basic

/-!
# Running programs

How a run goes through the parts of a program, and the exchanges that it has with the world on the
way.  An exchange is a request with the reply that it got:

    (p >>= f).run w   = (f a).run w'                 where p.run w = (a, w')
    (p >>= f).trace w = p.trace w ++ (f a).trace w'
-/

namespace Accounts

/-- A request and the reply that it got. -/
structure Exchange where
  request : Request
  reply : request.Reply

/-- The exchanges of a run, in their order. -/
def Program.trace : Program α → World → List Exchange
  | done _, _ => []
  | ask r next, w => ⟨r, (w.answer r).1⟩ :: (next (w.answer r).1).trace (w.answer r).2

/-- The exchanges of a run, in their order. -/
def Action.trace (a : Action α) (w : World) : List Exchange := Program.trace (ExceptT.run a) w

/-! ## Programs -/

theorem Program.trace_bind (p : Program α) (f : α → Program β) (w : World) :
    (p >>= f).trace w = p.trace w ++ (f (p.run w).1).trace (p.run w).2 := by
  induction p generalizing w with
  | done a => rfl
  | ask r next ih =>
    show _ :: _ = _ :: _
    congr 1
    exact ih _ _

@[simp] theorem Program.run_done (a : α) (w : World) : (done a).run w = (a, w) := rfl

@[simp] theorem Program.trace_done (a : α) (w : World) : (done a).trace w = [] := rfl

@[simp] theorem Program.run_request (r : Request) (w : World) :
    (Program.request r).run w = w.answer r := rfl

@[simp] theorem Program.trace_request (r : Request) (w : World) :
    (Program.request r).trace w = [⟨r, (w.answer r).1⟩] := rfl

/-- A run keeps what each of its requests keeps. -/
theorem Program.run_keeps {P : Request → Prop} {I : World → Prop} {p : Program α} {w : World}
    (h : ∀ x ∈ p.trace w, P x.request) (step : ∀ r w, P r → I w → I (w.answer r).2) (hw : I w) :
    I (p.run w).2 := by
  induction p generalizing w with
  | done a => exact hw
  | ask r next ih =>
    have hr : P r := h _ List.mem_cons_self
    exact ih _ (fun x hx => h x (List.mem_cons_of_mem _ hx)) (step r w hr hw)

/-! ## Programs that may fail -/

/-- A result that is mapped to a value was a value. -/
theorem map_eq_ok {ε α β : Type} {x : Except ε α} {f : α → β} {b : β} (h : x.map f = .ok b) :
    ∃ a, x = .ok a ∧ f a = b := by
  cases x with
  | error e => cases h
  | ok a => exact ⟨a, rfl, Except.ok.inj h⟩

/-- A result that is mapped to an error was that error. -/
theorem map_eq_error {ε α β : Type} {x : Except ε α} {f : α → β} {e : ε}
    (h : x.map f = .error e) : x = .error e := by
  cases x with
  | error e' => exact congrArg Except.error (Except.error.inj h)
  | ok a => cases h

/-- What comes after a program that ended with a value or with an error. -/
theorem Program.run_except_bind (x : ExceptT ε Program α) (f : α → ExceptT ε Program β)
    (w : World) : Program.run (ExceptT.run (x >>= f)) w = match Program.run (ExceptT.run x) w with
      | (.ok a, w') => Program.run (ExceptT.run (f a)) w'
      | (.error e, w') => (.error e, w') := by
  show Program.run (ExceptT.run x >>= _) w = _
  rw [Program.run_bind]
  rcases h : Program.run (ExceptT.run x) w with ⟨a | a, w'⟩ <;> rfl

theorem Program.trace_except_bind (x : ExceptT ε Program α) (f : α → ExceptT ε Program β)
    (w : World) : Program.trace (ExceptT.run (x >>= f)) w =
      Program.trace (ExceptT.run x) w ++ match Program.run (ExceptT.run x) w with
      | (.ok a, w') => Program.trace (ExceptT.run (f a)) w'
      | (.error _, _) => [] := by
  show Program.trace (ExceptT.run x >>= _) w = _
  rw [Program.trace_bind]
  rcases h : Program.run (ExceptT.run x) w with ⟨a | a, w'⟩ <;> rfl

/-! ## Actions -/

namespace Action

theorem run_bind (a : Action α) (f : α → Action β) (w : World) :
    (a >>= f).run w = match a.run w with
      | (.ok x, w') => (f x).run w'
      | (.error e, w') => (.error e, w') := by
  rw [run, run, Program.run_except_bind]
  rcases h : Program.run (ExceptT.run a) w with ⟨x | x, w'⟩ <;> rfl

theorem trace_bind (a : Action α) (f : α → Action β) (w : World) :
    (a >>= f).trace w = a.trace w ++ match a.run w with
      | (.ok x, w') => (f x).trace w'
      | (.error _, _) => [] := by
  rw [trace, trace, run, Program.trace_except_bind]
  rcases h : Program.run (ExceptT.run a) w with ⟨x | x, w'⟩ <;> rfl

theorem run_bind_pure (a : Action α) (f : α → β) (w : World) :
    (a >>= fun x => pure (f x)).run w = ((a.run w).1.map f, (a.run w).2) := by
  rw [run_bind]
  rcases a.run w with ⟨x | x, w'⟩ <;> rfl

theorem trace_bind_pure (a : Action α) (f : α → β) (w : World) :
    (a >>= fun x => pure (f x)).trace w = a.trace w := by
  rw [trace_bind]
  rcases a.run w with ⟨x | x, w'⟩ <;> exact List.append_nil _

theorem run_bind_ok {a : Action α} {w w' : World} {x : α} (f : α → Action β)
    (h : a.run w = (.ok x, w')) : (a >>= f).run w = (f x).run w' := by
  rw [run_bind, h]

theorem run_bind_error {a : Action α} {w w' : World} {e : Error} (f : α → Action β)
    (h : a.run w = (.error e, w')) : (a >>= f).run w = (.error e, w') := by
  rw [run_bind, h]

/-- What two parts answer is the answer of the second one after the first. -/
theorem run_bind_eq_ok {a : Action α} {f : α → Action β} {w w'' : World} {y : β}
    (h : (a >>= f).run w = (.ok y, w'')) :
    ∃ x w', a.run w = (.ok x, w') ∧ (f x).run w' = (.ok y, w'') := by
  rw [run_bind] at h
  rcases hrun : a.run w with ⟨e | x, w'⟩
  · rw [hrun] at h
    cases h
  · rw [hrun] at h
    exact ⟨x, w', rfl, h⟩

theorem run_tryCatch (a : Action α) (handle : Error → Action α) (w : World) :
    (tryCatch a handle).run w = match a.run w with
      | (.ok x, w') => (.ok x, w')
      | (.error e, w') => (handle e).run w' := by
  show Program.run (ExceptT.run a >>= _) w = _
  rw [Program.run_bind]
  show _ = match Program.run (ExceptT.run a) w with
    | (.ok x, w') => (Except.ok x, w')
    | (.error e, w') => (handle e).run w'
  rcases h : Program.run (ExceptT.run a) w with ⟨x | x, w'⟩ <;> rfl

@[simp] theorem run_pure (a : α) (w : World) : (pure a : Action α).run w = (.ok a, w) := rfl

@[simp] theorem trace_pure (a : α) (w : World) : (pure a : Action α).trace w = [] := rfl

@[simp] theorem run_throw (e : Error) (w : World) : (throw e : Action α).run w = (.error e, w) := rfl

@[simp] theorem trace_throw (e : Error) (w : World) : (throw e : Action α).trace w = [] := rfl

@[simp] theorem run_fail (cause : Cause) (w : World) :
    (fail cause : Action α).run w = (.error (.failure { cause := cause }), w) := rfl

@[simp] theorem trace_fail (cause : Cause) (w : World) : (fail cause : Action α).trace w = [] := rfl

@[simp] theorem run_request (r : Request) (w : World) :
    (request r).run w = (.ok (w.answer r).1, (w.answer r).2) := rfl

@[simp] theorem trace_request (r : Request) (w : World) :
    (request r).trace w = [⟨r, (w.answer r).1⟩] := rfl

@[simp] theorem run_log (e : Event) (w : World) :
    (log e).run w = (.ok (), { w with events := w.events ++ [e] }) := rfl

@[simp] theorem run_statement (s : Store.Statement) (w : World) :
    (statement s).run w = (.ok (w.runStatement s).1, (w.runStatement s).2) := rfl

theorem run_query (s : Store.Statement) (w : World) :
    (query s).run w = match w.runStatement s with
      | (.ok r, w') => (.ok r, w')
      | (.error fault, w') => (.error (.store fault), w') := by
  rw [query, run_bind, run_statement]
  rcases h : w.runStatement s with ⟨r | r, w'⟩ <;> rfl

theorem query_eq_ok {s : Store.Statement} {result : s.Result} {w' : World}
    (h : (query s).run w = (.ok result, w')) : (w.runStatement s).1 = .ok result := by
  rw [run_query] at h
  rcases hreply : w.runStatement s with ⟨fault | reply, w₁⟩
  · rw [hreply] at h
    cases h
  · rw [hreply] at h
    cases h
    rfl

theorem run_lift (p : Program α) (w : World) :
    Action.run (ExceptT.lift p) w = (.ok (p.run w).1, (p.run w).2) := by
  show Program.run (p >>= fun a => .done (Except.ok a : Except Error α)) w = _
  rw [Program.run_bind]
  rfl

theorem trace_lift (p : Program α) (w : World) :
    Action.trace (ExceptT.lift p) w = p.trace w := by
  show Program.trace (p >>= fun a => .done (Except.ok a : Except Error α)) w = _
  rw [Program.trace_bind]
  exact List.append_nil _

end Action

end Accounts
