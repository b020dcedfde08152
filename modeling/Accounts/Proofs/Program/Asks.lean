import Accounts.Proofs.Program.Run

/-!
# What a program may ask for

A bound on the requests of a program that holds whatever the world answers.  From the bound follows
what every run keeps:

    p.Asks P → (every request with P keeps I) → I w → I (p.run w).2
    p.Asks P → x ∈ p.trace w → P x.request
-/

namespace Accounts

/-! ## Programs -/

namespace Program

/-- Every request of a program has a property, whatever the world answers. -/
inductive Asks (P : Request → Prop) : Program α → Prop where
  | done (a : α) : (done a).Asks P
  | ask {r : Request} {next : r.Reply → Program α} (here : P r)
      (later : ∀ reply, (next reply).Asks P) : (ask r next).Asks P

variable {P Q : Request → Prop}

theorem Asks.bind {p : Program α} {f : α → Program β} (hp : p.Asks P) (hf : ∀ a, (f a).Asks P) :
    (p >>= f).Asks P := by
  induction hp with
  | done a => exact hf a
  | ask here _ ih => exact .ask here ih

theorem Asks.mono {p : Program α} (h : ∀ r, P r → Q r) (hp : p.Asks P) : p.Asks Q := by
  induction hp with
  | done a => exact .done a
  | ask here _ ih => exact .ask (h _ here) ih

theorem Asks.of_mem_trace {p : Program α} {w : World} {x : Exchange} (hp : p.Asks P)
    (hx : x ∈ p.trace w) : P x.request := by
  induction hp generalizing w with
  | done a => cases hx
  | ask here _ ih =>
    rcases List.mem_cons.1 hx with rfl | hx
    · exact here
    · exact ih _ hx

/-- A run keeps what every request of the program keeps. -/
theorem Asks.run_keeps {p : Program α} {I : World → Prop} {w : World} (hp : p.Asks P)
    (step : ∀ r w, P r → I w → I (w.answer r).2) (hw : I w) : I (p.run w).2 :=
  Program.run_keeps (fun _ => hp.of_mem_trace) step hw

/-- Runs in related worlds end with the same result in related worlds, when every request of the
program gets the same reply and keeps the relation. -/
theorem Asks.run_simulates {p : Program α} {R : World → World → Prop} {w w' : World}
    (hp : p.Asks P)
    (step : ∀ r w w', P r → R w w' →
      (w.answer r).1 = (w'.answer r).1 ∧ R (w.answer r).2 (w'.answer r).2)
    (hw : R w w') : (p.run w).1 = (p.run w').1 ∧ R (p.run w).2 (p.run w').2 := by
  induction hp generalizing w w' with
  | done a => exact ⟨rfl, hw⟩
  | @ask r next here _ ih =>
    obtain ⟨hreply, hafter⟩ := step r w w' here hw
    show ((next (w.answer r).1).run (w.answer r).2).1 = ((next (w'.answer r).1).run (w'.answer r).2).1
      ∧ R ((next (w.answer r).1).run (w.answer r).2).2 ((next (w'.answer r).1).run (w'.answer r).2).2
    rw [← hreply]
    exact ih _ hafter

end Program

/-! ## Actions -/

namespace Action

/-- Every request of an action has a property, whatever the world answers. -/
def Asks (P : Request → Prop) (a : Action α) : Prop := Program.Asks P (ExceptT.run a)

variable {P Q : Request → Prop}

theorem asks_pure (a : α) : (pure a : Action α).Asks P := .done _

theorem asks_throw (e : Error) : (throw e : Action α).Asks P := .done _

theorem asks_fail (cause : Cause) : (fail cause : Action α).Asks P := .done _

theorem asks_request {r : Request} (h : P r) : (request r).Asks P := .ask h fun _ => .done _

theorem asks_log {e : Event} (h : P (.log e)) : (log e).Asks P := asks_request h

theorem Asks.bind {a : Action α} {f : α → Action β} (ha : a.Asks P) (hf : ∀ x, (f x).Asks P) :
    (a >>= f).Asks P := by
  refine Program.Asks.bind ha fun result => ?_
  cases result with
  | ok x => exact hf x
  | error e => exact .done _

theorem Asks.tryCatch {a : Action α} {handle : Error → Action α} (ha : a.Asks P)
    (hh : ∀ e, (handle e).Asks P) : (tryCatch a handle).Asks P := by
  refine Program.Asks.bind ha fun result => ?_
  cases result with
  | ok x => exact .done _
  | error e => exact hh e

theorem Asks.mono {a : Action α} (h : ∀ r, P r → Q r) (ha : a.Asks P) : a.Asks Q :=
  Program.Asks.mono h ha

theorem Asks.of_mem_trace {a : Action α} {w : World} {x : Exchange} (ha : a.Asks P)
    (hx : x ∈ a.trace w) : P x.request :=
  Program.Asks.of_mem_trace ha hx

theorem asks_query {s : Store.Statement} (h : P (.sql s)) : (query s).Asks P := by
  refine (asks_request h).bind fun reply => ?_
  cases reply with
  | ok r => exact asks_pure _
  | error fault => exact asks_throw _

end Action

/-! ## Bounds -/

/-- A request that is a statement of one class, a command of another, or neither; taking up or
giving up the connection is excluded. -/
def Request.Within (S : Store.Statement → Prop) (C : Cache.Command → Prop) : Request → Prop
  | .sql s => S s
  | .cache c => C c
  | .connection _ => False
  | .clock | .salt | .log _ => True

theorem Request.Within.mono {S S' : Store.Statement → Prop} {C C' : Cache.Command → Prop}
    (hS : ∀ s, S s → S' s) (hC : ∀ c, C c → C' c) (r : Request) (h : r.Within S C) :
    r.Within S' C' := by
  cases r with
  | sql s => exact hS s h
  | cache c => exact hC c h
  | connection b => exact h
  | clock | salt | log => trivial

end Accounts
