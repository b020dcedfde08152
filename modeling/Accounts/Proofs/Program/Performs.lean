import Accounts.Proofs.Program.Asks

/-!
# Programs with fixed statements

A program may run the same statements and send no command whatever the world answers.  What its
exchanges say about the database is then known before it runs:

    p.Performs ss  ->  statements of p.trace w = ss,  commands of p.trace w = []
-/

namespace Accounts

/-! ## What was exchanged -/

/-- The statement of an exchange. -/
def Exchange.statement? (x : Exchange) : Option Store.Statement :=
  match x.request with
  | .sql s => some s
  | _ => none

/-- The command of an exchange. -/
def Exchange.command? (x : Exchange) : Option Cache.Command :=
  match x.request with
  | .cache c => some c
  | _ => none

/-! ## Fixed statements -/

/-- Neither a statement nor a command. -/
def Request.IsQuiet : Request → Prop := Request.Within (fun _ => False) fun _ => False

/-- Every run of a program runs these statements one after the other, and sends no command. -/
inductive Program.Performs : List Store.Statement → Program α → Prop where
  | done (a : α) : Performs [] (.done a)
  | quiet {ss : List Store.Statement} {r : Request} {next : r.Reply → Program α} (here : r.IsQuiet)
      (later : ∀ reply, Performs ss (next reply)) : Performs ss (.ask r next)
  | statement {ss : List Store.Statement} {s : Store.Statement}
      {next : Except Store.Fault s.Result → Program α} (later : ∀ reply, Performs ss (next reply)) :
      Performs (s :: ss) (.ask (.sql s) next)

variable {ss ts : List Store.Statement}

namespace Program.Performs

theorem bind {p : Program α} {f : α → Program β} (hp : p.Performs ss)
    (hf : ∀ a, (f a).Performs ts) : (p >>= f).Performs (ss ++ ts) := by
  induction hp with
  | done a => exact hf a
  | quiet here _ ih => exact .quiet here ih
  | statement _ ih => exact .statement ih

/-- What comes after the statements runs none. -/
theorem bind_nil {p : Program α} {f : α → Program β} (hp : p.Performs ss)
    (hf : ∀ a, (f a).Performs []) : (p >>= f).Performs ss := by
  have h := hp.bind hf
  rwa [List.append_nil] at h

/-- What comes after a program that may fail runs no statement. -/
theorem except_bind {x : ExceptT ε Program α} {f : α → ExceptT ε Program β}
    (hx : Performs ss (ExceptT.run x)) (hf : ∀ a, Performs [] (ExceptT.run (f a))) :
    Performs ss (ExceptT.run (x >>= f)) := by
  refine bind_nil hx fun result => ?_
  cases result with
  | ok a => exact hf a
  | error e => exact .done _

/-- A program that asks for no statement and no command performs none. -/
theorem of_asks {p : Program α} (h : p.Asks Request.IsQuiet) : p.Performs [] := by
  induction h with
  | done a => exact .done a
  | ask here _ ih => exact .quiet here ih

theorem trace_statements {p : Program α} (h : p.Performs ss) (w : World) :
    (p.trace w).filterMap Exchange.statement? = ss := by
  induction h generalizing w with
  | done a => rfl
  | @quiet ss r next here _ ih =>
    have hnone : Exchange.statement? ⟨r, (w.answer r).1⟩ = none := by
      cases r <;> first | rfl | exact here.elim
    show List.filterMap _ (_ :: _) = ss
    rw [List.filterMap_cons_none hnone]
    exact ih _ _
  | @statement ss s next _ ih =>
    show List.filterMap _ (_ :: _) = s :: ss
    rw [List.filterMap_cons_some (show Exchange.statement? ⟨.sql s, _⟩ = some s from rfl)]
    exact congrArg (s :: ·) (ih _ _)

theorem trace_commands {p : Program α} (h : p.Performs ss) (w : World) :
    (p.trace w).filterMap Exchange.command? = [] := by
  induction h generalizing w with
  | done a => rfl
  | @quiet ss r next here _ ih =>
    have hnone : Exchange.command? ⟨r, (w.answer r).1⟩ = none := by
      cases r <;> first | rfl | exact here.elim
    show List.filterMap _ (_ :: _) = []
    rw [List.filterMap_cons_none hnone]
    exact ih _ _
  | @statement ss s next _ ih =>
    show List.filterMap _ (_ :: _) = []
    rw [List.filterMap_cons_none (show Exchange.command? ⟨.sql s, _⟩ = none from rfl)]
    exact ih _ _

end Program.Performs

/-! ## Actions -/

/-- An action performs statements, whether or not it fails. -/
def Action.Performs (ss : List Store.Statement) (a : Action α) : Prop :=
  Program.Performs ss (ExceptT.run a)

namespace Action

theorem Performs.bind {a : Action α} {f : α → Action β} (ha : a.Performs ss)
    (hf : ∀ x, (f x).Performs []) : (a >>= f).Performs ss :=
  Program.Performs.except_bind ha hf

theorem Performs.tryCatch {a : Action α} {handle : Error → Action α} (ha : a.Performs ss)
    (hh : ∀ e, (handle e).Performs []) : (tryCatch a handle).Performs ss := by
  refine Program.Performs.bind_nil ha fun result => ?_
  cases result with
  | ok x => exact .done _
  | error e => exact hh e

theorem performs_of_asks {a : Action α} (h : a.Asks Request.IsQuiet) : a.Performs [] :=
  .of_asks h

theorem performs_query (s : Store.Statement) : (query s).Performs [s] := by
  refine .statement fun reply => ?_
  cases reply with
  | ok r => exact .done _
  | error fault => exact .done _

end Action

end Accounts
