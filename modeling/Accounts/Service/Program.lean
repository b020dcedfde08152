import Accounts.Service.Event

/-!
# Programs over the outside world

An operation of the service is a program: it is done with a result, or it asks the world for one
atomic step and goes on with the answer.  What happens between two steps is invisible, so that
programs can be interleaved step by step.

    ask (.sql statement) fun answer => …
-/

namespace Accounts

open Calendar

/-- One atomic step of the world. -/
inductive Request where
  /-- Read the clock. -/
  | clock
  /-- Get a salt for a new hash. -/
  | salt
  /-- Record an event. -/
  | log (event : Event)
  /-- Run a statement in a transaction of its own. -/
  | sql (statement : Store.Statement)
  /-- Send a command to the store of keys, if there is a connection. -/
  | cache (command : Cache.Command)
  /-- Take up or give up the connection to the store of keys; answers whether there was one. -/
  | connection (attach : Bool)
  deriving DecidableEq

/-- What the world answers. -/
def Request.Reply : Request → Type
  | clock => Instant
  | salt => String
  | log _ => Unit
  | sql s => Except Store.Fault s.Result
  | cache c => Cache.Outcome c.Result
  | connection _ => Bool

/-- A program that ends with a result. -/
inductive Program (α : Type) where
  | done (a : α)
  | ask (r : Request) (next : r.Reply → Program α)

namespace Program

/-- Go on with the result of a program. -/
def bind : Program α → (α → Program β) → Program β
  | done a, f => f a
  | ask r next, f => ask r fun reply => (next reply).bind f

instance : Monad Program where
  pure := done
  bind := bind

/-- The answer of the world to one request. -/
def request (r : Request) : Program r.Reply := ask r done

/-! ## Lemmas -/

@[simp] theorem pure_eq (a : α) : (pure a : Program α) = done a := rfl

@[simp] theorem done_bind (a : α) (f : α → Program β) : done a >>= f = f a := rfl

@[simp] theorem ask_bind (r : Request) (next : r.Reply → Program α) (f : α → Program β) :
    ask r next >>= f = ask r fun reply => next reply >>= f := rfl

theorem bind_done (p : Program α) : p >>= done = p := by
  induction p with
  | done a => rfl
  | ask r next ih => simp [ih]

theorem bind_assoc (p : Program α) (f : α → Program β) (g : β → Program γ) :
    p >>= f >>= g = p >>= fun a => f a >>= g := by
  induction p with
  | done a => rfl
  | ask r next ih => simp [ih]

instance : LawfulMonad Program :=
  LawfulMonad.mk' Program (fun p => bind_done p) (fun a f => done_bind a f)
    (fun p f g => bind_assoc p f g)

end Program

/-! ## Errors -/

/-- Why an action has no result. -/
inductive Error where
  | failure (f : Failure)
  | store (fault : Store.Fault)
  | token (fault : Token.IssueFault)
  | claims (fault : Token.Fault)
  /-- A text has no bytes to count or to hash. -/
  | encoding (fault : EncodingFault)
  deriving DecidableEq

/-- A program that may end with an error. -/
abbrev Action := ExceptT Error Program

namespace Action

/-- The answer of the world to one request. -/
def request (r : Request) : Action r.Reply := ExceptT.lift (Program.request r)

/-- Record an event. -/
def log (e : Event) : Action Unit := request (.log e)

/-- The outcome of a statement, with its fault as a value. -/
def statement (s : Store.Statement) : Action (Except Store.Fault s.Result) := request (.sql s)

/-- The result of a statement. -/
def query (s : Store.Statement) : Action s.Result := do
  match ← statement s with
  | .ok r => return r
  | .error fault => throw (.store fault)

/-- Fail for a cause. -/
def fail (cause : Cause) : Action α := throw (.failure { cause := cause })

end Action

end Accounts
