import Accounts.Service.Program

/-!
# A world to run programs in

The state that programs run over: a clock that stands still while they run, the table of accounts,
the store of keys with or without a connection to it, the salt of new hashes, and the faults that
the next statements and commands will meet.

    run program world = (result, world afterwards)
-/

namespace Accounts

open Calendar

/-- The faults that statements and commands will meet, in their order; none means that all is
well. -/
structure Faults where
  sql : List (Option Store.Fault) := []
  get : List (Option Cache.Fault) := []
  setFor : List (Option Cache.Fault) := []
  delete : List (Option Cache.Fault) := []
  expire : List (Option Cache.Fault) := []
  ping : List (Option Cache.Fault) := []
  deriving DecidableEq

/-- A state of the world. -/
structure World where
  now : Instant
  table : Store.Table := []
  /-- The insertions that were tried. -/
  insertions : Nat := 0
  keys : Cache.Keyspace := []
  attached : Bool := false
  salt : String
  faults : Faults := {}
  events : List Event := []

namespace World

/-! ## Steps -/

/-- The identifier that the insertion of a number gives. -/
def insertionId (n : Nat) : Uuid :=
  Uuid.ofNat (0x70008000000000000000 + n % 0x1000000000000)

/-- A statement is an insertion. -/
def isInsertion : Store.Statement → Bool
  | .insert _ => true
  | _ => false

/-- Run a statement, unless it meets a fault.  An insertion that meets a fault has been tried. -/
def runStatement (w : World) (s : Store.Statement) : Except Store.Fault s.Result × World :=
  let insertions := if isInsertion s then w.insertions + 1 else w.insertions
  let faults := { w.faults with sql := w.faults.sql.drop 1 }
  match w.faults.sql.head?.join with
  | some fault => (.error fault, { w with insertions := insertions, faults := faults })
  | none =>
    let (result, table) := s.run w.now (insertionId insertions) w.table
    (result, { w with insertions := insertions, faults := faults, table := table })

/-- The fault that a command meets, and the faults after it. -/
def Faults.next (fs : Faults) : Cache.Command → Option Cache.Fault × Faults
  | .get _ => (fs.get.head?.join, { fs with get := fs.get.drop 1 })
  | .setFor .. => (fs.setFor.head?.join, { fs with setFor := fs.setFor.drop 1 })
  | .delete _ => (fs.delete.head?.join, { fs with delete := fs.delete.drop 1 })
  | .expire .. => (fs.expire.head?.join, { fs with expire := fs.expire.drop 1 })
  | .ping => (fs.ping.head?.join, { fs with ping := fs.ping.drop 1 })

/-- Run a command, unless there is no connection or it meets a fault. -/
def runCommand (w : World) (c : Cache.Command) : Cache.Outcome c.Result × World :=
  if !w.attached then (.detached, w)
  else
    match Faults.next w.faults c with
    | (some fault, faults) => (.failed fault, { w with faults := faults })
    | (none, faults) =>
      match c.run w.now w.keys with
      | (.ok r, keys) => (.ok r, { w with faults := faults, keys := keys })
      | (.error fault, keys) => (.failed fault, { w with faults := faults, keys := keys })

/-- Answer a request. -/
def answer (w : World) : (r : Request) → r.Reply × World
  | .clock => (w.now, w)
  | .salt => (w.salt, w)
  | .log event => ((), { w with events := w.events ++ [event] })
  | .sql s => w.runStatement s
  | .cache c => w.runCommand c
  | .connection attach => (w.attached, { w with attached := attach })

end World

/-- Run a program to its end. -/
def Program.run : Program α → World → α × World
  | done a, w => (a, w)
  | ask r next, w =>
    let (reply, w) := w.answer r
    (next reply).run w

/-- Run an action to its end. -/
def Action.run (a : Action α) (w : World) : Except Error α × World :=
  Program.run (ExceptT.run a) w

/-! ## Lemmas -/

theorem Program.run_bind (p : Program α) (f : α → Program β) (w : World) :
    (p >>= f).run w = (f (p.run w).1).run (p.run w).2 := by
  induction p generalizing w with
  | done a => rfl
  | ask r next ih => exact ih _ _

end Accounts
