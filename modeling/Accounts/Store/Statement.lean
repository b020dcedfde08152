import Accounts.Number.Word
import Accounts.Store.Table

/-!
# Statements on the table

The statements that are run on the table, each in a transaction of its own: it takes effect as a
whole or fails and changes nothing.
-/

namespace Accounts.Store

open Calendar Number

/-- A statement. -/
inductive Statement where
  | insert (draft : Draft)
  | revise (id : Uuid) (details : Details)
  | remove (id : Uuid)
  | findById (id : Uuid)
  | findByEmail (email : LooseText)
  | probe
  deriving DecidableEq

/-- What a statement answers. -/
def Statement.Result : Statement → Type
  | insert _ => Row
  | revise .. => Option Row
  | remove _ => Bool
  | findById _ => Option Row
  | findByEmail _ => Option Row
  | probe => Unit

/-- Why a statement fails. -/
inductive Fault where
  /-- The database does not answer. -/
  | unavailable
  /-- A rule of the table would be broken. -/
  | conflict
  /-- The time for the request is over. -/
  | timedOut
  /-- The database cannot be reached. -/
  | refused
  /-- An integer does not fit a column. -/
  | integerTooLarge
  /-- A text has no bytes to hand over. -/
  | encoding (fault : EncodingFault)
  deriving DecidableEq, Repr

/-- The wording of a fault. -/
def Fault.message : Fault → String
  | unavailable => "database unavailable"
  | conflict => "UNIQUE constraint failed: accounts.email"
  | timedOut => "timed out"
  | refused => "connection refused"
  | integerTooLarge => "Python int too large to convert to SQLite INTEGER"
  | encoding fault => fault.message

/-- The database itself reports the fault. -/
def Fault.isReported : Fault → Bool
  | unavailable | conflict => true
  | _ => false

/-- An integer fits a column. -/
def fitsColumn (n : Option Int) : Bool :=
  match n with
  | some n => fitsWord 64 n
  | none => true

/-- The time of a row: whole seconds, without mention of the offset. -/
def stamp? (now : Instant) : Option DateTime :=
  DateTime.ofInstant? none (Instant.seconds now * second)

/-- What keeps values from being handed over: a broken text, or else an integer that is too large,
because the texts come first. -/
def bindFault? (isWhole : Bool) (postcode : Option Int) : Option Fault :=
  if !isWhole then some (.encoding .surrogate)
  else if !fitsColumn postcode then some .integerTooLarge
  else none

/-- Insert a draft under an identifier. -/
def insert (now : Instant) (id : Uuid) (draft : Draft) (t : Table) : Except Fault Row × Table :=
  match bindFault? draft.isWhole draft.postcode with
  | some fault => (.error fault, t)
  | none =>
    match draft.email, stamp? now with
    | some email, some time =>
      let row := draft.row id email time
      match t.insert? row with
      | some t' => (.ok row, t')
      | none => (.error .conflict, t)
    | _, _ => (.error .conflict, t)

/-- Make the changes of a revision. -/
def revise (now : Instant) (id : Uuid) (details : Details) (t : Table) :
    Except Fault (Option Row) × Table :=
  match bindFault? details.changes.isWhole details.changes.postcode with
  | some fault => (.error fault, t)
  | none =>
    match t.find? id with
    | none => (.ok none, t)
    | some row =>
      match stamp? now with
      | none => (.error .conflict, t)
      | some time =>
        let row := row.revised details time
        if t.takenByOther id row.profile.email then (.error .conflict, t)
        else (.ok (some row), t.replace id row)

/-- The row with an email. -/
def lookUp (email : LooseText) (t : Table) : Except Fault (Option Row) :=
  match email.whole with
  | .ok email => .ok (t.findEmail? email)
  | .error fault => .error (.encoding fault)

/-- Run a statement at a time, with the identifier that an insertion gives. -/
def Statement.run (now : Instant) (id : Uuid) :
    (s : Statement) → Table → Except Fault s.Result × Table
  | insert draft, t => Store.insert now id draft t
  | revise id details, t => Store.revise now id details t
  | remove id, t => (.ok (t.find? id).isSome, t.remove id)
  | findById id, t => (.ok (t.find? id), t)
  | findByEmail email, t => (lookUp email t, t)
  | probe, t => (.ok (), t)

end Accounts.Store
