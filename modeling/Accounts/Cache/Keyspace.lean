import Accounts.Assoc
import Accounts.Calendar.DateTime
import Accounts.Number.Binary64
import Accounts.Number.Word

/-!
# A store of keys with a lifetime

Texts under keys, each until an instant.  A key is gone from that instant on.
-/

namespace Accounts.Cache

open Calendar Number

/-- A text and the instant at which it is gone. -/
structure Entry where
  value : String
  expires : Instant
  deriving DecidableEq

/-- The seconds that an entry has left, to the nearest one. -/
def Entry.secondsLeft (e : Entry) (now : Instant) : Nat :=
  Binary64.roundDiv (e.expires - now).toNat second.toNat

/-- Texts under keys. -/
abbrev Keyspace := List (String × Entry)

namespace Keyspace

/-- The entry of a key that is still there. -/
def live? (ks : Keyspace) (now : Instant) (key : String) : Option Entry :=
  (Assoc.get? key ks).filter fun e => now < e.expires

/-- Put a text under a key. -/
def put (ks : Keyspace) (key : String) (e : Entry) : Keyspace := Assoc.set key e ks

/-- Take a key away. -/
def erase (ks : Keyspace) (key : String) : Keyspace := ks.filter fun p => p.1 ≠ key

/-- The entries that are still there. -/
def liveEntries (ks : Keyspace) (now : Instant) : Keyspace :=
  ks.filter fun p => now < p.2.expires

/-- Give a key that is there a new lifetime. -/
def expireAt (ks : Keyspace) (now : Instant) (key : String) (expires : Instant) : Keyspace :=
  match ks.live? now key with
  | some e => if expires ≤ now then ks.erase key else ks.put key { e with expires := expires }
  | none => ks

end Keyspace

/-! ## Commands -/

/-- A command to the store of keys. -/
inductive Command where
  | get (key : String)
  | setFor (key : String) (seconds : Int) (value : String)
  | delete (keys : List String)
  | expire (key : String) (seconds : Int)
  | ping
  deriving DecidableEq

/-- What a command answers. -/
def Command.Result : Command → Type
  | get _ => Option String
  | _ => Unit

/-- Why a command fails. -/
inductive Fault where
  | down
  | refused
  | slow
  | badLifetime (command : String)
  | notInteger
  | noKeys
  deriving DecidableEq, Repr

/-- The wording of a fault. -/
def Fault.message : Fault → String
  | down => "down"
  | refused => "refused"
  | slow => "slow"
  | badLifetime command => "invalid expire time in " ++ command
  | notInteger => "value is not an integer or out of range"
  | noKeys => "wrong number of arguments for 'del' command"

/-- The outcome of a command: there may be no connection to send it over. -/
inductive Outcome (α : Type) where
  | detached
  | failed (fault : Fault)
  | ok (a : α)

/-- The instant so many seconds from now, when its milliseconds can be counted. -/
def deadline? (now : Instant) (seconds : Int) : Option Instant :=
  let expires := now + seconds * second
  if fitsWord 64 (expires.fdiv 1000) then some expires else none

/-- Put a text under a key for a positive number of seconds. -/
def Keyspace.setFor (ks : Keyspace) (now : Instant) (key : String) (seconds : Int)
    (value : String) : Except Fault Unit × Keyspace :=
  if !fitsWord 64 seconds then (.error .notInteger, ks)
  else if seconds ≤ 0 then (.error (.badLifetime "setex"), ks)
  else
    match deadline? now seconds with
    | some expires => (.ok (), ks.put key ⟨value, expires⟩)
    | none => (.error (.badLifetime "setex"), ks)

/-- Give a key a number of seconds to live; without any left it is gone. -/
def Keyspace.expire (ks : Keyspace) (now : Instant) (key : String) (seconds : Int) :
    Except Fault Unit × Keyspace :=
  if !fitsWord 64 seconds then (.error .notInteger, ks)
  else
    match deadline? now seconds with
    | some expires => (.ok (), ks.expireAt now key expires)
    | none => (.error (.badLifetime "expire"), ks)

/-- Run a command. -/
def Command.run (now : Instant) : (c : Command) → Keyspace → Except Fault c.Result × Keyspace
  | get key, ks => (.ok ((ks.live? now key).map (·.value)), ks)
  | setFor key seconds value, ks => ks.setFor now key seconds value
  | delete [], ks => (.error .noKeys, ks)
  | delete (key :: keys), ks => (.ok (), (key :: keys).foldl Keyspace.erase ks)
  | expire key seconds, ks => ks.expire now key seconds
  | ping, ks => (.ok (), ks)

end Accounts.Cache
