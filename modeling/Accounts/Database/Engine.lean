import Accounts.Database.Url
import Accounts.Settings.Basic

/-!
# Connection pools

What the settings say about the pool of connections to the database.  The driver has to be known,
to be there and to be asynchronous, and a database in memory has no pool.
-/

namespace Accounts.Database

/-- Why there can be no pool. -/
inductive EngineFault where
  | unreadableUrl
  | badPort (text : List Char)
  | unknownDialect
  | missingDriver (name : String)
  | notAsynchronous
  | noPool (dialect : String)

/-- The wording of a fault, where it has one. -/
def EngineFault.message : EngineFault → String
  | badPort text =>
    "invalid literal for int() with base 10: " ++ String.ofList (Text.quoted text)
  | missingDriver name => "No module named '" ++ name ++ "'"
  | noPool dialect =>
    "Invalid argument(s) 'pool_size','max_overflow' sent to create_engine(), using configuration "
      ++ dialect ++ "/StaticPool/Engine.  Please check that the keyword arguments are "
      ++ "appropriate for this combination of components."
  | _ => ""

/-- A pool of connections. -/
structure Engine where
  dialect : String
  driver : String
  url : String
  poolSize : Int
  maxOverflow : Int
  prePing : Bool
  echo : Bool
  expireOnCommit : Bool

/-- The database of an address is in memory. -/
def Url.isInMemory (u : Url) : Bool :=
  match u.database with
  | none | some [] => true
  | some d => d = ":memory:".toList

/-- The dialect and driver of an address, as far as they can serve a pool. -/
def chooseDriver (u : Url) : Except EngineFault (String × String) :=
  match u.dialect with
  | ("postgresql", some "asyncpg") => .ok ("postgresql", "asyncpg")
  | ("postgresql", none) | ("postgresql", some "psycopg2") => .error (.missingDriver "psycopg2")
  | ("sqlite", some "aiosqlite") =>
    if u.isInMemory then .error (.noPool "SQLiteDialect_aiosqlite") else .ok ("sqlite", "aiosqlite")
  | ("sqlite", none) | ("sqlite", some "pysqlite") => .error .notAsynchronous
  | _ => .error .unknownDialect

/-- The pool that settings describe. -/
def Engine.ofSettings (s : Settings) : Except EngineFault Engine :=
  match Url.read s.databaseUrl with
  | .error .unreadable => .error .unreadableUrl
  | .error (.badPort text) => .error (.badPort text)
  | .ok u => do
    let (dialect, driver) ← chooseDriver u
    return ⟨dialect, driver, u.masked, s.dbPoolSize, s.dbMaxOverflow, true, false, false⟩

end Accounts.Database
