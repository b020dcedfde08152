import Accounts.Cache.Client
import Accounts.Database.Engine
import Accounts.World.Step

/-!
# Starting and stopping

The program starts with its settings: the pool of connections to the database is made, and the
connection to the cache is taken up when the cache is enabled.  A cache that does not answer stops
nothing.
-/

namespace Accounts

/-- Why the program does not start. -/
inductive StartFault where
  | engine (fault : Database.EngineFault)
  | cacheScheme
  | cachePoolSize

/-- The wording of a fault. -/
def StartFault.message : StartFault → String
  | engine fault => fault.message
  | cacheScheme =>
    "Redis URL must specify one of the following schemes (redis://, rediss://, unix://)"
  | cachePoolSize => "\"max_connections\" must be a positive integer"

/-- The schemes of addresses of caches. -/
def cacheSchemes : List String := ["redis://", "rediss://", "unix://"]

/-- What the settings of the cache are wrong about, when it is enabled. -/
def cacheFault? (s : Settings) : Option StartFault :=
  if !s.redisEnabled then none
  else if !cacheSchemes.any fun scheme => scheme.toList.isPrefixOf s.redisUrl.toList then
    some .cacheScheme
  else if s.redisPoolSize < 0 then some .cachePoolSize
  else none

/-- What keeps the program from starting with its settings. -/
def startFault? (s : Settings) : Option StartFault :=
  match Database.Engine.ofSettings s with
  | .error fault => some (.engine fault)
  | .ok _ => cacheFault? s

/-- What the steps of a run need to know of the settings; the room on the stack and the pages that
describe the interface are no settings.  The deadline of a request is not among it: the clock of a
world stands still while a request is answered, and a deadline that passes is a fault of a statement,
`Store.Fault.timedOut`. -/
def Setup.ofSettings (s : Settings) (room : Nat) (pages : Http.Page → String) : Setup where
  site := {
    identity := ⟨s.jwtSecretKey, s.jwtExpireMinutes, s.accountCacheTtl⟩
    cookie := ⟨s.cookieName, s.cookieMaxAge, s.cookieSecure, s.cookieHttpOnly⟩
    origins := s.corsOrigins
    room := room
    pages := pages }
  cacheEnabled := s.redisEnabled

/-- Start in a world, and give the events that are logged. -/
def start (setup : Setup) (faults : Faults) (w : World) : List Event × World :=
  let (_, events, w) := Step.runWith setup faults .connect w
  (events, w)

/-- Stop in a world, and give the events that are logged. -/
def stop (setup : Setup) (w : World) : List Event × World :=
  let (_, events, w) := Step.runWith setup {} .close w
  (events, w)

end Accounts
