import Accounts.Input.Scalar
import Accounts.Settings.Dotenv
import Accounts.Text.Lower

/-!
# Settings

The settings of the program are read from variables, whose names count in any case.  A variable
of the environment wins over one of a file.  All problems are reported, in the order of the
settings.
-/

namespace Accounts

open Calendar Input Number Text

/-- The settings of the program. -/
structure Settings where
  databaseUrl : String
  dbPoolSize : Int
  dbMaxOverflow : Int
  redisUrl : String
  redisEnabled : Bool
  redisPoolSize : Int
  redisSocketTimeout : Binary64
  accountCacheTtl : Int
  jwtSecretKey : String
  jwtExpireMinutes : Int
  cookieName : String
  cookieMaxAge : Int
  cookieSecure : Bool
  cookieHttpOnly : Bool
  requestTimeoutSeconds : Binary64
  corsOriginsText : String

namespace Settings

/-! ## Values -/

/-- The texts that mean yes. -/
def yesTexts : List String := ["1", "true", "t", "yes", "y", "on"]

/-- The texts that mean no. -/
def noTexts : List String := ["0", "false", "f", "no", "n", "off"]

/-- A switch. -/
def switch (s : String) : Checked Bool :=
  let s := s.toLower
  if yesTexts.contains s then .ok true
  else if noTexts.contains s then .ok false
  else .fail .booleanSyntax

/-- The digits of a decimal number, with a point somewhere and an exponent, and its value. -/
def decimalOfChars? (cs : List Char) : Option Binary64 :=
  let (negative, cs) := takeSign cs
  let isExponent (c : Char) : Bool := c == 'e' || c == 'E'
  let significand := cs.takeWhile fun c => !isExponent c
  let exponent : Option Int := match cs.dropWhile fun c => !isExponent c with
    | [] => some 0
    | _ :: rest =>
      let (negative, ds) := takeSign rest
      (ofDigits? ds).map (Binary64.signed negative)
  match significand.splitOn '.', exponent with
  | [whole], some e => (ofDigits? whole).map fun n => Binary64.ofDecimal negative n e
  | [whole, places], some e =>
    (ofDigits? (whole ++ places)).map fun n => Binary64.ofDecimal negative n (e - places.length)
  | _, _ => none

/-- The number that a word stands for. -/
def wordNumber? (cs : List Char) : Option Binary64 :=
  let (negative, cs) := takeSign cs
  let word := String.ofList (cs.map Char.toLower)
  if word = "inf" ∨ word = "infinity" then some (.infinite negative)
  else if word = "nan" then some .nan
  else none

/-- Two underscores stand side by side. -/
def hasDoubleUnderscore : List Char → Bool
  | a :: b :: rest => (a == '_' && b == '_') || hasDoubleUnderscore (b :: rest)
  | _ => false

/-- The text without single underscores in it. -/
def withoutUnderscores? (cs : List Char) : Option (List Char) :=
  if cs.head? = some '_' ∨ cs.getLast? = some '_' ∨ hasDoubleUnderscore cs then none
  else some (cs.filter (· ≠ '_'))

/-- A number. -/
def number (s : String) : Checked Binary64 :=
  match (withoutUnderscores? (trimList isWhiteSpace s.toList)).bind fun cs =>
      (decimalOfChars? cs).or (wordNumber? cs) with
  | some x => .ok x
  | none => .fail .numberSyntax

/-- The fewest characters of a signing secret. -/
def minSecretLength : Nat := 16

/-- A signing secret. -/
def secret (s : String) : Checked String :=
  if s.length < minSecretLength then
    .fail (.refused
      ("JWT_SECRET_KEY must be at least " ++ natText minSecretLength ++ " characters"))
  else .ok s

/-! ## Variables -/

/-- Variables by their names in lowercase. -/
abbrev Variables := List (String × String)

/-- Variables of the environment or a file by their names in lowercase; of several the last one
counts. -/
def Variables.ofPairs (pairs : List (String × Option String)) : Variables :=
  (Assoc.ofPairs (pairs.map fun (name, value) => (lower name, value))).filterMap
    fun (name, value) => value.map fun v => (name, v)

/-- The value of the first of several names that one of the sources has. -/
def lookup (sources : List Variables) (names : List String) : Option String :=
  names.findSome? fun name => sources.findSome? fun vs => Assoc.get? (lower name) vs

/-- A setting, with the value to use when no variable gives one. -/
def setting (sources : List Variables) (read : String → Checked α) (default : Option α)
    (name : String) (others : List String) : Checked α :=
  match lookup sources (name :: others), default with
  | some s, _ => (read s).at name
  | none, some value => .ok value
  | none, none => (Checked.fail .missing).at name

/-- A setting that is a text. -/
def plain (s : String) : Checked String := .ok s

/-- The settings that variables give. -/
def ofSources (sources : List Variables) : Checked Settings :=
  let of {α : Type} (read : String → Checked α) (default : Option α) (name : String) : Checked α :=
    setting sources read default name []
  Checked.of Settings.mk
    |>.apply (of plain none "database_url")
    |>.apply (of integerOfText (some 10) "DB_POOL_SIZE")
    |>.apply (of integerOfText (some 20) "DB_MAX_OVERFLOW")
    |>.apply (of plain (some "redis://localhost:6379") "REDIS_URL")
    |>.apply (of switch (some true) "REDIS_ENABLED")
    |>.apply (of integerOfText (some 20) "REDIS_POOL_SIZE")
    |>.apply (of number (some (.ofInt 2)) "REDIS_SOCKET_TIMEOUT")
    |>.apply (of integerOfText (some 3600) "ACCOUNT_CACHE_TTL")
    |>.apply (of secret none "JWT_SECRET_KEY")
    |>.apply (of integerOfText (some 60) "JWT_EXPIRE_MINUTES")
    |>.apply (of plain (some "jwt-token") "COOKIE_NAME")
    |>.apply (of integerOfText (some 3600) "COOKIE_MAX_AGE")
    |>.apply (of switch (some false) "COOKIE_SECURE")
    |>.apply (of switch (some true) "COOKIE_HTTP_ONLY")
    |>.apply (of number (some (.ofInt 15)) "REQUEST_TIMEOUT_SECONDS")
    |>.apply (setting sources plain (some "http://localhost:3000") "CORS_ORIGINS"
      ["cors_origins_str"])

/-- The settings of an environment and the text of a file of variables. -/
def read (environment : List (String × String)) (file : Option String) : Checked Settings :=
  ofSources
    [Variables.ofPairs (environment.map fun (name, value) => (name, some value)),
      Variables.ofPairs ((file.map (readFile environment)).getD [])]

/-! ## Origins -/

/-- The origins in a text, between commas. -/
def originsOf (s : String) : List String :=
  ((s.toList.splitOn ',').map fun piece => trimList isBlank piece).filterMap
    fun piece => if piece.isEmpty then none else some (String.ofList piece)

/-- The origins that other sites may call from. -/
def corsOrigins (s : Settings) : List String := originsOf s.corsOriginsText

/-! ## As JSON -/

/-- The settings by their names. -/
def json (s : Settings) : Json :=
  .obj [
    ("database_url", .str s.databaseUrl),
    ("db_pool_size", .int s.dbPoolSize),
    ("db_max_overflow", .int s.dbMaxOverflow),
    ("redis_url", .str s.redisUrl),
    ("redis_enabled", .bool s.redisEnabled),
    ("redis_pool_size", .int s.redisPoolSize),
    ("redis_socket_timeout", .float s.redisSocketTimeout),
    ("account_cache_ttl", .int s.accountCacheTtl),
    ("jwt_secret_key", .str s.jwtSecretKey),
    ("jwt_expire_minutes", .int s.jwtExpireMinutes),
    ("cookie_name", .str s.cookieName),
    ("cookie_max_age", .int s.cookieMaxAge),
    ("cookie_secure", .bool s.cookieSecure),
    ("cookie_http_only", .bool s.cookieHttpOnly),
    ("request_timeout_seconds", .float s.requestTimeoutSeconds),
    ("cors_origins_str", .str s.corsOriginsText)]

end Settings

end Accounts
