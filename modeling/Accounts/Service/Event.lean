import Accounts.Cache.Keyspace
import Accounts.Service.Failure
import Accounts.Store.Statement
import Accounts.Text.Quoted
import Accounts.Token.Reader

/-!
# Events that are logged

Every event has a level, the part of the program that it comes from, and a text.  No event holds
a password or a hash.
-/

namespace Accounts

/-- An event. -/
inductive Event where
  | createConflict
  | accountCreated (id : Uuid)
  | updateConflict (id : Uuid)
  | accountUpdated (id : Uuid) (fields : List String)
  | rowDeleted (id : Uuid)
  | storeFailed (operation : String) (fault : Store.Fault)
  | tokenFailed (operation : String) (fault : Token.IssueFault)
  | lookupSkipped (operation : String) (fault : Store.Fault)
  | dropFailed (operation : String) (id : Uuid) (attempt : Nat)
  | invalidationFailed (operation : String) (id : Uuid)
  | populateFailed (operation : String) (id : Uuid)
  | accountRegistered (id : Uuid)
  | accountLogin (id : Uuid)
  | accountDeleted (id : Uuid)
  | passwordUnusable
  | cacheDisabled
  | cacheConnected
  | cacheUnreachable (fault : Cache.Fault)
  | cacheClosed
  | commandFailed (command : String) (fault : Cache.Fault)
  | cacheMiss (id : Uuid)
  | cacheHit (id : Uuid)
  | cacheUnreadable (id : Uuid)
  | cacheSet (id : Uuid)
  | cacheInvalidated (id : Uuid)
  | cacheExpired (id : Uuid)
  | tokenRejected (reason : String)
  | requestFailed (method path : String) (failure : Failure)
  | requestRejected (method path : String) (failure : Failure)
  | requestTimedOut (method path : String)
  | healthCheckFailed
  deriving DecidableEq

/-- The weight of an event. -/
inductive Level where
  | debug
  | info
  | warning
  | error
  deriving DecidableEq

/-- The name of a level. -/
def Level.name : Level → String
  | debug => "DEBUG"
  | info => "INFO"
  | warning => "WARNING"
  | error => "ERROR"

namespace Event

/-- The level of an event. -/
def level : Event → Level
  | createConflict | updateConflict _ | accountRegistered _ | accountLogin _ | accountDeleted _
  | cacheDisabled | cacheConnected | cacheClosed | tokenRejected _ | requestRejected .. => .info
  | accountCreated _ | accountUpdated .. | rowDeleted _ | cacheMiss _ | cacheHit _ | cacheSet _
  | cacheInvalidated _ | cacheExpired _ => .debug
  | lookupSkipped .. | dropFailed .. | populateFailed .. | passwordUnusable | cacheUnreachable _
  | commandFailed .. | cacheUnreadable _ | requestTimedOut .. => .warning
  | storeFailed .. | tokenFailed .. | invalidationFailed .. | requestFailed ..
  | healthCheckFailed => .error

/-- The part of the program that an event comes from. -/
def source : Event → String
  | createConflict | updateConflict _ | accountCreated _ | accountUpdated .. | rowDeleted _ =>
    "services.account_store"
  | storeFailed .. | tokenFailed .. | lookupSkipped .. | dropFailed .. | invalidationFailed ..
  | populateFailed .. | accountRegistered _ | accountLogin _ | accountDeleted _ =>
    "services.identity_service"
  | passwordUnusable => "core.passwords"
  | cacheDisabled | cacheConnected | cacheUnreachable _ | cacheClosed | commandFailed .. =>
    "core.redis"
  | cacheMiss _ | cacheHit _ | cacheUnreadable _ | cacheSet _ | cacheInvalidated _
  | cacheExpired _ => "core.account_cache"
  | tokenRejected _ => "api.dependencies"
  | requestFailed .. | requestRejected .. | requestTimedOut .. => "api.errors"
  | healthCheckFailed => "api.routers.health"

/-- A mention of an account. -/
def onAccount (id : Uuid) : String := " account_id=" ++ id.text

/-- A mention of a request. -/
def onRequest (method path : String) : String := " method=" ++ method ++ " path=" ++ path

/-- The text of an event. -/
def message : Event → String
  | createConflict => "account_create_conflict"
  | accountCreated id => "account_created" ++ onAccount id
  | updateConflict id => "account_update_conflict" ++ onAccount id
  | accountUpdated id fields =>
    "account_updated" ++ onAccount id ++ " fields=" ++ Text.quotedList fields
  | rowDeleted id => "account_deleted" ++ onAccount id
  | storeFailed operation fault => operation ++ " store failure: " ++ fault.message
  | tokenFailed operation fault => operation ++ " token issuance failed: " ++ fault.message
  | lookupSkipped operation fault =>
    operation ++ " email pre-check skipped: " ++ fault.message
  | dropFailed operation id attempt =>
    operation ++ " cache delete failed" ++ onAccount id ++ " attempt=" ++ Number.natText attempt
  | invalidationFailed operation id => operation ++ " cache invalidation failed" ++ onAccount id
  | populateFailed operation id => operation ++ " cache populate failed" ++ onAccount id
  | accountRegistered id => "account_registered" ++ onAccount id
  | accountLogin id => "account_login" ++ onAccount id
  | accountDeleted id => "account_deleted" ++ onAccount id
  | passwordUnusable => "password_verify_rejected_input"
  | cacheDisabled => "Redis disabled by configuration"
  | cacheConnected => "Redis connected successfully"
  | cacheUnreachable fault => "Redis connection failed: " ++ fault.message
  | cacheClosed => "Redis connection closed"
  | commandFailed command fault => "Redis " ++ command ++ " failed: " ++ fault.message
  | cacheMiss id => "account_cache_miss" ++ onAccount id
  | cacheHit id => "account_cache_hit" ++ onAccount id
  | cacheUnreadable id => "account_cache_undecodable" ++ onAccount id
  | cacheSet id => "account_cache_set" ++ onAccount id
  | cacheInvalidated id => "account_cache_invalidate" ++ onAccount id
  | cacheExpired id => "account_cache_expire" ++ onAccount id
  | tokenRejected reason => "token_rejected reason=" ++ reason
  | requestFailed method path failure =>
    "request_failed" ++ onRequest method path ++ " error=" ++ failure.text
  | requestRejected method path failure =>
    "request_rejected" ++ onRequest method path ++ " kind=" ++ failure.cause.kind.name
      ++ " error=" ++ failure.text
  | requestTimedOut method path => "request_timeout" ++ onRequest method path
  | healthCheckFailed => "Database health check failed"

/-- The line of an event. -/
def line (e : Event) : String := e.level.name ++ " " ++ e.source ++ " " ++ e.message

end Event

end Accounts
