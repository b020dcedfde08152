import Accounts.Http.Message

/-!
# Endpoints

Every endpoint has a method and a path.  Endpoints are tried in their order; the first one with
the method and the path of the request is taken.  Before them come the pages that describe the
interface.

    GET    /openapi.json, /docs, /docs/oauth2-redirect, /redoc    (also HEAD)
    GET    /health
    POST   /auth/register
    POST   /auth/login
    GET    /auth/me
    GET    /auth/:id
    PUT    /auth/:id
    DELETE /auth/:id
-/

namespace Accounts.Http

open Text

/-- An endpoint. -/
inductive Endpoint where
  | health
  | register
  | login
  | me
  | find
  | update
  | delete
  deriving DecidableEq

namespace Endpoint

/-- The endpoints in the order in which they are tried. -/
def all : List Endpoint := [health, register, login, me, find, update, delete]

/-- The method of an endpoint. -/
def method : Endpoint → String
  | health | me | find => "GET"
  | register | login => "POST"
  | update => "PUT"
  | delete => "DELETE"

/-- The path of an endpoint that has one path. -/
def path? : Endpoint → Option String
  | health => some "/health"
  | register => some "/auth/register"
  | login => some "/auth/login"
  | me => some "/auth/me"
  | find | update | delete => none

/-- The segment behind `/auth/`, if it is the last one and not empty. -/
def segment? (path : List Char) : Option (List Char) :=
  match after? "/auth/".toList path with
  | some segment => if segment.isEmpty ∨ '/' ∈ segment then none else some segment
  | none => none

/-- What the path of a request gives an endpoint as the identifier, if it is a path of the
endpoint.  A line end behind a path that is given as a whole is overlooked. -/
def argument? (path : List Char) (e : Endpoint) : Option (List Char) :=
  match e.path? with
  | some p => if path = p.toList ∨ path = p.toList ++ ['\n'] then some [] else none
  | none => segment? path

end Endpoint

/-- A page that describes the interface. -/
inductive Page where
  | schema
  | docs
  | redirect
  | redoc
  deriving DecidableEq

namespace Page

/-- All pages. -/
def all : List Page := [schema, docs, redirect, redoc]

/-- The path of a page. -/
def path : Page → String
  | schema => "/openapi.json"
  | docs => "/docs"
  | redirect => "/docs/oauth2-redirect"
  | redoc => "/redoc"

/-- The content type of a page. -/
def contentType : Page → String
  | schema => "application/json"
  | docs | redirect | redoc => "text/html; charset=utf-8"

/-- The page of a path.  A line end behind the path is overlooked. -/
def ofPath? (path : List Char) : Option Page :=
  all.find? fun p => path = p.path.toList ∨ path = p.path.toList ++ ['\n']

/-- The methods of all pages. -/
def methods : List String := ["GET", "HEAD"]

end Page

/-- Where a request leads to. -/
inductive Destination where
  | page (p : Page)
  /-- An endpoint, with the segment of the path that names an account. -/
  | endpoint (e : Endpoint) (argument : String)
  /-- The path is that of an endpoint for another method. -/
  | otherMethod (allowed : String)
  /-- The path without the slashes at its end is that of an endpoint. -/
  | shorter (target : Target)
  | nowhere

/-- The path without the slashes at its end, if it has any and is longer. -/
def shorterPath? (path : List Char) : Option (List Char) :=
  if path ≠ ['/'] ∧ path.getLast? = some '/' then some (path.reverse.dropWhile (· = '/')).reverse
  else none

/-- A page or an endpoint has a path. -/
def isKnown (path : List Char) : Bool :=
  (Page.ofPath? path).isSome || Endpoint.all.any fun e => (e.argument? path).isSome

/-- Where a request leads to among the endpoints. -/
def Request.endpoint (r : Request) : Destination :=
  let matching := Endpoint.all.filterMap fun e => (e.argument? r.target.path).map fun a => (e, a)
  match matching.find? fun p => p.1.method = r.method, matching with
  | some (e, argument), _ => .endpoint e (String.ofList argument)
  | none, (e, _) :: _ => .otherMethod e.method
  | none, [] =>
    match shorterPath? r.target.path with
    | some path => if isKnown path then .shorter { r.target with path := path } else .nowhere
    | none => .nowhere

/-- Where a request leads to. -/
def Request.destination (r : Request) : Destination :=
  match Page.ofPath? r.target.path with
  | some page =>
    if r.method ∈ Page.methods then .page page
    else .otherMethod (String.intercalate ", " Page.methods)
  | none => r.endpoint

end Accounts.Http
