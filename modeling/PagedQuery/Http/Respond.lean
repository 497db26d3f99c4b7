import PagedQuery.Http.Target
import PagedQuery.Service

/-!
# Answering requests

The service over HTTP: `GET /v1` lists the entities, and `GET /v1/Product?pageSize=5` is a query. An
answer is a status and a body, which is JSON, an error with its status among it. `HEAD` is answered
like `GET`, without the body.

* `respond`: the answer to a request;
* `Error.status`: the status of an error. Where the caller is at fault it is one of the four
  hundreds.
-/

namespace PagedQuery

/-- The status of an error. -/
def Error.status (e : Error) : Nat :=
  match e with
  | unknownEntity _ => 404
  | e => if e.isCallerError then 400 else 500

namespace Http

/-- What a request wants done; of methods that mean nothing to the service, only that they are
    others matters. -/
inductive Method
  | get | head | options | other
deriving DecidableEq

/-- The method with a name. -/
def Method.ofName (name : String) : Method :=
  if name = "GET" then get
  else if name = "HEAD" then head
  else if name = "OPTIONS" then options
  else other

/-- An answer. -/
structure Response where
  status : Nat
  body : String
deriving DecidableEq

namespace Response

/-- An answer of which the status says everything. -/
def bare (status : Nat) : Response :=
  ⟨status, ""⟩

/-- The answer that an error is. -/
def ofError (e : Error) : Response :=
  ⟨e.status, (Json.object [("status", .integer e.status), ("error", .string e.message)]).compact⟩

/-- The answer that a result is. -/
def ofResult : Except Error Json → Response
  | .ok json => ⟨200, json.compact⟩
  | .error e => ofError e

/-- The answer to a segment that is no text. -/
def notText : Response :=
  ⟨400, "Invalid URL: Invalid UTF-8 in \x60entity\x60"⟩

end Response

/-- The list of entities in JSON. -/
def entitiesJson (names : List String) : Json :=
  .object [("entities", .array (names.map .string))]

/-- The answer to `GET` on a route. -/
def answer (service : Service) (route : Route) (params : List (String × String)) : Response :=
  match route with
  | .entities => .ofResult (service.provider.entities.map entitiesJson)
  | .entity segment =>
    match segment? segment with
    | none => .notText
    | some entity =>
      .ofResult ((service.query entity params).map fun page => (page.map Record.toJson).toJson)

/-- The answer to a request. `OPTIONS`, with which a browser asks for leave, is granted anywhere. -/
def respond (service : Service) (method : Method) (target : Target) : Response :=
  match method, Route.of? target.path with
  | .options, _ => .bare 200
  | _, none => .bare 404
  | .get, some route => answer service route target.params
  | .head, some route => .bare (answer service route target.params).status
  | .other, some _ => .bare 405

end Http

end PagedQuery
