import Preflight.Service.Handler

/-!
# Answering calls

The service answers calls for its health and for a report. An answer is shown to pages of the
origins that are allowed, unless it is the answer to a failure that nothing took care of.
-/

set_option autoImplicit false

namespace Preflight.Service

/-- A call of the service. -/
structure Call where
  method : String
  path : String
  headers : List (String × String) := []
  body : String := ""

/-- The answer to a call, with what was fetched for it and the disk after it. -/
structure Answer where
  status : Nat
  /-- The origin to whose pages the answer is shown. -/
  allowed : Option String
  content : Content
  fetched : Option FetchOrder := none
  disk : Disk

/-! ## Calls -/

/-- A text in small letters; other characters than capital letters of the alphabet stay. -/
def smallLetters (text : String) : String := String.ofList (text.toList.map Char.toLower)

/-- The value of a header, whose name is written in capitals or not. -/
def Call.header? (c : Call) (name : String) : Option String :=
  (c.headers.find? fun (n, _) => smallLetters n == name).map (·.2)

/-- The method is the one with the name, which is in small letters. -/
def Call.is (c : Call) (method : String) : Bool := smallLetters c.method == method

/-- What is served. -/
inductive Resource
  | health
  | report
  deriving Repr, DecidableEq

namespace Resource

/-- The path at which something is served. -/
def path : Resource → String
  | health => "/health"
  | report => "/report"

/-- The method by which something is served. -/
def method : Resource → String
  | health => "get"
  | report => "post"

/-- What is served at a path: a query behind it and slashes at its end are left out. -/
def ofPath? (text : String) : Option Resource :=
  let place := text.toList.takeWhile fun c => c != '?' && c != '#'
  let place := String.ofList (place.reverse.dropWhile (· == '/')).reverse
  [health, report].find? (·.path == place)

end Resource

/-- The origins whose pages may see answers. -/
def allowedOrigins : List String :=
  ["http://localhost:5173", "http://localhost:3000", "http://localhost:8000"]

/-- The origin of a call, if it is allowed. -/
def Call.allowed? (c : Call) : Option String :=
  (c.header? "origin").filter allowedOrigins.contains

/-! ## Answers -/

/-- Handles a call. -/
def Call.handle (c : Call) (host : Host) (remote : Remote) : Handled :=
  match Resource.ofPath? c.path with
  | none => { reply := .ok .unknownPath, disk := host.disk }
  | some resource =>
    if c.is resource.method then
      match resource with
      | .health => { reply := .ok .healthy, disk := host.disk }
      | .report =>
        match ReportRequest.ofBody c.body with
        | .error reply => { reply := .ok reply, disk := host.disk }
        | .ok request => Service.handle host remote request
    else { reply := .ok .wrongMethod, disk := host.disk }

/-- Answers a call. The answer to a call for a head has no content. -/
def respond (host : Host) (remote : Remote) (c : Call) : Answer :=
  let handled := c.handle host remote
  let (reply, allowed) := match handled.reply with
    | .ok reply => (reply, c.allowed?)
    | .error _ => (.broken, none)
  { status := reply.status
    allowed
    content := if c.is "head" then .text "" else reply.content
    fetched := handled.fetched
    disk := handled.disk }

end Preflight.Service
