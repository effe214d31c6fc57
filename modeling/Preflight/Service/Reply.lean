import Preflight.Record.Report

/-!
# Replies

What the service replies, by cause, with the status and the content of each reply. Only
`Reply.report` and `Reply.healthy` have the status 200.
-/

set_option autoImplicit false

namespace Preflight.Service

open Json

/-- What the service replies. -/
inductive Reply
  /-- The service is up. -/
  | healthy
  | report (r : Report)
  /-- Nothing is served at the path. -/
  | unknownPath
  /-- The path is not served that way. -/
  | wrongMethod
  /-- The body of a request is not read. -/
  | unreadable
  /-- Fields of a request are refused. -/
  | refused (errors : List FieldError)
  /-- The path of a project leads to no directory. -/
  | noProject (path : String)
  /-- A project could not be fetched or validated. -/
  | validationFailed (failure : Failure)
  /-- A failure was met that nothing took care of. -/
  | broken
  deriving Repr, DecidableEq

/-- What a reply holds. -/
inductive Content
  | value (v : Value)
  /-- Refused fields, of which a client is told the way and the cause. -/
  | refusals (errors : List FieldError)
  | text (t : String)

namespace Reply

/-- The status of a reply. -/
def status : Reply → Nat
  | healthy | report _ => 200
  | unreadable | noProject _ => 400
  | unknownPath => 404
  | wrongMethod => 405
  | refused _ => 422
  | validationFailed _ | broken => 500

/-- A sentence as the content of a reply. -/
def detail (sentence : String) : Content := .value (.record [("detail", .string sentence)])

/-- The content of a reply. -/
def content : Reply → Content
  | healthy => .value (.record [("status", .string "ok")])
  | report r => .value (Record.ofReport r)
  | unknownPath => detail "Not Found"
  | wrongMethod => detail "Method Not Allowed"
  | unreadable => detail "There was an error parsing the body"
  | refused errors => .refusals errors
  | noProject path => detail ("Project path not found: " ++ path)
  | validationFailed failure => detail ("Validation failed: " ++ failure.message)
  | broken => .text "Internal Server Error"

end Reply

end Preflight.Service
