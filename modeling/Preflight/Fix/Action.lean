import Preflight.Finding.Basic
import Preflight.Fix.Template

/-!
# Actions

What can be done about a finding: a file can be created from a template, or something can be
suggested. Findings are turned into actions in order, and an action that is there already is not
repeated.
-/

set_option autoImplicit false

namespace Preflight

/-- Something that can be done. -/
inductive Remedy
  | create (template : Template)
  | suggest (text : String)
  deriving Repr, DecidableEq

/-- What a remedy does, in words. -/
def Remedy.description : Remedy → String
  | .create template => "Create " ++ template.file ++ " file"
  | .suggest text => text

/-- A remedy for a finding. -/
structure Action where
  /-- The kind of the finding that the action is about. -/
  source : Kind
  remedy : Remedy
  deriving Repr, DecidableEq

/-- How to set protective headers. -/
def headerAdvice : String :=
  "Install and configure Helmet.js: npm install helmet && app.use(require(\"helmet\")())"

/-- How to restrict origins. -/
def originAdvice : String :=
  "Install and configure CORS: npm install cors && app.use(require(\"cors\")" ++
    "(\x7b origin: process.env.ALLOWED_ORIGINS?.split(\",\") \x7d))"

/-- How to limit rates. -/
def rateAdvice : String :=
  "Install express-rate-limit: npm install express-rate-limit && " ++
    "app.use(require(\"express-rate-limit\")(\x7b windowMs: 15 * 60 * 1000, max: 100 \x7d))"

/-- How to add a health endpoint. -/
def healthAdvice : String :=
  "Add health endpoint: app.get(\"/health\", (req, res) => " ++
    "res.json(\x7b status: \"ok\", timestamp: Date.now() \x7d))"

/-- How to make a secret. -/
def secretAdvice (name : String) : String :=
  "Generate a strong " ++ name ++
    " using: node -e \"console.log(require('crypto').randomBytes(32).toString('hex'))\""

namespace Finding

/-- The name of the subject; a missing one is `None`. -/
def subjectName (f : Finding) : String := f.payload.subject.getD "None"

/-- What can be done about a finding. -/
def remedy? (f : Finding) : Option Remedy :=
  match f.kind with
  | .envExampleMissing => some (.create .envExample)
  | .readmeMissing | .readmeTooShort | .readmeNoInstructions => some (.create .readme)
  | .weakSecret => some (.suggest (secretAdvice f.subjectName))
  | .missingEnvVar => some (.suggest ("Add " ++ f.subjectName ++ " to your .env file"))
  | .envFileMissing =>
    some (.suggest "Create your .env file from the template: cp .env.example .env")
  | .securityHeadersMissing => some (.suggest headerAdvice)
  | .corsWildcard | .corsMissing => some (.suggest originAdvice)
  | .rateLimitMissing => some (.suggest rateAdvice)
  | .missingHealthEndpoint => some (.suggest healthAdvice)
  | _ => none

/-- The action that a finding asks for. -/
def action? (f : Finding) : Option Action :=
  f.remedy?.map fun remedy => ⟨f.kind, remedy⟩

end Finding

namespace Action

/-- The actions with one more at the end, unless its remedy is there already. -/
def put (actions : List Action) (action : Action) : List Action :=
  if actions.any fun a => a.remedy = action.remedy then actions else actions ++ [action]

/-- The actions for findings, in the order of the findings. -/
def ofFindings (findings : List Finding) : List Action :=
  (findings.filterMap Finding.action?).foldl put []

end Action

end Preflight
