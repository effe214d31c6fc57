import Preflight.Check.RouteFiles
import Preflight.Manifest
import Preflight.Text.Alphanumeric
import Preflight.Verdict

/-!
# The security check

Looks for the middleware that protects a service (origins, headers, rates) and for dangerous
constructs (evaluated code, expressions built from input).
-/

set_option autoImplicit false

namespace Preflight.Check.Security

open Pattern

/-- Main, configuration and middleware files. -/
def securityFiles : List String :=
  [mainFiles, "**/config/**/*.\x7bjs,ts\x7d", "**/middleware/**/*.\x7bjs,ts\x7d"]

/-- The middleware for origins. -/
def corsWord : Pattern := wordAnyCase "cors"

/-- A call of that middleware. -/
def corsCall : Pattern :=
  wordAnyCase "cors" ++ blanks ++ char '(' ++ run (· != ')') ++ char ')'

/-- Every origin is allowed. -/
def anyOrigin : Pattern :=
  wordAnyCase "origin" ++ blanks ++ char ':' ++ blanks ++ one isPlainQuote ++ char '*' ++
    one isPlainQuote

/-- The middleware for headers. -/
def helmetWord : Pattern := wordAnyCase "helmet"

/-- Protective headers. -/
def headerWords : Pattern :=
  anyWord ["x-frame-options", "x-content-type-options", "x-xss-protection",
    "strict-transport-security"]

/-- The middleware for rates. -/
def rateLimitWords : Pattern := anyWord ["rateLimit", "rate-limit", "express-rate-limit", "limiter"]

/-- A call that evaluates code. -/
def evalCall : Pattern := wordAnyCase "eval" ++ blanks ++ char '('

/-- An expression put together at run time. -/
def builtExpression : Pattern := wordAnyCase "new RegExp(" ++ gap (· != ')') ++ char '+'

/-- The text evaluates code: the call stands at the start or after something that is no part of a
word. -/
def evaluatesCode (code : List Char) : Bool :=
  evalCall.startsAt code || (one (!Text.isWordChar ·) ++ evalCall).occursIn code

/-- The first call of the middleware for origins allows every origin. -/
def allowsAnyOrigin (code : List Char) : Bool :=
  (corsCall.find? code).any fun found => anyOrigin.occursIn found.text

/-- What one file gives for the protection of a service. -/
structure Features where
  file : String
  cors : Bool
  wildcard : Bool
  helmet : Bool
  headers : Bool
  rateLimit : Bool

/-- The features in the text of a file. -/
def Features.of (file code : String) : Features :=
  let chars := code.toList
  let hasCors := corsWord.occursIn chars
  let hasHelmet := helmetWord.occursIn chars
  { file
    cors := hasCors
    wildcard := hasCors && allowsAnyOrigin chars
    helmet := hasHelmet
    headers := hasHelmet || headerWords.occursIn chars
    rateLimit := rateLimitWords.occursIn chars }

/-- The dangerous constructs in a file. -/
structure Dangers where
  file : String
  evaluates : Bool
  builds : Bool

/-- The dangerous constructs in the text of a file. -/
def Dangers.of (file code : String) : Dangers :=
  { file, evaluates := evaluatesCode code.toList
    builds := builtExpression.occursIn code.toList }

/-- The result from the features and dangers of the files. -/
def verdict (features : List Features) (dangers : List Dangers) (declaresHelmet : Bool) : Verdict :=
  let hasCors := features.any (·.cors)
  let hasHeaders := features.any (·.headers)
  let hasRateLimit := features.any (·.rateLimit)
  let issues :=
    (features.filter (·.wildcard)).map
      (fun f => Finding.issue .corsWildcard { file := some f.file }) ++
    (if hasHeaders then [] else [Finding.issue .securityHeadersMissing]) ++
    (dangers.filter (·.evaluates)).map (fun d => Finding.issue .evalUsage { file := some d.file })
  let warnings :=
    (if declaresHelmet || features.any (·.helmet) then []
      else [Finding.warning .securityPackageMissing { subject := some "helmet" }]) ++
    (if hasCors then [] else [Finding.warning .corsMissing]) ++
    (if hasRateLimit then [] else [Finding.warning .rateLimitMissing]) ++
    (dangers.filter (·.builds)).map
      (fun d => Finding.warning .dynamicRegex { file := some d.file })
  let notes :=
    (if hasCors then ["CORS configured"] else []) ++
    (if hasHeaders then ["Security headers configured"] else []) ++
    (if hasRateLimit then ["Rate limiting detected"] else [])
  .ofFindings "security" issues warnings notes "Security configuration looks good"

/-- Looks at the texts of the files in turn; a missing or empty one is passed over. -/
def look {α : Type} (p : Project) (files : List Path) (of : String → String → α) :
    Scan (List α) := do
  let found ← Scan.forEach files fun path => do
    return (← Scan.code? path).map (of (p.relative path))
  return found.filterMap id

/-- Checks the security of a project. -/
def run (p : Project) : Scan Verdict := do
  let files ← p.find securityFiles
  let features ← look p (files.take p.limits.securityFeatureFiles) Features.of
  let manifest ← Manifest.load p.disk p.root
  let dangers ← look p (files.take p.limits.securityAntipatternFiles) Dangers.of
  return verdict features dangers (manifest.declares "helmet")

end Preflight.Check.Security
