import Preflight.Finding.Message

/-!
# Findings

A finding is an issue, which blocks, or a warning, which advises. Its payload says what it is
about; what its message needs of the payload follows from its kind.
-/

set_option autoImplicit false

namespace Preflight

/-- How much a finding weighs. -/
inductive Severity
  | issue
  | warning
  deriving Repr, DecidableEq

/-- The name of the severity in a report. -/
def Severity.tag : Severity → String
  | .issue => "issue"
  | .warning => "warning"

/-- The severity with the tag. -/
def Severity.ofTag? (t : String) : Option Severity :=
  [Severity.issue, .warning].find? (·.tag == t)

/-- What a finding is about. -/
structure Payload where
  /-- A variable, package or module. -/
  subject : Option String := none
  /-- The verb of a route. -/
  method : Option String := none
  /-- The path of a route. -/
  path : Option String := none
  /-- A file, relative to the project. -/
  file : Option String := none
  line : Option Int := none
  /-- A duration or a list of names. -/
  detail : Option String := none
  deriving Repr, DecidableEq

/-- A single finding of a check. -/
structure Finding where
  kind : Kind
  severity : Severity
  payload : Payload
  deriving Repr, DecidableEq

/-- The part of the payload for the place of a piece; words need none. -/
def Payload.part? (p : Payload) : Piece → Option String
  | .words text => some text
  | .subject => p.subject
  | .method => p.method
  | .path => p.path
  | .file => p.file
  | .detail => p.detail

namespace Finding

/-- The sentence of the kind with the payload in its places; a missing part is `None`. -/
def message (f : Finding) : String :=
  String.join (f.kind.sentence.map fun piece => (f.payload.part? piece).getD "None")

/-- An issue. -/
def issue (kind : Kind) (payload : Payload := {}) : Finding := ⟨kind, .issue, payload⟩

/-- A warning. -/
def warning (kind : Kind) (payload : Payload := {}) : Finding := ⟨kind, .warning, payload⟩

end Finding

end Preflight
