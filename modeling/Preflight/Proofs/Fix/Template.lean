import Mathlib.Control.Monad.Basic
import Preflight.Fix.Template
import Preflight.Proofs.Check.Passing
import Preflight.Proofs.Check.Routes
import Preflight.Proofs.Text.Utf8

/-!
# What the checks find in a template

A template that some path comes to lead to means as little to the checks as a missing text
(`Template.isInert_content`): it has no routes, no token expiry to report, no dangerous construct
and no error handling, and it is no manifest. No pattern of a check matches the name of its file.
The template of `.env.example` has keys, and the environment check looks for them
(`Template.keys_envExample`).
-/

set_option autoImplicit false

namespace Preflight

open Check

/-! ## Inert texts -/

/-- The text sets no token expiry, or one that is short enough. -/
def isShortLived (chars : List Char) : Bool :=
  match Source.expiryForms.findSome? (·.find? chars) with
  | some found =>
    match Source.expirySeconds found.kept with
    | .ok expiry => expiry ≤ Auth.recommendedExpiry
    | .error _ => false
  | none => true

/-- The text is no value at all. -/
def isNoValue (chars : List Char) : Bool :=
  match Json.readAll chars with
  | .error (.malformed _) => true
  | _ => false

/-- No check finds anything in the text, and its characters are plain. -/
structure IsInert (chars : List Char) : Prop where
  noRoute : (Route.registrations.all fun kind => (kind.findAll chars).isEmpty) = true
  shortLived : isShortLived chars = true
  noHandling : Source.errorHandlingForms.any (·.occursIn chars) = false
  noOrigin : (Security.corsWord.occursIn chars && Security.allowsAnyOrigin chars) = false
  noEvaluation : Security.evaluatesCode chars = false
  noValue : isNoValue chars = true
  plain : chars.all Text.Utf8.isPlain = true

namespace IsInert

variable {code : String}

/-- An inert text registers no routes. -/
theorem extract_eq (h : IsInert code.toList) (file : String) : Route.extract code file = [] := by
  refine List.flatMap_eq_nil_iff.mpr fun kind hkind => ?_
  rw [Route.ofKind, List.isEmpty_iff.mp (List.all_eq_true.mp h.noRoute kind hkind), List.map_nil]

/-- An inert text sets no token expiry that is reported. -/
theorem expiry_eq (h : IsInert code.toList) :
    ∃ expiry, Source.expiry? code = .ok expiry ∧
      ∀ file, expiry.bind (Auth.expiryFinding? file) = none := by
  have hshort := h.shortLived
  unfold isShortLived at hshort
  unfold Source.expiry?
  cases hfound : Source.expiryForms.findSome? (·.find? code.toList) with
  | none => exact ⟨none, rfl, fun _ => rfl⟩
  | some found =>
    rw [hfound] at hshort
    cases hexpiry : Source.expirySeconds found.kept with
    | error stop => simp only [hexpiry, Bool.false_eq_true] at hshort
    | ok expiry =>
      simp only [hexpiry, decide_eq_true_eq] at hshort
      have hallowed : Auth.recommendedExpiry ≤ Auth.allowedExpiry := by decide
      refine ⟨some expiry, by simp only [hexpiry, Except.map], fun file => ?_⟩
      show Auth.expiryFinding? file expiry = none
      rw [Auth.expiryFinding?, if_neg (by omega), if_neg (by omega)]

/-- An inert text handles no errors. -/
theorem handlesErrors_eq (h : IsInert code.toList) : Source.handlesErrors code = false :=
  h.noHandling

/-- An inert text allows no origins. -/
theorem wildcard_eq (h : IsInert code.toList) (file : String) :
    (Security.Features.of file code).wildcard = false :=
  h.noOrigin

/-- An inert text evaluates no code. -/
theorem evaluates_eq (h : IsInert code.toList) (file : String) :
    (Security.Dangers.of file code).evaluates = false :=
  h.noEvaluation

/-- An inert text is no manifest. -/
theorem manifest_eq (h : IsInert code.toList) : Manifest.ofText code = .ok .malformed := by
  have hvalue := h.noValue
  unfold isNoValue at hvalue
  rw [Manifest.ofText, Json.parse]
  cases hread : Json.readAll code.toList with
  | ok value => simp only [hread, Bool.false_eq_true] at hvalue
  | error stop =>
    cases stop with
    | malformed left => rfl
    | _ => simp only [hread, Bool.false_eq_true] at hvalue

/-- An inert text is read as it was written. -/
theorem fileText_eq (h : IsInert code.toList) :
    Text.Utf8.fileText (Text.Utf8.encode code) = code :=
  Text.Utf8.fileText_encode (List.all_eq_true.mp h.plain)

end IsInert

namespace Template

/-! ## Templates are inert -/

/-- The text is that of the lines, each with its end. -/
theorem toList_content (t : Template) :
    t.content.toList = t.lines.flatMap fun line => line.toList ++ ['\n'] := by
  rw [content, String.toList_join, List.flatMap_map]
  simp only [String.toList_append]
  rfl

/-- **No check finds anything in a template.** -/
theorem isInert_content (t : Template) : IsInert t.content.toList := by
  rw [toList_content]
  -- The characters are written out before the patterns are run on them.
  cases t
  all_goals
    simp only [lines, List.flatMap_cons, List.flatMap_nil]
    repeat rw [String.toList_ofList]
    simp only [List.cons_append, List.nil_append]
    constructor <;> decide +kernel

/-- A template has the routes that a missing text has. -/
theorem routesOf_content (t : Template) (root path : Path) :
    Store.routesOf root path (some t.content) = Store.routesOf root path none := by
  simp only [Store.routesOf, t.isInert_content.extract_eq, ite_self]

/-- A template gives the authentication check what a missing text gives. -/
theorem reportOf_content (t : Template) (p : Project) (path : Path) :
    Auth.reportOf p path (some t.content) = Auth.reportOf p path none := by
  obtain ⟨expiry, hexpiry, hfinding⟩ := t.isInert_content.expiry_eq
  unfold Auth.reportOf
  split
  · rfl
  · rename_i code hcode
    obtain ⟨hsome, -⟩ := Option.filter_eq_some_iff.mp hcode
    cases hsome
    rw [hexpiry, t.routesOf_content]
    show Except.ok (Auth.FileReport.mk [] (expiry.bind _)) = Except.ok (Auth.FileReport.mk [] none)
    rw [hfinding]

/-- No pattern of a check matches the file of a template. -/
theorem isMatch_file (t : Template) : ∀ pattern ∈
    patterns true ++ mainFiles :: Layout.errorHandlerFiles ++ Security.securityFiles,
      (Glob.ofString pattern).isMatch t.file = false := by
  cases t <;> decide +kernel

/-! ## Templates as environment files -/

/-- The table of a template that is read as an environment file. -/
def table (t : Template) : Env.Table := .ofText t.content

/-- The keys of the example. -/
theorem keys_envExample : (table .envExample).keys =
    ["PORT", "NODE_ENV", "DATABASE_URL", "JWT_SECRET", "JWT_EXPIRY", "ALLOWED_ORIGINS"] := by
  rw [table, Env.Table.ofText, Env.statements, toList_content]
  simp only [lines, List.flatMap_cons, List.flatMap_nil]
  repeat rw [String.toList_ofList]
  simp only [List.cons_append, List.nil_append]
  decide +kernel

/-- A README sets nothing. -/
theorem keys_readme : (table .readme).keys = [] := by
  rw [table, Env.Table.ofText, Env.statements, toList_content]
  simp only [lines, List.flatMap_cons, List.flatMap_nil]
  repeat rw [String.toList_ofList]
  simp only [List.cons_append, List.nil_append]
  decide +kernel

end Template

end Preflight
