/-!
# Parts of a text

A part of a text is a run of its characters. `holdsPart_iff` says that the search finds exactly
those: the text is something, the part, and something.
-/

set_option autoImplicit false

namespace Preflight.Text

/-- The characters of `part` stand somewhere in the text, one after the other. -/
def holdsPart (part : List Char) : List Char → Bool
  | [] => part.isEmpty
  | c :: rest => part.isPrefixOf (c :: rest) || holdsPart part rest

/-- The search finds a part exactly where there is one. -/
theorem holdsPart_iff {part text : List Char} : holdsPart part text = true ↔ part <:+: text := by
  induction text with
  | nil => simp [holdsPart]
  | cons c rest ih => simp [holdsPart, ih, List.infix_cons_iff]

/-- `part` stands somewhere in the text. -/
def mentions (part text : String) : Bool :=
  holdsPart part.toList text.toList

/-- The text begins with `start`. -/
def beginsWith (start text : String) : Bool :=
  start.toList.isPrefixOf text.toList

end Preflight.Text
