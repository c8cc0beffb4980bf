import Soap.Scalar
import Soap.Text.Integer
import Soap.Timestamp.Parser
import Soap.Value

/-!
# Reading leaves

`Value.coerce` reads the trimmed text of a leaf by the kind of its type. Text that is no number or
no timestamp stays a string; every text is a boolean. `Value.appendText` adds a later run of text to
what an earlier one became: strings concatenate, everything else is read afresh.
-/

namespace Soap.Value

open Soap.Text

def coerce (kind : ScalarKind) (text : String) : Value :=
  match kind with
  | .integer => ((leadingInt64? text.toList).map Value.int).getD (.string text)
  | .boolean => .bool (lower text == "true" || text == "1")
  | .dateTime => ((Timestamp.parse? text).map Value.dateTime).getD (.string text)
  | .text => .string text

/-- Add another run of text to the value of a leaf. -/
def appendText (kind : ScalarKind) (v : Value) (text : String) : Value :=
  match kind, v with
  | .text, .string existing => .string (existing ++ text)
  | _, _ => coerce kind text

@[simp] theorem coerce_text (text : String) : coerce .text text = .string text := rfl

/-- A text becomes a timestamp exactly when one of the notations reads it. -/
theorem coerce_dateTime_eq {text : String} {t : Timestamp} :
    coerce .dateTime text = .dateTime t ↔ Timestamp.parse? text = some t := by
  cases h : Timestamp.parse? text <;> simp [coerce, h]

end Soap.Value
