import Groundplan.Failure

/-!
# Integers in texts

The integer that a text stands for, where a text that is none is a failure to be passed on.

## Main definitions

* `integerOf`: the integer of a text
-/

namespace Groundplan

/-- The message for a text that is no integer. -/
def notDecimalMessage (part : String) : String :=
  "invalid literal for int() with base 10: " ++ Text.quoted part

/-- The message for an integer of too many digits. -/
def longIntegerMessage (digits : Nat) : String :=
  "Exceeds the limit (4300 digits) for integer string conversion: value has " ++ toString digits ++
    " digits; use sys.set_int_max_str_digits() to increase the limit"

/-- The integer that a text stands for, or why it stands for none. -/
def integerOf (part : String) : Answer Int :=
  match readInt part.toList with
  | .ok i => .ok i
  | .error .malformed => .error (.badValue (notDecimalMessage part))
  | .error (.tooLong n) => .error (.badValue (longIntegerMessage n))

end Groundplan
