import DngPreflight.Text.Basic

set_option relaxedAutoImplicit false
set_option autoImplicit false

/-!
# Messages

Messages as formatted strings: fixed and formatted text, and values shown by `repr`. The text
of a `repr` (quotes, escapes, the addresses of objects) is left to the reader of the message.

## Main definitions

* `Text.Fragment`, `Text.Message` — a message over a type of shown values.
-/

namespace Text

/-- A part of a message: text, or a value shown by `repr`. -/
inductive Fragment (ν : Type) where
  | text (s : Str)
  | repr (v : ν)
  deriving DecidableEq

/-- A message. -/
abbrev Message (ν : Type) := List (Fragment ν)

/-- A message of fixed text. -/
def Message.ofText {ν : Type} (s : Str) : Message ν := [.text s]

end Text
