import DngPreflight.Text.Basic

set_option relaxedAutoImplicit false
set_option autoImplicit false

/-!
# Commands that probes run

What a probe learns from a command of the host that it runs.

## Main definitions

* `DngPreflight.Discovery.Outcome` — the outcome of a command.
* `DngPreflight.Discovery.startsWith`, `DngPreflight.Discovery.contains` — tests on its output.
-/

namespace DngPreflight.Discovery

open Text

/-- The outcome of `subprocess.run`: the command exits with a code after it has printed some text,
or it exceeds its time limit or cannot be started. Output that cannot be decoded, for which
`subprocess.run` raises `UnicodeDecodeError` outside the handlers of the probes, is not modelled:
what a command prints is assumed to be text. -/
inductive Outcome where
  | exited (returncode : ℤ) (stdout : Str)
  | failed
  deriving DecidableEq

/-- `str.startswith`. -/
def startsWith (s pre : Str) : Bool := pre.isPrefixOf s

/-- A text starts with a character that is its first one. -/
lemma startsWith_singleton {c : Char} {s : Str} : startsWith s [c] = true ↔ s.head? = some c := by
  cases s with
  | nil => simp [startsWith]
  | cons d s =>
    simp only [startsWith, List.isPrefixOf, Bool.and_true, beq_iff_eq, List.head?_cons,
      Option.some.injEq]
    exact eq_comm

/-- `sub in s`. -/
def contains (s sub : Str) : Bool := s.tails.any fun t => startsWith t sub

/-- `str.lower` on ASCII letters, other characters being left alone. Of those only the Kelvin sign
becomes a single ASCII letter, and no text that a probe looks for has a `k`; where a probe returns
the result, what a command prints is assumed to be ASCII text. -/
def lower (s : Str) : Str := s.map Char.toLower

end DngPreflight.Discovery
