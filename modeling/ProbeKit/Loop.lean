/-!
# Loops

A loop drives a state turn by turn.  A turn does what has become ready; when nothing is ready, time
may move to the next moment at which something is due.  `Loop.settle` runs turns until nothing is
ready, and `Loop.advance` does so at every due moment up to a given time.
-/

namespace ProbeKit

/-- How a state is driven. -/
structure Loop (σ : Type) where
  /-- Whether a turn has anything to do. -/
  busy : σ → Bool
  /-- One turn. -/
  turn : σ → σ
  /-- The next moment at which something is due. -/
  nextDue? : σ → Option Nat
  /-- The state at a later time. -/
  atTime : Nat → σ → σ
  /-- A bound for the number of turns, and of moments, before everything has come to rest. -/
  patience : σ → Nat

namespace Loop

variable {σ : Type} (l : Loop σ)

/-- At most so many turns, until nothing is ready. -/
def turns : Nat → σ → σ
  | 0, s => s
  | n + 1, s => if l.busy s then turns n (l.turn s) else s

/-- Turns until nothing is ready. -/
def settle (s : σ) : σ := l.turns (l.patience s) s

/-- Lets time pass up to a moment, through at most so many moments at which something is due. -/
def passing (moment : Nat) : Nat → σ → σ
  | 0, s => l.atTime moment s
  | n + 1, s =>
    match l.nextDue? s with
    | some due =>
      if due ≤ moment then passing moment n (l.settle (l.atTime due s)) else l.atTime moment s
    | none => l.atTime moment s

/-- Lets time pass up to a moment, settling at once and at every moment at which something is
due. -/
def advance (moment : Nat) (s : σ) : σ :=
  let s := l.settle s
  l.passing moment (l.patience s) s

end Loop

end ProbeKit
