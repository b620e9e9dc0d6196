import StepperMotion.Station.Control

/-!
# Raising timer matches

A drive stands in for the hardware that raises the matches of one timer. It looks at the timer once
a millisecond. A timer that runs at `f` hertz raises `2 * f` matches in a second; the drive raises
those of the millisecond in one burst, and carries the part of a match that is left over to the
next one. A burst ends early when a match is not served, for then the timer was stopped.
-/

namespace StepperMotion

/-- Raises the matches of one timer. -/
structure Drive where
  handle : Nat
  /-- The thousandths of a match that are left over. -/
  carry : Nat := 0
deriving DecidableEq, Repr

namespace Drive

/-- The drive a millisecond later, and how many matches it raises. -/
def advance (d : Drive) (timer : Timer) : Drive × Nat :=
  if timer.running then
    let due := d.carry + 2 * timer.freq
    ({ d with carry := due % 1000 }, due / 1000)
  else ({ d with carry := 0 }, 0)

end Drive

namespace Station

/-- Raises `n` matches of axis `h` until one is not served, and says how many were, if `served` had
been before. -/
def burst (s : Station) (h served : Nat) : Nat → Station × Nat
  | 0 => (s, served)
  | n + 1 =>
    match s.serveMatch h false with
    | (s, .ok true) => burst s h (served + 1) n
    | (s, _) => (s, served)

/-- Raises `n` matches of axis `h`, perhaps while it is held, and says how many were served, if
`served` had been before. -/
def serveMatches (s : Station) (h : Nat) (held : Bool) (served : Nat) :
    Nat → Station × Except Fault Nat
  | 0 => (s, .ok served)
  | n + 1 =>
    match s.serveMatch h held with
    | (s, .ok hit) => serveMatches s h held (served + hit.toNat) n
    | (s, .error f) => (s, .error f)

/-- Lets a drive work for a millisecond. -/
def drive (s : Station) (d : Drive) : Station × Drive :=
  match s.machine.axes[d.handle]? with
  | none => (s, d)
  | some a =>
    let (d, n) := d.advance a.board.timer
    ((s.burst d.handle 0 n).1, d)

end Station

end StepperMotion
