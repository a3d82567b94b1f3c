namespace LendingGateway

/-!
# Timeouts

A timeout is kept exactly, in microseconds.  The clock ticks once a millisecond, so a
timeout takes effect at the first tick that is not before it.  Messages name it in whole
milliseconds.
-/

/-- How long to wait. -/
structure Timeout where
  micros : Nat
deriving DecidableEq, Repr

namespace Timeout

def ofMillis (millis : Nat) : Timeout :=
  ⟨millis * 1000⟩

/-- The tick at which a timeout takes effect. -/
def ticks (timeout : Timeout) : Nat :=
  (timeout.micros + 999) / 1000

/-- A timeout in whole milliseconds, rounded down. -/
def millis (timeout : Timeout) : Nat :=
  timeout.micros / 1000

def fourFifths (timeout : Timeout) : Timeout :=
  ⟨timeout.micros * 4 / 5⟩

@[simp]
theorem ticks_ofMillis (millis : Nat) : (ofMillis millis).ticks = millis := by
  simp only [ticks, ofMillis]
  omega

/-- A timeout takes effect at the first tick that is not before it. -/
theorem ticks_le_iff (timeout : Timeout) (tick : Nat) :
    timeout.ticks ≤ tick ↔ timeout.micros ≤ tick * 1000 := by
  unfold ticks
  omega

/-- Four fifths of any time at all are less than it. -/
theorem fourFifths_micros_lt {timeout : Timeout} (positive : 0 < timeout.micros) :
    timeout.fourFifths.micros < timeout.micros := by
  simp only [fourFifths]
  omega

end Timeout
end LendingGateway
