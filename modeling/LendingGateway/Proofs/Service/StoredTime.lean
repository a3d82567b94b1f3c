import LendingGateway.Service.Timeout
import Mathlib.Algebra.Group.Nat.Defs

namespace LendingGateway

/-!
# Timeouts as they are stored

A timeout is stored as whole seconds in sixty-four bits and the nanoseconds that are left.
A multiple of it may have more seconds than fit, and a part of it is rounded down.  Neither
happens on the way from a number of milliseconds to four fifths of it, so the deadline of a
listing is the exact one.
-/

structure StoredTime where
  seconds : Nat
  nanos : Nat
  seconds_lt : seconds < 2 ^ 64
  nanos_lt : nanos < 10 ^ 9

namespace StoredTime

def totalNanos (time : StoredTime) : Nat :=
  time.seconds * 10 ^ 9 + time.nanos

def ofMillis (millis : UInt64) : StoredTime where
  seconds := millis.toNat / 1000
  nanos := millis.toNat % 1000 * 10 ^ 6
  seconds_lt := by
    have small := millis.toNat_lt
    omega
  nanos_lt := by omega

/-- A multiple, unless it has too many seconds. -/
def times? (factor : Nat) (time : StoredTime) : Option StoredTime :=
  let seconds := time.seconds * factor + time.nanos * factor / 10 ^ 9
  if fits : seconds < 2 ^ 64 then
    some ⟨seconds, time.nanos * factor % 10 ^ 9, fits, Nat.mod_lt _ (by decide)⟩
  else none

/-- A part, rounded down to nanoseconds. -/
def part (divisor : Nat) (positive : 0 < divisor) (time : StoredTime) : StoredTime where
  seconds := time.seconds / divisor
  nanos := (time.seconds % divisor * 10 ^ 9 + time.nanos) / divisor
  seconds_lt := Nat.lt_of_le_of_lt (Nat.div_le_self _ _) time.seconds_lt
  nanos_lt := by
    apply Nat.div_lt_of_lt_mul
    have below : time.seconds % divisor + 1 ≤ divisor := Nat.mod_lt _ positive
    calc time.seconds % divisor * 10 ^ 9 + time.nanos
        < time.seconds % divisor * 10 ^ 9 + 10 ^ 9 := Nat.add_lt_add_left time.nanos_lt _
      _ = (time.seconds % divisor + 1) * 10 ^ 9 := (Nat.succ_mul _ _).symm
      _ ≤ divisor * 10 ^ 9 := Nat.mul_le_mul_right _ below

theorem totalNanos_ofMillis (millis : UInt64) :
    (ofMillis millis).totalNanos = millis.toNat * 10 ^ 6 := by
  simp only [totalNanos, ofMillis]
  omega

theorem totalNanos_times? {factor : Nat} {time multiple : StoredTime}
    (multiplied : time.times? factor = some multiple) :
    multiple.totalNanos = time.totalNanos * factor := by
  unfold times? at multiplied
  dsimp only at multiplied
  split at multiplied
  · cases multiplied
    simp only [totalNanos, Nat.add_mul, Nat.mul_right_comm _ (10 ^ 9) factor]
    have whole := Nat.div_add_mod (time.nanos * factor) (10 ^ 9)
    omega
  · cases multiplied

theorem totalNanos_part (divisor : Nat) (positive : 0 < divisor) (time : StoredTime) :
    (time.part divisor positive).totalNanos = time.totalNanos / divisor := by
  have whole : time.totalNanos =
      time.seconds % divisor * 10 ^ 9 + time.nanos +
        divisor * (time.seconds / divisor * 10 ^ 9) := by
    calc time.totalNanos
        = (time.seconds % divisor + divisor * (time.seconds / divisor)) * 10 ^ 9 + time.nanos := by
          rw [Nat.mod_add_div, totalNanos]
      _ = _ := by
          rw [Nat.add_mul, Nat.mul_assoc, Nat.add_right_comm]
  rw [whole, Nat.add_mul_div_left _ _ positive, Nat.add_comm]
  rfl

/-- A multiple fits if there are seconds to spare for what the nanoseconds add to it. -/
theorem times?_isSome {factor : Nat} {time : StoredTime}
    (spare : (time.seconds + 1) * factor ≤ 2 ^ 64) (positive : 0 < factor) :
    (time.times? factor).isSome = true := by
  have carried : time.nanos * factor / 10 ^ 9 < factor := by
    apply Nat.div_lt_of_lt_mul
    exact Nat.mul_lt_mul_of_pos_right time.nanos_lt positive
  have fits : time.seconds * factor + time.nanos * factor / 10 ^ 9 < 2 ^ 64 := by
    rw [Nat.succ_mul] at spare
    omega
  unfold times?
  rw [dif_pos fits]
  rfl

/-- Four fifths of a number of milliseconds can be taken in the stored form, and they are
the exact ones. -/
theorem fourFifths_ofMillis (millis : UInt64) :
    ∃ multiple, (ofMillis millis).times? 4 = some multiple ∧
      (multiple.part 5 (by decide)).totalNanos =
        (Timeout.ofMillis millis.toNat).fourFifths.micros * 1000 := by
  have spare : ((ofMillis millis).seconds + 1) * 4 ≤ 2 ^ 64 := by
    have small := millis.toNat_lt
    simp only [ofMillis]
    omega
  rcases Option.isSome_iff_exists.mp (times?_isSome spare (by decide)) with ⟨multiple, multiplied⟩
  refine ⟨multiple, multiplied, ?_⟩
  rw [totalNanos_part, totalNanos_times? multiplied, totalNanos_ofMillis]
  simp only [Timeout.fourFifths, Timeout.ofMillis]
  omega

end StoredTime
end LendingGateway
