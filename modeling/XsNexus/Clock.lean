import Mathlib.Tactic

namespace XsNexus

/-- `Duration::from_secs`; instants and durations are counted in nanoseconds. -/
def durationFromSecs (seconds : Nat) : Nat := seconds * 10 ^ 9

def durationFromMillis (millis : Nat) : Nat := millis * 10 ^ 6

def saturatingDurationSince (now earlier : Nat) : Nat := now - earlier

/-- What one call reads of the monotonic and of the Unix clock. -/
structure Clock where
  instant : Nat
  unixTime : UInt64
deriving DecidableEq

/-- Both readings are of one time line: the Unix clock is the monotonic one, shifted, in whole
seconds. -/
def Clock.Synchronous (offset : Nat) (clock : Clock) : Prop :=
  clock.unixTime.toNat = (offset + clock.instant) / 10 ^ 9

instance (offset : Nat) (clock : Clock) : Decidable (clock.Synchronous offset) :=
  inferInstanceAs (Decidable (_ = _))

theorem Clock.Synchronous.advance {offset : Nat} {earlier later : Clock}
    (he : earlier.Synchronous offset) (hl : later.Synchronous offset) {seconds : Nat}
    (h : earlier.instant + durationFromSecs seconds ≤ later.instant) :
    earlier.unixTime.toNat + seconds ≤ later.unixTime.toNat := by
  unfold Clock.Synchronous durationFromSecs at *
  omega

end XsNexus
