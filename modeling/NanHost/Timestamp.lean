/-!
# Points in time

A point in time is a count of milliseconds on the host's clock. Arithmetic stays within the clock:
adding stops at its last reading, and the time since a later point is zero.
-/

namespace NanHost

/-- Milliseconds on the host's clock. -/
structure Timestamp where
  millis : UInt64
  deriving DecidableEq

namespace Timestamp

instance : LE Timestamp := ⟨fun a b => a.millis ≤ b.millis⟩

instance (a b : Timestamp) : Decidable (a ≤ b) := inferInstanceAs (Decidable (a.millis ≤ b.millis))

/-- The last reading of the clock. -/
def last : Timestamp := ⟨UInt64.ofNat (UInt64.size - 1)⟩

/-- The point `millis` milliseconds later, or the clock's last reading if that comes first. -/
def addMillis (start : Timestamp) (millis : UInt64) : Timestamp :=
  if start.millis.toNat + millis.toNat < UInt64.size then ⟨start.millis + millis⟩ else last

/-- The milliseconds from `earlier` to `later`; zero if they stand the other way round. -/
def millisSince (later earlier : Timestamp) : UInt64 :=
  if earlier ≤ later then later.millis - earlier.millis else 0

/-- Adding never wraps: the result is the exact sum, cut off at the clock's last reading. -/
theorem toNat_addMillis (start : Timestamp) (millis : UInt64) :
    (start.addMillis millis).millis.toNat =
      min (start.millis.toNat + millis.toNat) (UInt64.size - 1) := by
  have readings : UInt64.size = 18446744073709551616 := rfl
  unfold addMillis
  split
  · rw [UInt64.toNat_add]; omega
  · simp only [last, UInt64.toNat_ofNat']; omega

end Timestamp

end NanHost
