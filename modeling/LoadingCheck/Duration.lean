/-!
# Durations

A duration is a number of nanoseconds.

## Main definitions

* `LoadingCheck.Duration` — durations, in order of their length.
* `LoadingCheck.Duration.ofMillis`, `LoadingCheck.Duration.millis`.
-/

namespace LoadingCheck

/-- A length of time. -/
structure Duration where
  nanos : Nat
  deriving DecidableEq, Repr

namespace Duration

/-- The duration of so many milliseconds. -/
def ofMillis (n : Nat) : Duration :=
  ⟨n * 1000000⟩

/-- The duration of so many seconds and nanoseconds. -/
def ofSeconds (seconds nanos : Nat) : Duration :=
  ⟨seconds * 1000000000 + nanos⟩

/-- The whole milliseconds in the duration. -/
def millis (d : Duration) : Nat :=
  d.nanos / 1000000

@[simp]
theorem millis_ofMillis (n : Nat) : (ofMillis n).millis = n :=
  Nat.mul_div_cancel n (by decide)

/-- The whole milliseconds in the duration as a number of 64 bits; bits above are lost. -/
def millisWord (d : Duration) : Nat :=
  d.millis % 0x1_0000_0000_0000_0000

/-- The whole seconds in the duration. -/
def seconds (d : Duration) : Nat :=
  d.nanos / 1000000000

/-- The nanoseconds past the last whole second. -/
def subsecond (d : Duration) : Nat :=
  d.nanos % 1000000000

/-- A duration is its whole seconds and the nanoseconds past them. -/
@[simp]
theorem ofSeconds_seconds_subsecond (d : Duration) : ofSeconds d.seconds d.subsecond = d := by
  obtain ⟨n⟩ := d
  simp only [ofSeconds, seconds, subsecond]
  congr 1
  omega

instance : LE Duration := ⟨fun a b => a.nanos ≤ b.nanos⟩

instance (a b : Duration) : Decidable (a ≤ b) :=
  inferInstanceAs (Decidable (a.nanos ≤ b.nanos))

end Duration

end LoadingCheck
