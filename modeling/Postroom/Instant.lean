/-!
Points in time. An instant counts nanoseconds from the Unix epoch and lies within
9223372036854775808 seconds of it, which are as many as 63 bits count, so adding a delay may fail.
The clock is always a value that the caller hands in.
-/

namespace Postroom

def nanosPerSecond : Nat := 1000000000

def nanosPerMilli : Nat := 1000000

structure Instant where
  /-- Nanoseconds since the epoch, negative before it. -/
  nanos : Int
  lower : -(9223372036854775808 * 1000000000) ≤ nanos
  upper : nanos < 9223372036854775808 * 1000000000
  deriving DecidableEq

namespace Instant

@[ext] theorem ext {a b : Instant} (h : a.nanos = b.nanos) : a = b := by
  cases a; cases b; simp_all

instance : Ord Instant := ⟨compareOn Instant.nanos⟩

instance : Std.TransOrd Instant := inferInstanceAs (Std.TransCmp (compareOn Instant.nanos))

instance : Std.LawfulEqOrd Instant where
  eq_of_compare h := ext (Std.LawfulEqOrd.eq_of_compare (α := Int) h)

instance : LE Instant := ⟨fun a b => a.nanos ≤ b.nanos⟩

instance : LT Instant := ⟨fun a b => a.nanos < b.nanos⟩

instance (a b : Instant) : Decidable (a ≤ b) := inferInstanceAs (Decidable (a.nanos ≤ b.nanos))

instance (a b : Instant) : Decidable (a < b) := inferInstanceAs (Decidable (a.nanos < b.nanos))

def ofNanos? (n : Int) : Option Instant :=
  if h : -(9223372036854775808 * 1000000000) ≤ n ∧ n < 9223372036854775808 * 1000000000 then
    some ⟨n, h.1, h.2⟩
  else none

def epoch : Instant := ⟨0, by decide, by decide⟩

instance : Inhabited Instant := ⟨epoch⟩

/-- The instant `ms` milliseconds after the epoch. -/
def ofMillis (ms : UInt64) : Instant where
  nanos := ms.toNat * 1000000
  lower := by omega
  upper := by have := ms.toNat_lt; omega

/-- The instant `delay` nanoseconds later, if there is one. -/
def after? (t : Instant) (delay : Nat) : Option Instant :=
  ofNanos? (t.nanos + delay)

/-- Whole milliseconds since the epoch, zero before it. Beyond 64 bits it is the largest number. -/
def millis (t : Instant) : UInt64 :=
  UInt64.ofNat (min (t.nanos.toNat / nanosPerMilli) (UInt64.size - 1))

/-- Whole seconds since the epoch, rounded down. -/
def seconds (t : Instant) : Int :=
  t.nanos.fdiv nanosPerSecond

/-- The earlier of two instants. -/
def earlier (a b : Instant) : Instant :=
  if a ≤ b then a else b

theorem not_le {a b : Instant} : ¬ a ≤ b ↔ b < a :=
  Int.not_le

theorem after?_eq_some {t u : Instant} {delay : Nat} (h : t.after? delay = some u) :
    u.nanos = t.nanos + delay := by
  simp only [after?, ofNanos?] at h
  split at h
  · cases h; rfl
  · cases h

end Instant

end Postroom
