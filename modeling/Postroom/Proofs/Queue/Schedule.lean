import Postroom.Proofs.Queue.Durability
import Postroom.Proofs.Queue.Refinement

/-!
The arithmetic of schedules. A mail is due when its delay is over, or at the latest time that a key
can hold, even if the sum is no instant. A key holds that time rounded down to the millisecond, so
what is read from it is less than a millisecond early, and what it holds is read back as it is. A
longer delay is never over earlier.
-/

namespace Postroom

namespace Instant

/-- Whole milliseconds, unless the instant lies before the epoch or beyond what 64 bits count. -/
theorem toNat_millis (t : Instant) :
    t.millis.toNat = min (t.nanos.toNat / nanosPerMilli) (UInt64.size - 1) := by
  have hsize : UInt64.size = 18446744073709551616 := rfl
  exact UInt64.toNat_ofNat_of_lt' (by omega)

/-- A later instant has no fewer milliseconds. -/
theorem millis_le_millis {a b : Instant} (h : a ≤ b) : a.millis ≤ b.millis := by
  have h : a.nanos ≤ b.nanos := h
  have hdiv : a.nanos.toNat / nanosPerMilli ≤ b.nanos.toNat / nanosPerMilli :=
    Nat.div_le_div_right (by omega)
  rw [UInt64.le_iff_toNat_le, toNat_millis, toNat_millis]
  omega

/-- The start of the millisecond is less than a millisecond before an instant after the epoch. -/
theorem floor_bounds {t : Instant} (h : epoch ≤ t) :
    t.floor ≤ t.nanos ∧ t.nanos - t.floor < nanosPerMilli := by
  have h : 0 ≤ t.nanos := h
  have hmod := Nat.mod_add_div t.nanos.toNat nanosPerMilli
  have hlt := Nat.mod_lt t.nanos.toNat (show 0 < nanosPerMilli by decide)
  have hcomm := Nat.mul_comm nanosPerMilli (t.nanos.toNat / nanosPerMilli)
  unfold floor
  omega

end Instant

namespace RecordKey

theorem nanos_time (key : RecordKey) : key.time.nanos = key.notBefore.toNat * nanosPerMilli := rfl

/-- Whether a key holds a time in whole milliseconds, less than a millisecond of which is lost. -/
structure Rounds (key : RecordKey) (due : Instant) : Prop where
  millis : key.notBefore.toNat = due.nanos.toNat / nanosPerMilli
  nonneg : 0 ≤ due.nanos - key.time.nanos
  lt : due.nanos - key.time.nanos < nanosPerMilli

/-- The key of a time after the epoch, up to the latest one, rounds it down. -/
theorem rounds_scheduled {due : Instant} (hepoch : .epoch ≤ due) (hlatest : due ≤ latest)
    (id : MailId) :
    (scheduled id due).Rounds due := by
  obtain ⟨hdown, hless⟩ := Instant.floor_bounds hepoch
  rw [← time_scheduled hlatest id] at hdown hless
  refine ⟨?_, Int.sub_nonneg_of_le hdown, hless⟩
  have hlatest : due.nanos ≤ 18446744073709551615 * 1000000 := hlatest
  have hsmall : due.nanos.toNat / nanosPerMilli ≤ 18446744073709551615 := by
    unfold nanosPerMilli
    omega
  exact due.toNat_millis.trans (Nat.min_eq_left hsmall)

end RecordKey

namespace MailQueue

/-- A mail is due when its delay is over, or at the latest time that a key can hold. -/
theorem nanos_dueTime (now : Instant) (delay : Nat) :
    (dueTime now delay).nanos = min (now.nanos + delay) RecordKey.latest.nanos := by
  have hlatest : RecordKey.latest.nanos = 18446744073709551615 * 1000000 := rfl
  unfold dueTime
  cases hafter : now.after? delay with
  | some due =>
      have hdue := Instant.after?_eq_some hafter
      dsimp only
      unfold Instant.earlier
      split
      · rename_i hle
        have hle : due.nanos ≤ RecordKey.latest.nanos := hle
        omega
      · rename_i hlater
        have hlater : RecordKey.latest.nanos < due.nanos := Instant.not_le.1 hlater
        omega
  | none =>
      -- What is no instant lies beyond the last one, as the clock shows an instant.
      have hbeyond : ¬ (-(9223372036854775808 * 1000000000) ≤ now.nanos + delay ∧
          now.nanos + delay < 9223372036854775808 * 1000000000) := by
        intro hin
        rw [Instant.after?, Instant.ofNanos?, dif_pos hin] at hafter
        cases hafter
      have hlower := now.lower
      dsimp only
      omega

theorem dueTime_of_none {now : Instant} {delay : Nat} (h : now.after? delay = none) :
    dueTime now delay = RecordKey.latest := by
  unfold dueTime
  rw [h]

/-- A longer delay is never over earlier. -/
theorem dueTime_le_dueTime (now : Instant) {shorter longer : Nat} (h : shorter ≤ longer) :
    dueTime now shorter ≤ dueTime now longer := by
  show (dueTime now shorter).nanos ≤ (dueTime now longer).nanos
  rw [nanos_dueTime, nanos_dueTime]
  omega

theorem le_dueTime {now : Instant} (h : now ≤ RecordKey.latest) (delay : Nat) :
    now ≤ dueTime now delay := by
  have h : now.nanos ≤ RecordKey.latest.nanos := h
  show now.nanos ≤ (dueTime now delay).nanos
  rw [nanos_dueTime]
  omega

end MailQueue

end Postroom
