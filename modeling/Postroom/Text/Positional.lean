/-!
Numbers written with a fixed count of digits, the most significant first. Digits that do not fit
are dropped at the front, so a number is written modulo the power of the base with that exponent.
-/

namespace Postroom.Text

/-- The last `width` digits of `n` in `base`. -/
def fixedDigits (base : Nat) : Nat → Nat → List Nat
  | 0, _ => []
  | width + 1, n => fixedDigits base width (n / base) ++ [n % base]

def valueOfDigits (base : Nat) (ds : List Nat) : Nat :=
  ds.foldl (fun acc d => acc * base + d) 0

@[simp] theorem fixedDigits_length (base width n : Nat) :
    (fixedDigits base width n).length = width := by
  induction width generalizing n with
  | zero => rfl
  | succ w ih => simp [fixedDigits, ih]

theorem mem_fixedDigits_lt {base width n d : Nat} (hbase : 0 < base)
    (h : d ∈ fixedDigits base width n) : d < base := by
  induction width generalizing n with
  | zero => simp [fixedDigits] at h
  | succ w ih =>
      simp only [fixedDigits, List.mem_append, List.mem_singleton] at h
      rcases h with h | rfl
      · exact ih h
      · exact Nat.mod_lt _ hbase

theorem valueOfDigits_fixedDigits (base width n : Nat) :
    valueOfDigits base (fixedDigits base width n) = n % Nat.pow base width := by
  induction width generalizing n with
  | zero => simp [fixedDigits, valueOfDigits, Nat.mod_one]
  | succ w ih =>
      have hlast : valueOfDigits base (fixedDigits base (w + 1) n) =
          valueOfDigits base (fixedDigits base w (n / base)) * base + n % base := by
        simp [fixedDigits, valueOfDigits]
      rw [hlast, ih, Nat.pow_eq, Nat.pow_eq, Nat.pow_succ', Nat.mod_mul]
      simp [Nat.mul_comm, Nat.add_comm]

/-- `n` in decimal, padded with zeros to `width` digits. -/
def paddedDecimal (width n : Nat) : String :=
  String.ofList ((fixedDigits 10 width n).map Nat.digitChar)

end Postroom.Text
