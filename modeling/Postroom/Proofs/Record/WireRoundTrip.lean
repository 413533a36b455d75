import Postroom.Record.Wire

/-!
Whatever the wire form writes is read back, no matter what follows it. The only thing that a writer
may get wrong is a length that 64 bits do not count, so each statement about a text or a sequence is
about one that fits.
-/

namespace Postroom

/-- The bytes of a text spell it. -/
theorem Text.ofBytes?_toBytes (s : String) : Text.ofBytes? (Text.toBytes s) = some s := by
  have hbytes : (⟨(Text.toBytes s).toArray⟩ : ByteArray) = s.toByteArray := by
    simp [Text.toBytes, String.toUTF8]
  rw [Text.ofBytes?, hbytes, String.fromUTF8?, dif_pos s.isValidUTF8]
  rfl

namespace Wire

/-- Whether 64 bits count some bytes. -/
def Fits (bytes : List UInt8) : Prop :=
  bytes.length < UInt64.size

/-- Whether a reader takes a value, and nothing else, off the front of its bytes. -/
def Reads {α : Type} (read : Reader α) (a : α) (bytes : List UInt8) : Prop :=
  ∀ rest, read (bytes ++ rest) = some (a, rest)

theorem Fits.left {xs ys : List UInt8} (h : Fits (xs ++ ys)) : Fits xs := by
  unfold Fits at *
  rw [List.length_append] at h
  omega

theorem Fits.right {xs ys : List UInt8} (h : Fits (xs ++ ys)) : Fits ys := by
  unfold Fits at *
  rw [List.length_append] at h
  omega

theorem Fits.tail {b : UInt8} {bytes : List UInt8} (h : Fits (b :: bytes)) : Fits bytes := by
  unfold Fits at *
  rw [List.length_cons] at h
  omega

@[simp] theorem littleEndian_length (width n : Nat) : (littleEndian width n).length = width := by
  induction width generalizing n with
  | zero => rfl
  | succ width ih => simp [littleEndian, ih]

theorem ofLittleEndian_littleEndian (width n : Nat) :
    ofLittleEndian (littleEndian width n) = n % Nat.pow 256 width := by
  induction width generalizing n with
  | zero => simp [littleEndian, ofLittleEndian, Nat.mod_one]
  | succ width ih =>
      have hpow : Nat.pow 256 (width + 1) = 256 * Nat.pow 256 width := Nat.pow_succ'
      have hbyte : (UInt8.ofNat n).toNat = n % 256 := UInt8.toNat_ofNat'
      rw [littleEndian, ofLittleEndian, ih, hbyte, hpow, Nat.mod_mul]

theorem reads_takeBytes (bytes : List UInt8) : Reads (takeBytes bytes.length) bytes bytes := by
  intro rest
  simp [takeBytes]

theorem reads_readFixed (width n : Nat) (h : n < Nat.pow 256 width) :
    Reads (readFixed width) n (littleEndian width n) := by
  intro rest
  have htake := reads_takeBytes (littleEndian width n) rest
  rw [littleEndian_length] at htake
  have hdigits : ofLittleEndian (littleEndian width n) = n :=
    (ofLittleEndian_littleEndian width n).trans (Nat.mod_eq_of_lt h)
  simp [readFixed, htake, hdigits]

/-- A number is read back by a reader that is wide enough for it. -/
theorem reads_readNat (width : Nat) {n : Nat} (hwidth : 4 ≤ width)
    (h : n < UInt32.size ∨ 8 ≤ width ∧ n < UInt64.size) : Reads (readNat width) n (writeNat n) := by
  intro rest
  unfold writeNat
  split
  · rename_i hsmall
    have hbyte : (UInt8.ofNat n).toNat = n := by
      rw [UInt8.toNat_ofNat']
      omega
    have hlt : UInt8.ofNat n < 251 := by
      rw [UInt8.lt_iff_toNat_lt, hbyte]
      exact hsmall
    simp [readNat, hlt, hbyte]
  · split
    · rename_i hmedium
      exact reads_readFixed 2 n hmedium rest
    · split
      · rename_i hlarge
        have hread := reads_readFixed 4 n hlarge rest
        simpa [readNat, hwidth] using hread
      · rename_i hhuge
        have hwide : 8 ≤ width ∧ n < UInt64.size := h.resolve_left hhuge
        have hread := reads_readFixed 8 n hwide.2 rest
        simpa [readNat, hwide.1] using hread

theorem reads_readLength {bytes : List UInt8} (h : Fits bytes) :
    Reads readLength bytes.length (writeNat bytes.length) :=
  reads_readNat 8 (by decide) (.inr ⟨Nat.le_refl 8, h⟩)

theorem unzigzag_zigzag (i : Int64) : unzigzag (zigzag i) = i := by
  have hlower := i.le_toInt
  have hupper := i.toInt_lt
  unfold zigzag unzigzag
  split
  · rename_i hpos
    have heven : (2 * i.toInt).toNat % 2 = 0 := by omega
    have hhalf : (((2 * i.toInt).toNat : Int) / 2) = i.toInt := by omega
    rw [if_pos heven, hhalf, Int64.ofInt_toInt]
  · rename_i hneg
    have hodd : ¬ (-2 * i.toInt - 1).toNat % 2 = 0 := by omega
    have hhalf : -(((-2 * i.toInt - 1).toNat : Int) / 2) - 1 = i.toInt := by omega
    rw [if_neg hodd, hhalf, Int64.ofInt_toInt]

theorem zigzag_lt (i : Int64) : zigzag i < UInt64.size := by
  have hlower := i.le_toInt
  have hupper := i.toInt_lt
  unfold zigzag
  split <;> simp only [UInt64.size] <;> omega

theorem reads_readInt64 (i : Int64) : Reads readInt64 i (writeInt64 i) := by
  intro rest
  have hnat := reads_readNat 8 (by decide) (.inr ⟨Nat.le_refl 8, zigzag_lt i⟩) rest
  simp [readInt64, writeInt64, hnat, unzigzag_zigzag]

theorem reads_readBool (b : Bool) : Reads readBool b (writeBool b) := by
  intro rest
  cases b <;> rfl

theorem reads_readBytes {bytes : List UInt8} (h : Fits (writeBytes bytes)) :
    Reads readBytes bytes (writeBytes bytes) := by
  intro rest
  have hlength := reads_readLength h.right (bytes ++ rest)
  have htake := reads_takeBytes bytes rest
  simp [readBytes, writeBytes, hlength, htake]

theorem reads_readText {s : String} (h : Fits (writeText s)) :
    Reads readText s (writeText s) := by
  intro rest
  have hbytes := reads_readBytes h rest
  unfold writeText at *
  simp [readText, hbytes, Text.ofBytes?_toBytes]

theorem reads_readOption {α : Type} {read : Reader α} {write : α → List UInt8} {value : Option α}
    (h : ∀ a, value = some a → Fits (write a) → Reads read a (write a))
    (hfits : Fits (writeOption write value)) :
    Reads (readOption read) value (writeOption write value) := by
  intro rest
  cases value with
  | none => rfl
  | some a =>
      have hread := h a rfl hfits.tail rest
      simp [readOption, writeOption, hread]

theorem reads_readMany {α : Type} {read : Reader α} {write : α → List UInt8} {items : List α}
    (h : ∀ a ∈ items, Fits (write a) → Reads read a (write a))
    (hfits : Fits (items.flatMap write)) :
    Reads (readMany read items.length) items (items.flatMap write) := by
  induction items with
  | nil => exact fun rest => rfl
  | cons a items ih =>
      intro rest
      rw [List.flatMap_cons] at hfits ⊢
      have hfirst := h a (List.mem_cons_self ..) hfits.left (items.flatMap write ++ rest)
      have hothers := ih (fun b hb => h b (List.mem_cons_of_mem _ hb)) hfits.right rest
      simp [readMany, hfirst, hothers]

/-- A list is read back if each of its items is, and none of them is written as nothing. -/
theorem reads_readList {α : Type} {read : Reader α} {write : α → List UInt8} {items : List α}
    (hwrite : ∀ a, write a ≠ []) (h : ∀ a ∈ items, Fits (write a) → Reads read a (write a))
    (hfits : Fits (writeList write items)) :
    Reads (readList read) items (writeList write items) := by
  intro rest
  have hcount : items.length ≤ (items.flatMap write).length := by
    clear h hfits
    induction items with
    | nil => exact Nat.le_refl 0
    | cons a items ih =>
        have hpos := List.length_pos_iff.2 (hwrite a)
        rw [List.flatMap_cons, List.length_append, List.length_cons]
        omega
  have hlength : Reads readLength items.length (writeNat items.length) :=
    reads_readNat 8 (by decide) (.inr ⟨Nat.le_refl 8, Nat.lt_of_le_of_lt hcount hfits.right⟩)
  have hmany := reads_readMany h hfits.right rest
  simp [readList, writeList, hlength _, hmany]

end Wire

end Postroom
