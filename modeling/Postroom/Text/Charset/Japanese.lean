import Postroom.Text.Charset.Jis
import Postroom.Text.Decoding

/-!
The Japanese character sets: EUC-JP and Shift_JIS, whose bytes show by themselves where a
character begins, and ISO-2022-JP, where escape sequences choose what the bytes behind them mean.
-/

namespace Postroom.Text

/-- Rows and columns counted by the bytes with the high bit set. -/
def eucGrid (table : CodeTable) : CodeGrid := ⟨0xA1, [(0xA1, 0xFE)], table⟩

private def inGrid (b : UInt8) : Bool := 0xA1 ≤ b && b ≤ 0xFE

/-- What the byte behind a single shift stands for. -/
private def shiftedKatakana? (_ trail : Nat) : Option (List Char) :=
  if 0xA1 ≤ trail then (halfKatakana? (trail - 0xA1)).map ([·]) else none

private def eucJpStep (first : UInt8) (rest : List UInt8) : List Char × Nat :=
  if first < 0x80 then ([Char.ofNat first.toNat], 0)
  else if first = 0x8E then decodePair shiftedKatakana? first rest
  else if first = 0x8F then
    match rest with
    | row :: cells =>
        if inGrid row then
          let (cs, taken) := decodePair (eucGrid jis0212).pair? row cells
          (cs, taken + 1)
        else decodePair (fun _ _ => none) first rest
    | [] => ([replacement], 0)
  else if inGrid first then decodePair (eucGrid jis0208).pair? first rest
  else ([replacement], 0)

def decodeEucJp (bytes : List UInt8) : List Char :=
  decodeBy eucJpStep bytes

/-- Rows in the order of the lead bytes once the gap among these is closed. -/
def shiftJisGrid : CodeGrid := ⟨0x81, [(0x40, 0x7E), (0x80, 0xFC)], jis0208⟩

private def shiftJisPair? (lead trail : Nat) : Option (List Char) :=
  shiftJisGrid.pair? (if lead < 0xA0 then lead else lead - 0x40) trail

private def shiftJisStep (first : UInt8) (rest : List UInt8) : List Char × Nat :=
  if first ≤ 0x80 then ([Char.ofNat first.toNat], 0)
  else if 0xA1 ≤ first ∧ first ≤ 0xDF then
    ([(halfKatakana? (first.toNat - 0xA1)).getD replacement], 0)
  else if first = 0xA0 ∨ 0xFC < first then ([replacement], 0)
  else decodePair shiftJisPair? first rest

def decodeShiftJis (bytes : List UInt8) : List Char :=
  decodeBy shiftJisStep bytes

/-- What the bytes mean between two escape sequences. -/
inductive IsoMode where
  | ascii
  | roman
  | katakana
  | kanji
  deriving DecidableEq

/-- The mode that the bytes behind an escape character choose. -/
def IsoMode.ofEscape? : List UInt8 → Option IsoMode
  | 0x28 :: 0x42 :: _ => some .ascii
  | 0x28 :: 0x4A :: _ => some .roman
  | 0x28 :: 0x49 :: _ => some .katakana
  | 0x24 :: 0x40 :: _ | 0x24 :: 0x42 :: _ => some .kanji
  | _ => none

/-- The character of one byte in a mode where one byte is a character. -/
private def IsoMode.char? (mode : IsoMode) (b : UInt8) : Option Char :=
  match mode with
  | .katakana => if 0x21 ≤ b ∧ b ≤ 0x5F then halfKatakana? (b.toNat - 0x21) else none
  | .ascii | .roman =>
      if 0x80 ≤ b ∨ b = 0x0E ∨ b = 0x0F then none
      else if mode = .roman ∧ b = 0x5C then some '¥'
      else if mode = .roman ∧ b = 0x7E then some '‾'
      else some (Char.ofNat b.toNat)
  | .kanji => none

private def isoGrid : CodeGrid := ⟨0x21, [(0x21, 0x7E)], jis0208⟩

private def escape : UInt8 := 0x1B

/-- Where a decoder of ISO-2022-JP stands. -/
structure IsoState where
  mode : IsoMode
  /-- Whether the last thing read was an escape sequence: a second one right behind it is
  replaced. -/
  escaped : Bool

/-- A lead byte takes the byte behind it with it, except for an escape character. -/
private def isoStep : DecodeStep IsoState := fun state first rest =>
  if first = escape then
    match IsoMode.ofEscape? rest with
    | some mode => (if state.escaped then [replacement] else [], 2, ⟨mode, true⟩)
    | none => ([replacement], 0, ⟨state.mode, false⟩)
  else
    let next : IsoState := ⟨state.mode, false⟩
    if state.mode = .kanji ∧ 0x21 ≤ first ∧ first ≤ 0x7E then
      match rest with
      | [] => ([replacement], 0, next)
      | trail :: _ =>
          if trail = escape then ([replacement], 0, next)
          else ([(isoGrid.cell? first.toNat trail.toNat).getD replacement], 1, next)
    else ([(state.mode.char? first).getD replacement], 0, next)

def decodeIso2022Jp (bytes : List UInt8) : List Char :=
  decodeFrom isoStep ⟨.ascii, false⟩ bytes

end Postroom.Text
