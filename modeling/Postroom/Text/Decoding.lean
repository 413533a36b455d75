/-!
Decoding of bytes, one character at a time. A step reads a first byte together with the bytes
behind it, says which characters they spell and how many of the bytes behind it they take; the
replacement character stands for what spells nothing.
-/

namespace Postroom.Text

def replacement : Char := Char.ofNat 0xFFFD

/-- One step of a decoder with the state `σ`. The number counts the bytes taken beyond the
first one. -/
abbrev DecodeStep (σ : Type) := σ → UInt8 → List UInt8 → List Char × Nat × σ

def decodeFrom {σ : Type} (step : DecodeStep σ) : σ → List UInt8 → List Char
  | _, [] => []
  | state, first :: rest =>
      let (cs, taken, next) := step state first rest
      cs ++ decodeFrom step next (rest.drop taken)
termination_by _ bytes => bytes.length
decreasing_by
  simp only [List.length_drop, List.length_cons]
  omega

/-- Decode by a step without a state. -/
def decodeBy (step : UInt8 → List UInt8 → List Char × Nat) (bytes : List UInt8) : List Char :=
  decodeFrom (fun (_ : Unit) first rest =>
    let (cs, taken) := step first rest
    (cs, taken, ())) () bytes

/-- Read a lead byte with the byte behind it. A pair that spells nothing is replaced, and its
second byte is read again if it is ASCII. -/
def decodePair (pair? : Nat → Nat → Option (List Char)) (lead : UInt8) :
    List UInt8 → List Char × Nat
  | [] => ([replacement], 0)
  | trail :: _ =>
      match pair? lead.toNat trail.toNat with
      | some cs => (cs, 1)
      | none => ([replacement], if trail < 0x80 then 0 else 1)

end Postroom.Text
