import Postroom.Ron.Reader
import Postroom.Text.Numeral
import Postroom.Text.Utf8

/-!
Literals of documents. Texts are quoted, with escapes, or raw, between as many hash signs as are
needed to tell the closing quote from others. Integers may be written in four bases, with
underscores between the digits and the name of a type behind them.
-/

namespace Postroom.Ron

def isHexDigit (c : Char) : Bool :=
  (Text.digitValue? 16 c).isSome

private def hexValue (cs : List Char) : Nat :=
  cs.foldl (fun n c => n * 16 + (Text.digitValue? 16 c).getD 0) 0

/-- What an escape stands for. -/
inductive Escape where
  | byte (b : UInt8)
  | char (c : Char)
  deriving DecidableEq

/-- Escapes of one character. -/
def shortEscape? : Char → Option UInt8
  | '\x27' => some 0x27
  | '"' => some 0x22
  | '\\' => some 0x5C
  | 'n' => some 0x0A
  | 'r' => some 0x0D
  | 't' => some 0x09
  | '0' => some 0x00
  | _ => none

/-- The character with a number of one to six hexadecimal digits. -/
def scalar? (digits : List Char) : Option Char :=
  let n := hexValue digits
  if digits.isEmpty || 6 < digits.length || !digits.all isHexDigit then none
  else if h : n.isValidChar then some (Char.ofNatAux n h)
  else none

/-- Read an escape behind its backslash. -/
def escape? : List Char → Option (Escape × List Char)
  | 'x' :: high :: low :: rest =>
      if isHexDigit high && isHexDigit low then
        some (.byte (UInt8.ofNat (hexValue [high, low])), rest)
      else none
  | 'u' :: '\x7b' :: rest => do
      let digits := rest.takeWhile (· ≠ '\x7d')
      let c ← scalar? digits
      if rest.length ≤ digits.length then none
      else some (.char c, rest.drop (digits.length + 1))
  | c :: rest => (shortEscape? c).map (.byte ·, rest)
  | [] => none

/-- Read the further bytes of a character whose first bytes are `bytes`, each as an escape of its
own. At most `limit` more bytes are read. -/
def completeChar? : Nat → List UInt8 → List Char → Option (Char × List Char)
  | limit, bytes, cs =>
      match (Text.ofBytes? bytes).map String.toList with
      | some [c] => some (c, cs)
      | _ =>
          match limit, cs with
          | limit + 1, '\\' :: 'x' :: rest =>
              match escape? ('x' :: rest) with
              | some (.byte b, rest) => completeChar? limit (bytes ++ [b]) rest
              | _ => none
          | _, _ => none

/-- Read an escape of a text behind its backslash. Escapes of bytes from 128 on spell a character
together. -/
def charEscape? (cs : List Char) : Option (Char × List Char) := do
  match ← escape? cs with
  | (.char c, rest) => some (c, rest)
  | (.byte b, rest) => completeChar? 3 [b] rest

/-- Read an escape among bytes behind its backslash. A character stands for its UTF-8. -/
def bytesEscape? (cs : List Char) : Option (List UInt8 × List Char) := do
  match ← escape? cs with
  | (.char c, rest) => some (Text.toBytes (String.singleton c), rest)
  | (.byte b, rest) => some ([b], rest)

/-- What goes on in the next line, when a backslash ends this one: the blanks and line ends up to
there do not count. -/
def continuation? (cs : List Char) : Option (List Char) :=
  let isSpace := fun c : Char => c = ' ' || c = '\t' || c = '\n' || c = '\r'
  match cs with
  | '\n' :: rest | '\r' :: '\n' :: rest => some (rest.dropWhile isSpace)
  | _ => none

/-- Read what stands in quotes, up to the closing one. `escape` reads an escape behind its
backslash, and `plain` tells what any other character stands for. -/
def quoted? {α : Type} (escape : List Char → Option (List α × List Char))
    (plain : Char → List α) (cs : List Char) : Option (List α × List Char) :=
  match cs with
  | [] => none
  | '"' :: rest => some ([], rest)
  | '\\' :: rest =>
      match (continuation? rest).map (([], ·)) <|> escape rest with
      | none => none
      | some (piece, after) =>
          if after.length ≤ rest.length then
            (quoted? escape plain after).map fun (more, after) => (piece ++ more, after)
          else none
  | c :: rest => (quoted? escape plain rest).map fun (more, after) => (plain c ++ more, after)
termination_by cs.length
decreasing_by
  · simp only [List.length_cons]
    omega
  · simp only [List.length_cons]
    omega

/-- Cut at the first place where `mark` begins. -/
def cutAt (mark : List Char) : List Char → Option (List Char × List Char)
  | [] => if mark.isEmpty then some ([], []) else none
  | c :: rest =>
      if mark.isPrefixOf (c :: rest) then some ([], (c :: rest).drop mark.length)
      else (cutAt mark rest).map fun (before, after) => (c :: before, after)

/-- Read a raw text behind the letter that announces it. -/
def rawText? (cs : List Char) : Option (String × List Char) :=
  let hashes := cs.takeWhile (· = '#')
  match cs.drop hashes.length with
  | '"' :: rest =>
      (cutAt ('"' :: hashes) rest).map fun (before, after) => (String.ofList before, after)
  | _ => none

/-- Read a text. -/
def text? : List Char → Option (String × List Char)
  | '"' :: rest =>
      (quoted? (fun cs => (charEscape? cs).map fun (c, rest) => ([c], rest)) ([·]) rest).map
        fun (cs, after) => (String.ofList cs, after)
  | 'r' :: rest => rawText? rest
  | _ => none

def text : Reader String :=
  reader text?

/-- What follows a quoted or raw text of bytes. -/
def skipBytes? : List Char → Option (List Char)
  | 'b' :: '"' :: rest =>
      (quoted? bytesEscape? (fun c => Text.toBytes (String.singleton c)) rest).map Prod.snd
  | 'b' :: 'r' :: rest => (rawText? rest).map Prod.snd
  | _ => none

/-- What follows a single byte, written as a quoted character with a `b` before it. -/
def skipByte? : List Char → Option (List Char)
  | 'b' :: '\x27' :: '\\' :: rest =>
      match escape? rest with
      | some (.byte _, '\x27' :: after) => some after
      | _ => none
  | 'b' :: '\x27' :: c :: '\x27' :: rest => if c.toNat < 0x80 then some rest else none
  | _ => none

/-- What follows a quoted character. An escape must spell a character by itself. -/
def skipCharacter? : List Char → Option (List Char)
  | '\x27' :: '\\' :: rest =>
      match escape? rest with
      | some (.char _, '\x27' :: after) => some after
      | some (.byte b, '\x27' :: after) => if b < 0x80 then some after else none
      | _ => none
  | '\x27' :: _ :: '\x27' :: rest => some rest
  | _ => none

def isIntegerChar (c : Char) : Bool :=
  isHexDigit c || c == '_'

/-- The base that a number announces, and the rest of it. -/
def takeBase : List Char → Nat × List Char
  | '0' :: 'b' :: rest => (2, rest)
  | '0' :: 'o' :: rest => (8, rest)
  | '0' :: 'x' :: rest => (16, rest)
  | cs => (10, cs)

/-- Read a number without sign. -/
def magnitude? (cs : List Char) : Option (Nat × List Char) := do
  let (base, cs) := takeBase cs
  let digits := cs.takeWhile isIntegerChar
  if digits.isEmpty || digits.head? = some '_' then none
  else
    let values ← (digits.filter (· ≠ '_')).mapM (Text.digitValue? base)
    return (values.foldl (fun n d => n * base + d) 0, cs.drop digits.length)

/-- Read a sign; the answer tells whether it is a minus. -/
def takeSign : List Char → Bool × List Char
  | '+' :: rest => (false, rest)
  | '-' :: rest => (true, rest)
  | cs => (false, cs)

/-- The types that may be named behind an integer, with their bounds. -/
def integerTypes : List (String × Int × Int) :=
  [("i8", -128, 128), ("i16", -32768, 32768), ("i32", -2147483648, 2147483648),
   ("i64", -9223372036854775808, 9223372036854775808), ("u8", 0, UInt8.size),
   ("u16", 0, UInt16.size), ("u32", 0, UInt32.size), ("u64", 0, UInt64.size)]

private def isWordAhead (word : String) (cs : List Char) : Bool :=
  word.toList.isPrefixOf cs && !((cs.drop word.length).head?.any Text.isNameChar)

/-- Which of some types is named behind the digits of an integer, if one is. -/
def typeBehind? (types : List (String × Int × Int)) (cs : List Char) :
    Option (String × Int × Int) :=
  types.find? fun (name, _, _) => isWordAhead name ((takeBase cs).2.dropWhile isIntegerChar)

/-- Read an integer from `low` on and below `high`, which may name one of some types behind its
digits. A type that is named has bounds of its own. -/
def integer? (types : List (String × Int × Int)) (low high : Int) (cs : List Char) :
    Option (Int × List Char) := do
  let (negative, cs) := takeSign cs
  let (n, rest) ← magnitude? cs
  let value : Int := if negative then -n else n
  let inBounds := low ≤ value ∧ value < high
  match typeBehind? types cs with
  | none => if inBounds then some (value, rest) else none
  | some (name, lowest, limit) =>
      if inBounds ∧ lowest ≤ value ∧ value < limit ∧ isWordAhead name rest then
        some (value, rest.drop name.length)
      else none

/-- A whole number of 64 bits. No other type may be named behind it. -/
def nat : Reader Nat :=
  reader fun cs =>
    (integer? (integerTypes.filter (·.1 = "u64")) 0 UInt64.size cs).map fun (value, rest) =>
      (value.toNat, rest)

def isDecimalChar (c : Char) : Bool :=
  c.isDigit || c == 'e' || c == 'E' || c == '.' || c == '+' || c == '-' || c == '_'

/-- The characters of a decimal fraction ahead. Two dots are not part of it. -/
def decimalRun : List Char → List Char
  | '.' :: '.' :: _ => []
  | c :: rest => if isDecimalChar c then c :: decimalRun rest else []
  | [] => []

/-- Whether underscores stand only behind a digit or another underscore. -/
def underscoresInside (behindDigit : Bool) : List Char → Bool
  | [] => true
  | c :: rest =>
      if c = '_' then behindDigit && underscoresInside behindDigit rest
      else if c = '.' then underscoresInside false rest
      else underscoresInside (behindDigit || c.isDigit || c == 'e' || c == 'E') rest

/-- Whether a text without underscores is a decimal fraction, with or without an exponent. -/
def isDecimal (cs : List Char) : Bool :=
  let (_, cs) := takeSign cs
  let whole := cs.takeWhile Char.isDigit
  let (fraction, rest) := match cs.drop whole.length with
    | '.' :: rest => (rest.takeWhile Char.isDigit, rest.dropWhile Char.isDigit)
    | rest => ([], rest)
  let exponent := match rest with
    | 'e' :: rest | 'E' :: rest =>
        let (_, digits) := takeSign rest
        !digits.isEmpty && digits.all Char.isDigit
    | rest => rest.isEmpty
  !(whole.isEmpty && fraction.isEmpty) && exponent

/-- What follows a decimal fraction, or one of the signed words for numbers that have none. -/
def skipDecimal? (cs : List Char) : Option (List Char) :=
  let words := ["+inf", "-inf", "+NaN", "-NaN"].flatMap fun word =>
    [word, word ++ "f32", word ++ "f64"]
  match words.find? (isWordAhead · cs) with
  | some word => some (cs.drop word.length)
  | none =>
      let digits := decimalRun cs
      let rest := cs.drop digits.length
      if digits.isEmpty || !underscoresInside false digits || !isDecimal (digits.filter (· ≠ '_'))
      then none
      else if isWordAhead "f32" rest || isWordAhead "f64" rest then some (rest.drop 3)
      else some rest

/-- Whether the number ahead can only be a decimal fraction. -/
def isDecimalAhead (cs : List Char) : Bool :=
  let (_, cs) := takeSign cs
  (cs.takeWhile isIntegerChar).length < (decimalRun cs).length

/-- What follows a number of any kind. -/
def skipNumber? (cs : List Char) : Option (List Char) :=
  if isDecimalAhead cs then skipDecimal? cs
  else match integer? integerTypes (-9223372036854775808) UInt64.size cs with
    | some (_, rest) => some rest
    | none => skipDecimal? cs

/-- What follows a number, or a range with a number at one of its ends or at both. Two dots stand
between the ends, with an equals sign behind them if the range holds its last number; such a range
cannot do without it. -/
def skipNumeric? (cs : List Char) : Option (List Char) := do
  let startsNumber := fun c : Char => c.isDigit || c == '+' || c == '-' || c == '.'
  let open? := match cs with
    | '.' :: '.' :: _ => none
    | _ => skipNumber? cs
  match open?, open?.getD cs with
  | _, '.' :: '.' :: '=' :: rest => skipNumber? rest
  | none, '.' :: '.' :: rest => skipNumber? rest
  | some _, '.' :: '.' :: rest =>
      if rest.head?.any startsNumber then skipNumber? rest else some rest
  | _, _ => open?

end Postroom.Ron
