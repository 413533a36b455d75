import Postroom.Content
import Postroom.Content.EncodedWord

/-!
The header block of a message. Lines end in a line feed, with or without a carriage return before
it; a line that starts with a space or a tab continues the value above it; an empty line ends the
block. A line without a colon is a header with an empty value.
-/

namespace Postroom

structure Header where
  key : List UInt8
  value : List UInt8
  deriving DecidableEq

inductive HeaderError where
  | leadingSpace
  | loneReturn
  deriving DecidableEq

def HeaderError.message : HeaderError → String
  | .leadingSpace =>
      "Header cannot start with a space; it is likely an overhanging line from a previous header"
  | .loneReturn => "Headers were followed by an unexpected lone CR character!"

namespace HeaderBlock

def lineFeed : UInt8 := 10

def carriageReturn : UInt8 := 13

def space : UInt8 := 32

def tab : UInt8 := 9

def colon : UInt8 := 58

/-- Split behind the first line feed that no space or tab follows. -/
def foldedLine : List UInt8 → List UInt8 × List UInt8
  | [] => ([], [])
  | b :: rest =>
      if b = lineFeed ∧ rest.head? ≠ some space ∧ rest.head? ≠ some tab then ([b], rest)
      else
        let (line, after) := foldedLine rest
        (b :: line, after)

/-- Without the line ends at the back. -/
def trimLineEnd (bytes : List UInt8) : List UInt8 :=
  (bytes.reverse.dropWhile fun b => b = lineFeed || b = carriageReturn).reverse

/-- Read one header and what follows it. -/
def readHeader (bytes : List UInt8) : Header × List UInt8 :=
  let inKey := fun b : UInt8 => b ≠ colon ∧ b ≠ lineFeed
  let key := bytes.takeWhile inKey
  match bytes.dropWhile inKey with
  | [] => (⟨key, []⟩, [])
  | mark :: rest =>
      if mark = lineFeed then (⟨key, []⟩, rest)
      else
        let (value, after) := foldedLine (rest.dropWhile (· = space))
        (⟨key, trimLineEnd value⟩, after)

theorem foldedLine_length (bytes : List UInt8) :
    (foldedLine bytes).2.length ≤ bytes.length := by
  induction bytes with
  | nil => simp [foldedLine]
  | cons b rest ih =>
      simp only [foldedLine]
      split
      · simp
      · simp only [List.length_cons]; omega

private theorem dropWhile_length {p : UInt8 → Bool} (bytes : List UInt8) :
    (bytes.dropWhile p).length ≤ bytes.length :=
  (List.dropWhile_sublist p).length_le

theorem readHeader_length {bytes : List UInt8} (h : bytes ≠ []) :
    (readHeader bytes).2.length < bytes.length := by
  have hpos : 0 < bytes.length := List.length_pos_iff.2 h
  simp only [readHeader]
  split
  · exact hpos
  · rename_i mark rest heq
    have hdrop := dropWhile_length (p := fun b : UInt8 => b ≠ colon ∧ b ≠ lineFeed) bytes
    rw [heq, List.length_cons] at hdrop
    split
    · exact hdrop
    · have h1 := foldedLine_length (rest.dropWhile (· = space))
      have h2 := dropWhile_length (p := (· = space)) rest
      simp only
      omega

/-- The headers up to the end of the block, and what follows the block. -/
def parse : List UInt8 → Except HeaderError (List Header × List UInt8)
  | [] => .ok ([], [])
  | b :: rest =>
      if b = lineFeed then .ok ([], rest)
      else if b = carriageReturn then
        match rest with
        | c :: body => if c = lineFeed then .ok ([], body) else .error .loneReturn
        | [] => .error .loneReturn
      else if b = space then .error .leadingSpace
      else
        match parse (readHeader (b :: rest)).2 with
        | .error e => .error e
        | .ok (headers, body) => .ok ((readHeader (b :: rest)).1 :: headers, body)
termination_by bytes => bytes.length
decreasing_by exact readHeader_length (by simp)

/-- Whether a header has the given name, up to the case of ASCII letters. -/
def hasName (name : String) (header : Header) : Bool :=
  (Text.ofLatin1 header.key).toLower == name.toLower

end HeaderBlock

/-- The value as text: UTF-8 if it is valid, Latin-1 otherwise, unfolded and decoded. -/
def Header.text (header : Header) : String :=
  unfoldHeaderValue ((Text.ofBytes? header.value).getD (Text.ofLatin1 header.value))

namespace Content

def headers (content : Content) : Except HeaderError (List Header) :=
  (HeaderBlock.parse content.bytes).map Prod.fst

/-- The first value of a header, if the header block can be read. -/
def header? (content : Content) (name : String) : Option String :=
  match content.headers with
  | .error _ => none
  | .ok headers => (headers.find? (HeaderBlock.hasName name)).map Header.text

end Content

end Postroom
