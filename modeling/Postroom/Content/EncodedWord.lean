import Postroom.Text.Charset
import Postroom.Text.TransferCoding

/-!
Unfolding of header values and decoding of the encoded words in them (RFC 2047). A value is taken
apart into tokens line by line; blanks between two encoded words are dropped, every other line end
becomes one blank.
-/

namespace Postroom

inductive HeaderToken where
  | text (cs : List Char)
  /-- Blanks only, possibly none. -/
  | blank (cs : List Char)
  | newline
  /-- The text of an encoded word. -/
  | word (cs : List Char)
  deriving DecidableEq

namespace HeaderToken

private def byteLength (cs : List Char) : Nat :=
  (String.ofList cs).utf8ByteSize

/-- Whether an encoded word may end before the character numbered `i` of a line, or begin
behind it. -/
def isBoundary (chars : Array Char) (i : Nat) : Bool :=
  match chars[i]? with
  | none => true
  | some c => Text.isBlank c || "\"()<>,".toList.contains c

def ofRun (cs : List Char) : HeaderToken :=
  if cs.all Text.isBlank then .blank cs else .text cs

/-- The end of an encoded word: what stands before the first `?=` that a boundary follows, and
what stands behind it. Boundaries are counted by the byte offset `offset` of the text. -/
def wordEnd (line : Array Char) (offset : Nat) (cs : List Char) :
    Option (List Char × List Char) :=
  match h : Text.cutPair '?' '=' cs with
  | none => none
  | some (inner, rest) =>
      let stop := offset + byteLength inner + 2
      if isBoundary line stop then some (inner, rest)
      else (wordEnd line stop rest).map fun (more, rest) => (inner ++ '?' :: '=' :: more, rest)
termination_by cs.length
decreasing_by exact Text.cutPair_length h

/-- The text of an encoded word, given what stands between `=?` and `?=`. -/
def decodeWord (inner : List Char) : Option (List Char) := do
  let (charset, rest) ← Text.cutFirstChars '?' inner
  let (coding, input) ← Text.cutFirstChars '?' rest
  let bytes ←
    if coding = ['B'] ∨ coding = ['b'] then Text.decodeBase64 (String.ofList input)
    else if coding = ['Q'] ∨ coding = ['q'] then some (Text.decodeQuoted (String.ofList input))
    else none
  let set ← Text.Charset.ofLabel? (String.ofList charset)
  return set.decode bytes

theorem wordEnd_length {line : Array Char} {cs inner rest : List Char} {offset : Nat}
    (h : wordEnd line offset cs = some (inner, rest)) : rest.length < cs.length := by
  fun_induction wordEnd line offset cs generalizing inner with
  | case1 => simp at h
  | case2 offset cs before after hcut =>
      simp only [Option.some.injEq, Prod.mk.injEq] at h
      exact h.2 ▸ Text.cutPair_length hcut
  | case3 offset cs before after hcut stop hbound =>
      rename_i ih
      obtain ⟨⟨more, tail⟩, hend, heq⟩ := Option.map_eq_some_iff.1 h
      simp only [Prod.mk.injEq] at heq
      have := ih (hend.trans (by rw [heq.2]))
      have := Text.cutPair_length hcut
      omega

/-- The tokens of one line from the byte offset `offset` on, where `cs` is left to read. -/
def ofLineFrom (line : Array Char) (offset : Nat) (cs : List Char) : List HeaderToken :=
  match _h : Text.cutPair '=' '?' cs with
  | none => [ofRun cs]
  | some (before, after) =>
      let start := offset + byteLength before
      if start ≠ 0 ∧ !isBoundary line (start - 1) then
        .text (before ++ ['=', '?']) :: ofLineFrom line (start + 2) after
      else match h' : wordEnd line (start + 2) after with
        | none => ofRun before :: .text ['=', '?'] :: ofLineFrom line (start + 2) after
        | some (inner, rest) =>
            let token := match decodeWord inner with
              | some cs => .word cs
              | none => .text ('=' :: '?' :: inner ++ ['?', '='])
            ofRun before :: token :: ofLineFrom line (start + 2 + byteLength inner + 2) rest
termination_by cs.length
decreasing_by
  · exact Text.cutPair_length _h
  · exact Text.cutPair_length _h
  · have := Text.cutPair_length _h
    have := wordEnd_length h'
    omega

/-- The lines of a text, without their line ends. -/
def lines (cs : List Char) : List (List Char) :=
  let pieces := Text.splitChars (· == '\n') cs
  let ended := pieces.dropLast.map fun line =>
    if line.getLast? = some '\r' then line.dropLast else line
  match pieces.getLast? with
  | none | some [] => ended
  | some last => ended ++ [last]

/-- The tokens of a whole value, with a newline between two lines. -/
def ofValue (value : String) : List HeaderToken :=
  let tokens := (lines value.toList).map fun line =>
    let line := Text.trimStartChars line
    ofLineFrom line.toArray 0 line
  (tokens.intersperse [.newline]).flatten

/-- What is held back while tokens are written out. -/
inductive Held where
  | nothing
  /-- The last token was an encoded word. -/
  | word
  /-- Blanks behind an encoded word. -/
  | blank (cs : List Char)
  /-- The blanks that a line end behind an encoded word stands for. -/
  | fold (cs : List Char)

/-- The blanks that appear once plain text follows. -/
def Held.kept : Held → List Char
  | .nothing | .word => []
  | .blank cs | .fold cs => cs

/-- Write the tokens out. Blanks behind an encoded word appear only if plain text follows, and
blanks at the start of a line take the place of a line end that is held back. -/
def joinFrom : Held → List HeaderToken → List Char
  | _, [] => []
  | held, .text cs :: rest => held.kept ++ cs ++ joinFrom .nothing rest
  | _, .word cs :: rest => cs ++ joinFrom .word rest
  | .word, .blank cs :: rest => joinFrom (.blank cs) rest
  | _, .blank cs :: rest => cs ++ joinFrom .nothing rest
  | .word, .newline :: rest => joinFrom (.fold [' ']) rest
  | .blank ws, .newline :: rest => joinFrom (.fold (ws ++ [' '])) rest
  | _, .newline :: rest => ' ' :: joinFrom .nothing rest

end HeaderToken

/-- A header value as one line, with its encoded words decoded. -/
def unfoldHeaderValue (value : String) : String :=
  String.ofList (HeaderToken.joinFrom .nothing (HeaderToken.ofValue value))

end Postroom
