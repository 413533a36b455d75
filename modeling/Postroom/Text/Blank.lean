import Postroom.Text.Cut

/-!
Blank and control characters, and the cuts made along blanks: trimming a text and taking it
apart into words. A character is blank when it has the Unicode property White_Space and a
control character when it is in the category Cc.
-/

namespace Postroom.Text

def isBlank (c : Char) : Bool :=
  let n := c.toNat
  (9 ≤ n && n ≤ 13) || n == 0x20 || n == 0x85 || n == 0xA0 || n == 0x1680 ||
    (0x2000 ≤ n && n ≤ 0x200A) || n == 0x2028 || n == 0x2029 || n == 0x202F || n == 0x205F ||
    n == 0x3000

def isControl (c : Char) : Bool :=
  c.toNat < 0x20 || (0x7F ≤ c.toNat && c.toNat ≤ 0x9F)

def trimStartChars (cs : List Char) : List Char :=
  cs.dropWhile isBlank

def trimEndChars (cs : List Char) : List Char :=
  (cs.reverse.dropWhile isBlank).reverse

def trimChars (cs : List Char) : List Char :=
  trimEndChars (trimStartChars cs)

/-- The text without the blanks at its two ends. -/
def trim (s : String) : String :=
  String.ofList (trimChars s.toList)

def trimStart (s : String) : String :=
  String.ofList (trimStartChars s.toList)

def trimEnd (s : String) : String :=
  String.ofList (trimEndChars s.toList)

/-- The maximal runs of characters that are not blank. -/
def words (s : String) : List String :=
  ((splitChars isBlank s.toList).filter (!·.isEmpty)).map String.ofList

/-- The items of a comma separated list, trimmed, without the empty ones. -/
def listItems (s : String) : List String :=
  ((splitChars (· == ',') s.toList).map trimChars |>.filter (!·.isEmpty)).map String.ofList

end Postroom.Text
