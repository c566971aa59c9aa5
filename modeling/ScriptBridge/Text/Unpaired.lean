/-!
Unpaired surrogates. A text may hold half of a surrogate pair, which is no character. Each half is
represented by a code point of its own that has no character either, and texts are taken to hold these code
points for nothing else.
-/

namespace ScriptBridge.Text

def isHighSurrogate (unit : Nat) : Bool := 0xd800 ≤ unit && unit < 0xdc00

def isLowSurrogate (unit : Nat) : Bool := 0xdc00 ≤ unit && unit < 0xe000

/-- The distance from a surrogate to the code point that represents it. -/
def surrogateShift : Nat := 0xd0000

/-- What represents an unpaired surrogate. -/
def ofSurrogate (unit : Nat) : Char :=
  Char.ofNat (unit + surrogateShift)

def isUnpaired (c : Char) : Bool :=
  let unit := c.toNat - surrogateShift
  isHighSurrogate unit || isLowSurrogate unit

/-- The code point of a character, or of the surrogate that it represents. -/
def codePoint (c : Char) : Nat :=
  if isUnpaired c then c.toNat - surrogateShift else c.toNat

/-- The code points of a text. Texts are ordered by them. -/
def codePoints (text : String) : List Nat :=
  text.toList.map codePoint

/-- Whether a text can be written to a file. An unpaired surrogate cannot be encoded. -/
def isEncodable (text : String) : Bool :=
  !text.toList.any isUnpaired

/-- Whether a surrogate stands for a byte of a path that is no text. -/
def isEscapedByte (c : Char) : Bool :=
  0xdc80 ≤ codePoint c && codePoint c ≤ 0xdcff

/-- Whether a text can be a path. -/
def isPathText (text : String) : Bool :=
  !text.toList.any fun c => isUnpaired c && !isEscapedByte c

/-- The number of bytes of a path. -/
def pathSize (text : String) : Nat :=
  text.toList.foldl (fun size c => size + if isUnpaired c then 1 else c.utf8Size) 0

end ScriptBridge.Text
