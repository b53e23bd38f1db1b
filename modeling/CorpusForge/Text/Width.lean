import CorpusForge.Text.Escape
import CorpusForge.Text.Pictograph

/-!
# Display width

The number of columns that a text takes on a terminal: none for control sequences, control
characters and combining marks, two for the wide characters of East Asian scripts and for a
picture, one for any other character.
-/

namespace CorpusForge.Text

/-- A character that takes no column: a control character or a combining mark. -/
def isNarrowest (c : Char) : Bool :=
  let n := c.toNat
  n ≤ 0x1F || (0x7F ≤ n && n ≤ 0x9F) || (0x300 ≤ n && n ≤ 0x36F)

/-- The characters that take two columns, pictures apart. -/
def wide : CharSet :=
  [(0x1100, 0x115F), (0x2329, 0x232A), (0x2E80, 0x303E), (0x3040, 0x3247), (0x3250, 0x4DBF),
   (0x4E00, 0xA4C6), (0xA960, 0xA97C), (0xAC00, 0xD7A3), (0xF900, 0xFAFF), (0xFE10, 0xFE19),
   (0xFE30, 0xFE6B), (0xFF01, 0xFF60), (0xFFE0, 0xFFE6), (0x1B000, 0x1B001), (0x1F200, 0x1F251),
   (0x20000, 0x3FFFD)]

/-- The columns of a character. -/
def charWidth (c : Char) : Nat := if isNarrowest c then 0 else if wide.has c then 2 else 1

/-- The columns of a line. -/
def lineWidth (cs : List Char) : Nat :=
  let shown := replaceAll Escape.sequence? [] 0 cs
  (replaceAll Pictograph.length? [' ', ' '] 0 shown).foldl (fun n c => n + charWidth c) 0

/-- The columns of a text, which is as wide as its widest line. Styles are no part of a line. -/
def width (cs : List Char) : Nat :=
  ((splitAt '\n' (replaceAll Escape.style? [] 0 cs)).map lineWidth).foldl max 0

end CorpusForge.Text
