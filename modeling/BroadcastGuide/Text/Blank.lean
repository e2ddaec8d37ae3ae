/-!
White space of all scripts, and the cuts of a line at it.
-/

namespace BroadcastGuide.Text

/-- Characters that separate words: the Unicode white space and the four information separators. -/
def isBlank (c : Char) : Bool :=
  let n := c.toNat
  (0x09 ≤ n && n ≤ 0x0D) || (0x1C ≤ n && n ≤ 0x20) || n == 0x85 || n == 0xA0 || n == 0x1680 ||
    (0x2000 ≤ n && n ≤ 0x200A) || n == 0x2028 || n == 0x2029 || n == 0x202F || n == 0x205F ||
    n == 0x3000

/-- Drops the characters of a class at both ends. -/
def trimWhile (drop : Char → Bool) (s : List Char) : List Char :=
  ((s.dropWhile drop).reverse.dropWhile drop).reverse

def strip (s : List Char) : List Char := trimWhile isBlank s

/-- The first word of a text, and what follows it and the white space after it. -/
def firstWord (s : List Char) : List Char × List Char :=
  let s := s.dropWhile isBlank
  (s.takeWhile (!isBlank ·), (s.dropWhile (!isBlank ·)).dropWhile isBlank)

end BroadcastGuide.Text
