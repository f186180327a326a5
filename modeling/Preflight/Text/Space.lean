/-!
# White space

A source text is a list of characters. This module fixes which of them count
as white space: the twenty-five characters with the Unicode property
`White_Space`. Blank lines, the gaps around an entrypoint name and patterns
refer to it.
-/

namespace Preflight.Text

/-- The white space characters as closed ranges of code points, in increasing
order. -/
def spaceRanges : List (Nat × Nat) :=
  [(0x09, 0x0d), (0x20, 0x20), (0x85, 0x85), (0xa0, 0xa0),
    (0x1680, 0x1680), (0x2000, 0x200a), (0x2028, 0x2029),
    (0x202f, 0x202f), (0x205f, 0x205f), (0x3000, 0x3000)]

/-- A character is white space when its code point lies in one of the
ranges. -/
def isSpace (c : Char) : Bool :=
  spaceRanges.any fun range => range.1 ≤ c.toNat && c.toNat ≤ range.2

/-- A line is blank when it holds nothing but white space; the empty line is
blank. -/
def isBlank (line : List Char) : Bool :=
  line.all isSpace

end Preflight.Text
