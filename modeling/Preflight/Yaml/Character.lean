import Preflight.Text.Word

/-!
# Characters of YAML texts

A YAML text may hold printable characters, tabs and line breaks. This module
fixes which characters those are and which of them structure a text. Line
breaks are made uniform before reading, so that each is a single character.
-/

namespace Preflight.Yaml

/-- The characters that a text may hold. -/
def isAllowed (c : Char) : Bool :=
  let n := c.toNat
  n = 0x09 || n = 0x0a || n = 0x0d || n = 0x85 ||
    (0x20 ≤ n && n ≤ 0x7e) || (0xa0 ≤ n && n ≤ 0xfffd) || 0x10000 ≤ n

/-- The line breaks of a text in which they are uniform. -/
def isBreak (c : Char) : Bool :=
  c = '\n' || c = '\u2028' || c = '\u2029'

/-- The text with a line feed for each carriage return, alone or in front of a
line feed, and for each next-line control. -/
def uniformBreaks : List Char → List Char
  | [] => []
  | '\r' :: '\n' :: rest => '\n' :: uniformBreaks rest
  | c :: rest =>
      (if c = '\r' ∨ c = '\x85' then '\n' else c) :: uniformBreaks rest

def isBlank (c : Char) : Bool :=
  c = ' ' || c = '\t'

/-- Whether a gap starts here: white space, or the end of the text. -/
def isGap : Option Char → Bool
  | none => true
  | some c => isBlank c || isBreak c

/-- The mark that may stand at the start of any line. -/
def byteOrderMark : Char := '\ufeff'

/-- The characters that structure flow collections. -/
def isFlowIndicator (c : Char) : Bool :=
  c = ',' || c = '[' || c = ']' || c = '\x7b' || c = '\x7d'

/-- The characters that cannot start a plain scalar, or only in front of a
character that is no gap. -/
def isIndicator (c : Char) : Bool :=
  "-?:,[]\x7b\x7d#&*!|>\x27\"%@\x60".toList.contains c

/-- The characters of names: of anchors, tag handles and directives. -/
def isNameChar (c : Char) : Bool :=
  Text.isWordChar c || c = '-'

end Preflight.Yaml
