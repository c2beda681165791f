import RequestLog.Text.CharTable

/-!
# Blank characters

Blanks are what surrounds a value without belonging to it: spaces, tabs, line and page ends, the
four information separators and the spaces of Unicode. `trim` removes them at both ends and
nowhere else.
-/

namespace RequestLog.Text

/-- The blank characters. -/
def blankTable : CharTable := [
    (0x9, 0xd), (0x1c, 0x20), (0x85, 0x85), (0xa0, 0xa0), (0x1680, 0x1680), (0x2000, 0x200a),
    (0x2028, 0x2029), (0x202f, 0x202f), (0x205f, 0x205f), (0x3000, 0x3000)]

/-- A character that `trim` removes at the ends of a text. -/
def isBlank (c : Char) : Bool := blankTable.contains c

/-- The characters without those at both ends that `p` holds of. -/
def trimBy (p : Char → Bool) (cs : List Char) : List Char :=
  ((cs.dropWhile p).reverse.dropWhile p).reverse

/-- The text without the blanks at its ends. -/
def trim (s : String) : String := String.ofList (trimBy isBlank s.toList)

end RequestLog.Text
