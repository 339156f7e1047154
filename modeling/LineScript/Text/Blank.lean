import LineScript.Text.Basic

namespace LineScript.Text

/-- Whether a character separates words: the space, the ASCII controls that move the cursor or
separate records, and the spaces and line separators beyond ASCII. -/
def isBlank (c : Char) : Bool :=
  inRanges
    [(0x9, 0xd), (0x1c, 0x20), (0x85, 0x85), (0xa0, 0xa0), (0x1680, 0x1680), (0x2000, 0x200a),
      (0x2028, 0x2029), (0x202f, 0x202f), (0x205f, 0x205f), (0x3000, 0x3000)] c.toNat

def dropBlanks (t : Text) : Text := t.dropWhile isBlank

def strip (t : Text) : Text := stripBoth isBlank t

/-- The parts between commas, stripped, without those that are empty. -/
def commaParts (t : Text) : List Text :=
  ((splitAll ',' t).map strip).filter fun part => !part.isEmpty

end LineScript.Text
