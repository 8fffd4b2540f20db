import LineLisp.Text.CharRange

/-! White space: the characters of the White_Space property.
Both the reader of tokens and the test for a blank line use this one class. -/
namespace LineLisp.Text

def blankRanges : List CharRange := charRanges
  [(0x9,0xd),(0x20,0x20),(0x85,0x85),(0xa0,0xa0),(0x1680,0x1680),(0x2000,0x200a),(0x2028,0x2029),
   (0x202f,0x202f),(0x205f,0x205f),(0x3000,0x3000)]

def isBlank (c : Char) : Bool :=
  inRanges blankRanges c

def isBlankLine (line : String) : Bool :=
  line.toList.all isBlank

end LineLisp.Text
