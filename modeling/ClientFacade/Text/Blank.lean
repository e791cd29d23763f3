import ClientFacade.Text.Basic

/-!
# Blank characters

The blank characters are the separators of the Unicode classes Zs, Zl and Zp, the ASCII controls
that move the cursor, the four information separators and the next-line control. Trimming removes
them from the ends of a text.
-/

namespace ClientFacade

def blankRanges : List (Nat × Nat) :=
  [(0x09, 0x0D), (0x1C, 0x20), (0x85, 0x85), (0xA0, 0xA0), (0x1680, 0x1680), (0x2000, 0x200A),
   (0x2028, 0x2029), (0x202F, 0x202F), (0x205F, 0x205F), (0x3000, 0x3000)]

def inRanges (ranges : List (Nat × Nat)) (code : Nat) : Bool :=
  ranges.any fun (first, last) => first ≤ code && code ≤ last

def isBlank (c : Char) : Bool := inRanges blankRanges c.toNat

namespace Text

def trimLeft (text : Text) : Text := text.dropWhile isBlank

def trimRight (text : Text) : Text := (text.reverse.dropWhile isBlank).reverse

def trim (text : Text) : Text := trimRight (trimLeft text)

/-- The text without any of the characters of `marks` at its ends. -/
def trimOf (marks : List Char) (text : Text) : Text :=
  ((text.dropWhile marks.contains).reverse.dropWhile marks.contains).reverse

end Text

end ClientFacade
