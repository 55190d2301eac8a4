/-!
# Blanks

Spaces are the characters around a number that its reader skips; blanks are the spaces and the
four information separators, and trimming a text removes them at both ends.  Around a text that is
still bytes only the six blanks of ASCII count.
-/

namespace NodeInventory.Text

/-- White space: tabs, line breaks and the spaces of all widths. -/
def isSpace (c : Char) : Bool :=
  (0x9 ≤ c.toNat && c.toNat ≤ 0xD) || c == ' ' || c.toNat == 0x85 || c.toNat == 0xA0 ||
    c.toNat == 0x1680 || (0x2000 ≤ c.toNat && c.toNat ≤ 0x200A) || c.toNat == 0x2028 ||
    c.toNat == 0x2029 || c.toNat == 0x202F || c.toNat == 0x205F || c.toNat == 0x3000

/-- A space or an information separator. -/
def isBlank (c : Char) : Bool := isSpace c || (0x1C ≤ c.toNat && c.toNat ≤ 0x1F)

/-- A blank among bytes: a space, a tab, a line feed, a vertical tab, a form feed or a carriage
return. -/
def isAsciiBlank (c : Char) : Bool := c == ' ' || (0x9 ≤ c.toNat && c.toNat ≤ 0xD)

/-- Drops the characters of a class at both ends. -/
def trimWith (skip : Char → Bool) (cs : List Char) : List Char :=
  ((cs.dropWhile skip).reverse.dropWhile skip).reverse

/-- A text without the blanks around it. -/
def trim (s : String) : String := String.ofList (trimWith isBlank s.toList)

end NodeInventory.Text
