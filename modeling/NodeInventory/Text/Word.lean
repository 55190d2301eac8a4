import NodeInventory.Text.Ranges
import NodeInventory.Text.WordTable

/-!
# Words

What names are made of: letters, digits and other numerals of all scripts, and the underscore.
-/

namespace NodeInventory.Text

/-- A character of a word. -/
def isWordChar (c : Char) : Bool := inRanges wordRanges c

end NodeInventory.Text
