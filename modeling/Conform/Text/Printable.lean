import Conform.Text.Category
import Conform.Text.Binary
import Conform.Text.Unicode17
/-!
Which characters a quoted text shows as themselves, as Unicode 17.0 has them. A character is
shown when it is assigned and is neither a control, a format character, a private use
character nor a separator other than the space; a combining mark that extends the character
before it is never shown alone, since it would merge with the opening quote or an escape.
-/
namespace Conform.Text

/-- The code points that are not shown: controls, format characters, private use characters
and separators. -/
def hiddenSet : RangeSet :=
  RangeSet.unionAll (["Cc", "Cf", "Co", "Zs", "Zl", "Zp"].map baseCategory)

/-- The extending characters of Unicode 16.0. -/
def extendSet : RangeSet := (binaryProperty? "Grapheme_Extend").getD ⟨#[]⟩

/-- Whether a character is shown as itself. -/
def isPrintable (c : Char) : Bool :=
  c = ' ' ||
    ((assignedSet.contains c.toNat || recentAssigned.contains c.toNat) && !hiddenSet.contains c.toNat)

/-- Whether a character extends the one before it, a grapheme extender beyond the spacing
modifier letters. -/
def isGraphemeExtended (c : Char) : Bool :=
  c.toNat > 0x2FF && (extendSet.contains c.toNat || recentExtend.contains c.toNat)

end Conform.Text
