import Conform.Text.Ranges
/-!
What Unicode 17.0 changes in the 16.0 tables, for the text operations that follow 17.0: case
conversion, the alphabetic and numeric tests of single characters, and the escaping of
characters when text is quoted for a message. Patterns keep to 16.0.

Version 17.0 assigns new characters, among them letters with case pairs, and takes one letter,
U+0295, out of the lowercase letters, so that it is no longer cased.
-/
namespace Conform.Text

/-- The code points assigned in 17.0. -/
def recentAssignedText : String := String.join [
    "C5C CDC 1ACF.1ADD 1AE0.1AEB 20C1 A7CE.A7CF A7D2 A7D4 A7F1 10940.10959 10EC5.10EC7 ",
    "10EFA.10EFB 11B60.11B67 11DB0.11DDB 11DE0.11DE9 16EA0.16EB8 16EBB.16ED3 18D80.18DF2 ",
    "1E6C0.1E6DE 1E6E0.1E6F5 1F6D8 1F8D0.1F8D8 1FA8A 1FA8E 1FAC8 1FACD 1FAEA 1FAEF 1FBFA ",
    "323B0.33479"]

/-- The letters and letter numbers assigned in 17.0. -/
def recentAlphabeticText : String := String.join [
    "C5C CDC A7CE.A7CF A7D2 A7D4 A7F1 10940.10959 10EC5.10EC7 11DB0.11DDB 16EA0.16EB8 ",
    "16EBB.16ED3 18D80.18DF2 1E6C0.1E6DE 1E6E0.1E6F5 323B0.33479"]

/-- The numbers assigned in 17.0. -/
def recentNumericText : String := String.join [
    "11DE0.11DE9"]

/-- The cased letters assigned in 17.0. -/
def recentCasedText : String := String.join [
    "A7CE.A7CF A7D2 A7D4 16EA0.16EB8 16EBB.16ED3"]

/-- The letters cased in 16.0 but not in 17.0. -/
def recentUncasedText : String := String.join [
    "295"]

/-- The case-ignorable characters assigned in 17.0. -/
def recentCaseIgnorableText : String := String.join [
    "1ACF.1ADD 1AE0.1AEB A7F1 10EFA.10EFB 11B60.11B67"]

/-- The combining marks assigned in 17.0, which extend the character before them. -/
def recentExtendText : String := String.join [
    "1ACF.1ADD 1AE0.1AEB 10EFA.10EFB 11B60.11B67"]

/-- Runs of the lowercase mapping of the letters 17.0 pairs. -/
def recentLowerRunsText : String := String.join [
    "A7CE+1 A7D2.A7D4+1/2 16EA0.16EB8+1B"]

/-- Runs of the uppercase mapping of the letters 17.0 pairs. -/
def recentUpperRunsText : String := String.join [
    "A7CF_1 A7D3.A7D5_1/2 16EBB.16ED3_1B"]

def recentAssigned : RangeSet := RangeSet.ofText recentAssignedText

def recentAlphabetic : RangeSet := RangeSet.ofText recentAlphabeticText

def recentNumeric : RangeSet := RangeSet.ofText recentNumericText

def recentCased : RangeSet := RangeSet.ofText recentCasedText

def recentUncased : RangeSet := RangeSet.ofText recentUncasedText

def recentCaseIgnorable : RangeSet := RangeSet.ofText recentCaseIgnorableText

def recentExtend : RangeSet := RangeSet.ofText recentExtendText

def recentLower : ShiftMap := ShiftMap.ofText recentLowerRunsText

def recentUpper : ShiftMap := ShiftMap.ofText recentUpperRunsText

end Conform.Text
