/-!
Replacing occurrences of a pattern in a text: every occurrence, scanning left to right without
overlap, as message templates are filled in, or only the first.
-/
namespace Conform.Text

/-- Replaces each occurrence of the nonempty `pat` in a character list by `rep`, from left to
right; text put in is not scanned again. -/
def replaceChars (pat rep : List Char) : List Char → List Char
  | [] => []
  | c :: cs =>
    if _h : pat ≠ [] ∧ pat.isPrefixOf (c :: cs) then
      rep ++ replaceChars pat rep ((c :: cs).drop pat.length)
    else c :: replaceChars pat rep cs
termination_by s => s.length
decreasing_by
  · have : pat.length ≠ 0 := by simpa using _h.1
    simp only [List.length_drop, List.length_cons]
    omega
  · simp

/-- Replaces the first occurrence of `pat` in a character list by `rep`; an empty `pat` occurs
at the start. -/
def replaceFirstChars (pat rep : List Char) : List Char → List Char
  | [] => if pat.isEmpty then rep else []
  | c :: cs =>
    if pat.isPrefixOf (c :: cs) then rep ++ (c :: cs).drop pat.length
    else c :: replaceFirstChars pat rep cs

/-- Replaces the first occurrence of `pat` in `s` by `rep`. -/
def replaceFirst (s pat rep : String) : String :=
  String.ofList (replaceFirstChars pat.toList rep.toList s.toList)

/-- Replaces every occurrence of the nonempty `pat` in `s` by `rep`. -/
def replaceAll (s pat rep : String) : String :=
  String.ofList (replaceChars pat.toList rep.toList s.toList)

end Conform.Text
