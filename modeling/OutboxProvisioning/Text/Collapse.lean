import OutboxProvisioning.Text.Blank
import OutboxProvisioning.Text.Split

/-!
# Texts on one line

* `collapse`: a text with every run of white space made one blank.
* `contains`: whether a text has another one in it.
-/

namespace OutboxProvisioning.Text

/-- Characters with every run of white space made one blank; `pending` tells that one is due. -/
def collapseChars (pending : Bool) : List Char → List Char
  | [] => []
  | c :: cs =>
    if isBlank c then collapseChars true cs
    else if pending then ' ' :: c :: collapseChars false cs
    else c :: collapseChars false cs

/-- A text with every run of white space made one blank, and none at its ends. -/
def collapse (s : String) : String :=
  String.ofList (collapseChars false (s.toList.dropWhile isBlank))

/-- Whether a text has another one in it. -/
def contains (s part : String) : Bool := (splitFirst part.toList s.toList).isSome

end OutboxProvisioning.Text
