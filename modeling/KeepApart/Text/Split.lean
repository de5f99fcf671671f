/-!
# Parts of texts

A text is split at every occurrence of a character, which belongs to none of the parts. A text without
the character is its only part.
-/

namespace KeepApart.Text

def splitOn (mark : Char) (s : String) : List String :=
  (s.toList.splitOn mark).map String.ofList

example : splitOn '/' "/a//b" = ["", "a", "", "b"] := by decide

end KeepApart.Text
