/-!
# Texts in pieces
-/
namespace Blueprint.Text

/-- The pieces between separators: one more than there are separators, and any may be empty. -/
def pieces (separator : Char) : List Char → List (List Char)
  | [] => [[]]
  | c :: cs =>
    if c = separator then [] :: pieces separator cs
    else
      match pieces separator cs with
      | [] => [[c]]
      | piece :: rest => (c :: piece) :: rest

end Blueprint.Text
