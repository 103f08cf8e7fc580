namespace ChainTrust.Text

/-- The pieces of a text between separators; there is one more than there are separators. -/
def pieces (separator : Char) : List Char → List (List Char)
  | [] => [[]]
  | c :: rest =>
    match pieces separator rest with
    | [] => [[c]]
    | l :: ls => if c = separator then [] :: l :: ls else (c :: l) :: ls

end ChainTrust.Text
