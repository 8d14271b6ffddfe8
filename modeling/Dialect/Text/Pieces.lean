/-! Texts cut at a separator. -/
namespace Dialect

/-- The pieces between separators; there is always one more than there are separators. -/
def piecesBetween (separator : Char) : List Char → List (List Char)
  | [] => [[]]
  | c :: rest =>
    match piecesBetween separator rest with
    | piece :: more => if c = separator then [] :: piece :: more else (c :: piece) :: more
    | [] => []

end Dialect
