import Dialect.Address.Name.Label

/-! The names of hosts in ASCII. The tables of characters are those of Unicode 17. -/
namespace Dialect.Address.Name

/-- A name in ASCII. Its characters are brought to their plain forms first, so that names which differ
only in such forms become equal; none if there is no such name. Where one label is written from right to
left, all have to be steady. -/
def ascii? (name : List Char) : Option (List Char) := do
  let plain ← name.mapM mapped?
  let labels ← (piecesBetween '.' (composed plain.flatten)).mapM Label.read?
  guard (!labels.any (fun label => hasTurn label.text) ||
    labels.all (fun label => isSteady label.text))
  return List.intercalate ['.'] (labels.map Label.ascii)

end Dialect.Address.Name
