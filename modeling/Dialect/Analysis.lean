import Dialect.Declaration.Check
import Dialect.Structure.Scan

/-! Everything that the project finds in a document on its own, without the host tools. -/
namespace Dialect

def analyze (text : List Char) : List Finding := scan text ++ checkDeclarations text

end Dialect
