import Dialect.Address.Basic

/-! The names of documents. -/
namespace Dialect.Editor

abbrev Uri := String

def Uri.ofText? (text : String) : Option Uri := (Address.normal? text.toList).map String.ofList

end Dialect.Editor
