import Dialect.Declaration.Basic
import Dialect.Editor.Encoding

/-! Completion: what can stand at the cursor, from what stands before it on its line. -/
namespace Dialect.Editor

inductive Context where
  | contextVariable (typed : List Char)
  | underscore (typed : List Char)
  | structural (typed : List Char)
  | declaredType (typed : List Char)
  | enumValue (name typed : List Char)
  | nothing
  deriving Repr, DecidableEq

/-- Recognises `declare NAME : enum … = "TYPED` up to the end of the text. -/
def openEnumValue? (before : Option Char) (here : List Char) :
    Option ((List Char × List Char) × Nat) := do
  let (name, rest) ← declaredName? before here
  let rest ← after? "enum".toList rest
  if !endsWord rest then none
  let rest ← after? ['='] (rest.dropWhile (· ≠ '='))
  let typed ← after? ['"'] (trimStart rest)
  if typed.contains '"' then none
  return ((name, typed), here.length)

/-- Recognises `declare NAME : TYPED` up to the end of the text. -/
def openType? (before : Option Char) (here : List Char) : Option (List Char × Nat) := do
  let (_, typed) ← declaredName? before here
  if !typed.all isAsciiLetter then none
  return (typed, here.length)

/-- The identifier that the text ends in, and what stands before it. -/
def splitWord (text : List Char) : List Char × List Char :=
  let word := (text.reverse.takeWhile isIdentChar).reverse
  (text.take (text.length - word.length), word)

def contextOf (before : List Char) : Context :=
  match (findAll openEnumValue? before).head? with
  | some found => .enumValue found.value.1 found.value.2
  | none =>
    match (findAll openType? before).head? with
    | some found => .declaredType found.value
    | none =>
      let (preceding, word) := splitWord before
      if preceding.getLast? = some sigil then .contextVariable word
      else if preceding.getLast? = some '(' then .structural word
      else if word.head? = some '_' then .underscore word
      else .nothing

def contextAt? (text : List Char) (cursor : Place) (encoding : Encoding) : Option Context :=
  (beforeCursor? text cursor encoding).map contextOf

inductive ItemKind where
  | contextVariable | keyword | typeName | option
  deriving Repr, DecidableEq

def ItemKind.number : ItemKind → Nat
  | .contextVariable => 6
  | .keyword => 14
  | .option => 20
  | .typeName => 25

structure Item where
  label : String
  kind : ItemKind
  labelDetail : Option String := none
  detail : Option String := none
  deriving Repr, DecidableEq

def optionsOf (text name : List Char) : List (List Char) :=
  (((findDeclarations text).find? (·.name = name)).map (·.options)).getD []

def itemsFor? (text : List Char) : Context → Option (List Item)
  | .contextVariable typed =>
    some ((contextVariables.filter fun term => startsWith typed term.name.toList).map fun term =>
      ⟨term.name, .contextVariable, some " context", some term.meaning⟩)
  | .underscore typed =>
    some ((underscoreKeywords.filter fun term => startsWith typed term.name.toList).map fun term =>
      ⟨term.name, .keyword, none, some term.meaning⟩)
  | .structural typed =>
    some ((structuralKeywords.filter (startsWith typed)).map fun word =>
      ⟨String.ofList word, .keyword, some " structural", none⟩)
  | .declaredType typed =>
    some ((declaredTypes.filter fun name => startsWith typed name.toList).map fun name =>
      ⟨name, .typeName, none, none⟩)
  | .enumValue name typed =>
    some (((optionsOf text name).filter (startsWith typed)).map fun choice =>
      ⟨String.ofList choice, .option, some (" " ++ String.ofList name), none⟩)
  | .nothing => none

def complete? (text : List Char) (cursor : Place) (encoding : Encoding) : Option (List Item) :=
  (contextAt? text cursor encoding).bind (itemsFor? text)

end Dialect.Editor
