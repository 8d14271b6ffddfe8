import Dialect.Address.Basic
import Dialect.Value

/-! The shapes that structured values are expected to have. -/
namespace Dialect

mutual

inductive Shape where
  | any
  | flag
  | integer (low high : Int)
  | number
  | text
  | address
  /-- One of some words. A word may also stand as the only field of an object, with nothing in it. -/
  | word (words : List String)
  /-- A value or null. A field of this shape may be left out by those who give names. -/
  | optional (shape : Shape)
  /-- A field of this shape may be left out, at the end of a list too. -/
  | omissible (shape : Shape)
  | list (shape : Shape)
  | dictionary (key value : Shape)
  | either (first second : Shape)
  /-- Fields by their names, where others are passed over, or all of them by position. -/
  | record (layout : Layout)
  /-- Fields by their names only; those that the layout does not know have the shape `extra`. -/
  | named (layout : Layout) (extra : Shape)

/-- The fields of a record in their order. -/
inductive Layout where
  | nil
  | cons (name : String) (shape : Shape) (rest : Layout)

end

namespace Layout

def ofList : List (String × Shape) → Layout
  | [] => .nil
  | (name, shape) :: rest => .cons name shape (ofList rest)

def names : Layout → List String
  | .nil => []
  | .cons name _ rest => name :: rest.names

def get? (layout : Layout) (name : String) : Value → Option Value
  | .object fields => fields.lookup name
  | .list items => items[layout.names.idxOf name]?
  | _ => none

end Layout

namespace Shape

/-- Whether those who give names may leave the field out. -/
def mayLack : Shape → Bool
  | .optional _ | .omissible _ => true
  | _ => false

def isOmissible : Shape → Bool
  | .omissible _ => true
  | _ => false

end Shape

mutual

def Shape.admits : Shape → Value → Bool
  | .any, _ => true
  | .flag, .bool _ => true
  | .integer low high, .integer n => low ≤ n && n ≤ high
  | .number, .integer _ | .number, .fraction => true
  | .text, .string _ => true
  | .address, .string s => (Address.normal? s.toList).isSome
  | .word words, .string s => words.contains s
  | .word words, .object [(name, .null)] => words.contains name
  | .optional _, .null => true
  | .optional shape, value => shape.admits value
  | .omissible shape, value => shape.admits value
  | .list shape, .list items => items.all shape.admits
  | .dictionary key value, .object fields =>
    fields.all fun field => key.admits (.string field.1) && value.admits field.2
  | .either first second, value => first.admits value || second.admits value
  | .record layout, .object fields => layout.admitsFields fields
  | .record layout, .list items => layout.admitsItems items
  | .named layout extra, .object fields =>
    layout.admitsFields fields &&
      fields.all fun field => layout.names.contains field.1 || extra.admits field.2
  | _, _ => false

def Layout.admitsFields : Layout → List (String × Value) → Bool
  | .nil, _ => true
  | .cons name shape rest, fields =>
    (match fields.lookup name with
      | some value => shape.admits value
      | none => shape.mayLack) && rest.admitsFields fields

/-- Whether a list fills a layout by position. -/
def Layout.admitsItems : Layout → List Value → Bool
  | .nil, items => items.isEmpty
  | .cons _ shape rest, [] => shape.isOmissible && rest.admitsItems []
  | .cons _ shape rest, value :: items => shape.admits value && rest.admitsItems items

end

namespace Shape

def fields (members : List (String × Shape)) : Shape := .record (.ofList members)

def namedFields (members : List (String × Shape)) : Shape := .named (.ofList members) .any

end Shape

/-- A list that fills a layout has no more items than the layout has fields. -/
theorem Layout.length_le_of_admitsItems (layout : Layout) (items : List Value)
    (admitted : layout.admitsItems items = true) : items.length ≤ layout.names.length := by
  match layout, items with
  | .nil, [] => simp
  | .nil, _ :: _ => simp [Layout.admitsItems] at admitted
  | .cons _ _ rest, [] => simp
  | .cons _ shape rest, value :: items =>
    simp only [Layout.admitsItems, Bool.and_eq_true] at admitted
    have shorter := rest.length_le_of_admitsItems items admitted.2
    simpa [Layout.names] using shorter

end Dialect
