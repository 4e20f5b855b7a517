import HingeField.Decimal.Layout
import HingeField.Text.Quoted

/-!
Property values: what a configuration holds before it is checked. A value has
a truth, a type name and a text; the text of a value inside a list or a record
is quoted.
-/

namespace HingeField

inductive Property where
  | null
  | boolean (value : Bool)
  | integer (value : Int)
  | real (value : Float)
  | text (value : String)
  | list (items : List Property)
  | record (fields : List (String × Property))

instance : Inhabited Property := ⟨.null⟩

/-- The name of a value's type, as messages give it. -/
def Property.typeName : Property → String
  | .null => "NoneType"
  | .boolean _ => "bool"
  | .integer _ => "int"
  | .real _ => "float"
  | .text _ => "str"
  | .list _ => "list"
  | .record _ => "dict"

/-- Zero and every empty value are false; all other values are true. -/
def Property.isTruthy : Property → Bool
  | .null => false
  | .boolean value => value
  | .integer value => value != 0
  | .real value => value != 0
  | .text value => value != ""
  | .list items => !items.isEmpty
  | .record fields => !fields.isEmpty

mutual

/-- The text of a value inside another one. -/
def Property.inner : Property → String
  | .null => "None"
  | .boolean value => if value then "True" else "False"
  | .integer value => toString value
  | .real value => Decimal.realText value
  | .text value => Text.quoted value
  | .list items => "[" ++ String.intercalate ", " (Property.innerItems items) ++ "]"
  | .record fields => "\x7b" ++ String.intercalate ", " (Property.innerFields fields) ++ "\x7d"

def Property.innerItems : List Property → List String
  | [] => []
  | item :: rest => item.inner :: Property.innerItems rest

def Property.innerFields : List (String × Property) → List String
  | [] => []
  | (key, value) :: rest => (Text.quoted key ++ ": " ++ value.inner) :: Property.innerFields rest

end

/-- The text of a value; a text is its own. -/
def Property.shown : Property → String
  | .text value => value
  | value => value.inner

end HingeField
