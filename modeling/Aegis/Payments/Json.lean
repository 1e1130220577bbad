import Mathlib.Data.Int.Notation
import Aegis.Lib.Python

/-!
# Payloads

The values that `json.loads` returns, with the Python operations that the payment
adapters use on them.  A float is given by its `repr`, and the `str` of a list or a dict
is a parameter.
-/

namespace Aegis.Payments

open Aegis.Lib

/-- A value that `json.loads` returns; a dict is the list of its items. -/
inductive Json where
  | none
  | bool (value : Bool)
  | int (value : ℤ)
  | float (repr : String)
  | str (text : String)
  | list (items : List Json)
  | dict (items : List (String × Json))

namespace Json

/-- `bool(value)`. -/
def truthy : Json → Bool
  | none => false
  | bool value => value
  | int value => value ≠ 0
  | float repr => repr ≠ "0.0" && repr ≠ "-0.0"
  | str text => text ≠ ""
  | list items => !items.isEmpty
  | dict items => !items.isEmpty

/-- `value or other`. -/
def or (value other : Json) : Json := if value.truthy then value else other

/-- `value.get(key, default)`; only dicts have `get`. -/
def get (value : Json) (key : String) (default : Json) : Except PyError Json :=
  match value with
  | dict items => .ok ((items.lookup key).getD default)
  | none | bool _ | int _ | float _ | str _ | list _ => .error .attributeError

/-- The item of a dict, or `None`. -/
def item (value : Json) (key : String) : Json :=
  match value with
  | dict items => (items.lookup key).getD none
  | none | bool _ | int _ | float _ | str _ | list _ => none

/-- A text method of a value; only strings have them. -/
def text : Json → Except PyError String
  | str text => .ok text
  | none | bool _ | int _ | float _ | list _ | dict _ => .error .attributeError

/-- `str(value)`. -/
def toText (containerText : Json → String) : Json → String
  | none => "None"
  | bool true => "True"
  | bool false => "False"
  | int value => toString value
  | float repr => repr
  | str text => text
  | list items => containerText (list items)
  | dict items => containerText (dict items)

theorem get_eq_item {value found : Json} {key : String} (get : value.get key none = .ok found) :
    found = value.item key := by
  cases value with
  | dict items =>
      cases get
      rfl
  | none | bool _ | int _ | float _ | str _ | list _ => cases get

/-- An item of an item that is a dict where it is missing. -/
theorem item_get_dict {value found : Json} {key : String}
    (get : value.get key (dict []) = .ok found) (other : String) :
    found.item other = (value.item key).item other := by
  cases value with
  | dict items =>
      cases get
      rw [item.eq_def (dict items)]
      dsimp only
      cases items.lookup key <;> rfl
  | none | bool _ | int _ | float _ | str _ | list _ => cases get

end Json

end Aegis.Payments
