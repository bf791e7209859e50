/-
Module: Shiliu.Library.Json
Purpose: JSON values, a number as the text of its literal, and what is left of one when members that are
  null are taken out of its objects.
Trusted boundary: none
Main exports: Json, Json.withoutNulls, Json.membersWithoutNulls
-/
import Mathlib.Tactic.Common

namespace Shiliu.Library

inductive Json where
  | null
  | bool (value : Bool)
  | number (literal : String)
  | text (value : String)
  | array (items : List Json)
  | object (members : List (String × Json))

namespace Json

mutual

/-- A value whose objects have no null members. Nulls stay in arrays. -/
def withoutNulls : Json → Json
  | null => null
  | bool value => bool value
  | number literal => number literal
  | text value => text value
  | array items => array (itemsWithoutNulls items)
  | object members => object (membersWithoutNulls members)

def itemsWithoutNulls : List Json → List Json
  | [] => []
  | item :: rest => item.withoutNulls :: itemsWithoutNulls rest

def membersWithoutNulls : List (String × Json) → List (String × Json)
  | [] => []
  | (_, null) :: rest => membersWithoutNulls rest
  | (key, value) :: rest => (key, value.withoutNulls) :: membersWithoutNulls rest

end

end Json

end Shiliu.Library
