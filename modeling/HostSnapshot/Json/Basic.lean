namespace HostSnapshot

inductive Json
  | null
  | bool (b : Bool)
  | int (n : Int)
  | float (x : Float)
  | str (s : String)
  | arr (items : List Json)
  | obj (members : List (String × Json))
deriving Inhabited, Repr

namespace Json

abbrev Members := List (String × Json)

def Members.find? (members : Members) (key : String) : Option Json := members.lookup key

/-- Replaces a member where it stands, or appends it. -/
def Members.set : Members → String → Json → Members
  | [], key, value => [(key, value)]
  | (k, v) :: rest, key, value =>
    if k = key then (k, value) :: rest else (k, v) :: Members.set rest key value

/-- Of members with one key, the last value counts, at the place of the first. -/
def Members.ofList (pairs : List (String × Json)) : Members :=
  pairs.foldl (fun members (key, value) => members.set key value) []

theorem Members.find?_nil (key : String) : Members.find? [] key = none := rfl

theorem Members.find?_cons (k : String) (v : Json) (members : Members) (key : String) :
    Members.find? ((k, v) :: members) key = if key = k then some v else members.find? key := by
  simp only [find?, List.lookup_cons]
  split <;> simp_all

theorem Members.find?_set (members : Members) (key other : String) (value : Json) :
    (members.set key value).find? other =
      if other = key then some value else members.find? other := by
  induction members with
  | nil => simp only [set, find?, List.lookup_cons, List.lookup_nil]; split <;> simp_all
  | cons head rest ih =>
    obtain ⟨k, v⟩ := head
    simp only [find?] at ih
    simp only [set, find?]
    split <;> simp_all only [List.lookup_cons] <;> split <;> simp_all

end Json

inductive Problem
  | text
  | flag
  | flagWord
  | integer
  | integerText
  | integerFraction
  | integerSize
  | notFinite
  | negative
  | object
  | model (name : String)
  | choice (names : List String)
  | absentWithData
  | frozen
deriving DecidableEq, Repr

namespace Problem

def kind : Problem → String
  | text => "string_type"
  | flag => "bool_type"
  | flagWord => "bool_parsing"
  | integer => "int_type"
  | integerText => "int_parsing"
  | integerFraction => "int_from_float"
  | integerSize => "int_parsing_size"
  | notFinite => "finite_number"
  | negative => "greater_than_equal"
  | object => "dict_type"
  | model _ => "model_type"
  | choice _ => "enum"
  | absentWithData => "value_error"
  | frozen => "frozen_instance"

def oneOf : List String → String
  | [] => ""
  | [a] => s!"'{a}'"
  | [a, b] => s!"'{a}' or '{b}'"
  | a :: rest => s!"'{a}', " ++ oneOf rest

def message : Problem → String
  | text => "Input should be a valid string"
  | flag => "Input should be a valid boolean"
  | flagWord => "Input should be a valid boolean, unable to interpret input"
  | integer => "Input should be a valid integer"
  | integerText => "Input should be a valid integer, unable to parse string as an integer"
  | integerFraction => "Input should be a valid integer, got a number with a fractional part"
  | integerSize => "Unable to parse input string as an integer, exceeded maximum size"
  | notFinite => "Input should be a finite number"
  | negative => "Input should be greater than or equal to 0"
  | object => "Input should be a valid dictionary"
  | model name => s!"Input should be a valid dictionary or instance of {name}"
  | choice names => "Input should be " ++ oneOf names
  | absentWithData => "Value error, a partition that was not found cannot carry data"
  | frozen => "Instance is frozen"

end Problem

/-- A problem, the keys that lead to where it is, and what stands there. -/
structure Issue where
  problem : Problem
  place : List String
  input : Json
deriving Repr

def Issue.within (key : String) (i : Issue) : Issue := { i with place := key :: i.place }

/-- A value, or all that is wrong with what it was read from. -/
abbrev Checked (α : Type) := Except (List Issue) α

end HostSnapshot
