/-! The values of a TOML document. Of numbers and dates only what sets them apart from texts and
tables matters here. -/

namespace NumberPattern.Document

inductive Value where
  | text (content : String)
  | integer (number : Int)
  | real (literal : String)
  | boolean (answer : Bool)
  | moment (literal : String)
  | list (items : List Value)
  /-- Fields have different keys. They are read in the order of the text and settled into ascending
  order of keys. -/
  | table (fields : List (String × Value))

/-- The value replaces a value with its key or goes to the end. -/
def place {α : Type} (key : String) (value : α) : List (String × α) → List (String × α)
  | [] => [(key, value)]
  | (other, kept) :: rest =>
      if key = other then (key, value) :: rest else (other, kept) :: place key value rest

/-- The value goes to its place in the order of keys and replaces a value with its key. -/
def put {α : Type} (key : String) (value : α) : List (String × α) → List (String × α)
  | [] => [(key, value)]
  | (other, kept) :: rest =>
      if key < other then (key, value) :: (other, kept) :: rest
      else if key = other then (key, value) :: rest
      else (other, kept) :: put key value rest

end NumberPattern.Document
