import NumberPattern.Document.Value

/-! A document under construction. Each table remembers how it came about, since that decides what may
still be added to it, and keeps its fields in the order of the text. -/

namespace NumberPattern.Document

inductive Origin where
  /-- On the way to the table of a header. -/
  | implied
  /-- On the way to the value of a dotted key. -/
  | dotted
  /-- By a header of its own. -/
  | stated
deriving DecidableEq, Repr

inductive Node where
  | value (value : Value)
  | table (origin : Origin) (fields : List (String × Node))
  /-- The tables of a header in double brackets. Only the last one can still change. -/
  | items (tables : List (List (String × Node)))

abbrev Fields := List (String × Node)

namespace Fields

/-- Change the table that a header names, creating the tables on the way. -/
def change (edit : Fields → Option Fields) : List String → Fields → Option Fields
  | [], fields => edit fields
  | key :: path, fields =>
      match fields.lookup key with
      | none => (change edit path []).map fun inner => place key (.table .implied inner) fields
      | some (.table origin inner) =>
          (change edit path inner).map fun inner => place key (.table origin inner) fields
      | some (.items tables) =>
          match tables.getLast? with
          | some last =>
              (change edit path last).map fun inner =>
                place key (.items (tables.dropLast ++ [inner])) fields
          | none => none
      | some (.value _) => none

/-- A table has one header, which moves a table that it finds behind the other fields. -/
def openTable (key : String) (fields : Fields) : Option Fields :=
  match fields.lookup key with
  | none => some (place key (.table .stated []) fields)
  | some (.table .implied inner) =>
      some (fields.filter (·.1 ≠ key) ++ [(key, .table .stated inner)])
  | some _ => none

def openItem (key : String) (fields : Fields) : Option Fields :=
  match fields.lookup key with
  | none => some (place key (.items [[]]) fields)
  | some (.items tables) => some (place key (.items (tables ++ [[]])) fields)
  | some _ => none

/-- Add a value under a dotted key, unless there is one. Tables with a header of their own are
closed to dotted keys; `isOpen` tells whether the value may go into these very fields. -/
def add (value : Value) : (isOpen : Bool) → List String → Fields → Option Fields
  | _, [], _ => none
  | isOpen, [key], fields =>
      if isOpen && (fields.lookup key).isNone then some (place key (.value value) fields) else none
  | _, key :: path, fields =>
      match fields.lookup key with
      | none => (add value true path []).map fun inner => place key (.table .dotted inner) fields
      | some (.table .stated _) => none
      | some (.table origin inner) =>
          (add value (origin = .dotted) path inner).map fun inner =>
            place key (.table origin inner) fields
      | some (.items tables) =>
          match tables.getLast? with
          | some last =>
              (add value false path last).map fun inner =>
                place key (.items (tables.dropLast ++ [inner])) fields
          | none => none
      | some (.value _) => none

end Fields

mutual

def Node.close : Node → Value
  | .value value => value
  | .table _ fields => .table (closeFields fields)
  | .items tables => .list (closeTables tables)

def closeFields : List (String × Node) → List (String × Value)
  | [] => []
  | (key, node) :: rest => (key, node.close) :: closeFields rest

def closeTables : List (List (String × Node)) → List Value
  | [] => []
  | fields :: rest => .table (closeFields fields) :: closeTables rest

end

end NumberPattern.Document
