import NumberPattern.Document.Reader

/-! What a document stands for. A moment can also be written as a table that begins with the moment
field. Every other table has its fields in ascending order of keys, wherever the text has them. -/

namespace NumberPattern.Document

/-- The field that makes its table a moment, if it comes first. Later fields do not matter then. -/
def momentField : String := "$__toml_private_datetime"

/-- The last hour may be the one that ends the day, and an offset may be any of at most a day. -/
def HourLimits.ofField : HourLimits := ⟨24, fun hours minutes => hours * 60 + minutes ≤ 24 * 60⟩

/-- The moment that the moment field holds as a text. -/
def momentOf? : Value → Option Value
  | .text content => if isMoment .ofField content.toList then some (.moment content) else none
  | _ => none

mutual

/-- The value that is meant, or nothing when a moment field holds no moment. -/
def Value.settle? : Value → Option Value
  | .list items => (settleItems? items).map .list
  | .table [] => some (.table [])
  | .table ((key, first) :: rest) =>
      if key = momentField then momentOf? first
      else (settleFields? ((key, first) :: rest)).map .table
  | value => some value

def settleItems? : List Value → Option (List Value)
  | [] => some []
  | item :: rest => do some ((← item.settle?) :: (← settleItems? rest))

def settleFields? : List (String × Value) → Option (List (String × Value))
  | [] => some []
  | (key, value) :: rest => do some (put key (← value.settle?) (← settleFields? rest))

end

/-- The document as one value, or nothing when the text stands for none. -/
def value (text : String) : Option Value := do (Value.table (← read text)).settle?

end NumberPattern.Document
