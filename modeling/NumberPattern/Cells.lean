/-! The output of one run: a row of cells, one for each claim on the pattern, in the order of the
text. A cell that is never written stays out of the result. Cells outside the row cannot be written
and hold nothing. -/

namespace NumberPattern

structure Cells where
  texts : List (Option String)
deriving DecidableEq, Repr

/-- The text without the minus sign it starts with. -/
def withoutSign (text : String) : String :=
  match text.toList with
  | '-' :: rest => String.ofList rest
  | _ => text

@[simp] theorem withoutSign_minus (text : String) : withoutSign ("-" ++ text) = text := by
  simp [withoutSign, String.toList_append]

namespace Cells

def blank (count : Nat) : Cells := ⟨List.replicate count none⟩

def text? (cells : Cells) (cell : Nat) : Option String := (cells.texts[cell]?).join

def isFilled (cells : Cells) (cell : Nat) : Bool := (cells.text? cell).isSome

def write (cells : Cells) (cell : Nat) (text : String) : Cells := ⟨cells.texts.set cell (some text)⟩

def clear (cells : Cells) (cell : Nat) : Cells := ⟨cells.texts.set cell none⟩

def stripSign (cells : Cells) (cell : Nat) : Cells :=
  ⟨cells.texts.modify cell (Option.map withoutSign)⟩

def joined (cells : Cells) : String := String.join (cells.texts.filterMap id)

variable {cells : Cells} {cell other : Nat} {text : String}

@[simp] theorem length_write : (cells.write cell text).texts.length = cells.texts.length := List.length_set

@[simp] theorem length_clear : (cells.clear cell).texts.length = cells.texts.length := List.length_set

@[simp] theorem length_stripSign : (cells.stripSign cell).texts.length = cells.texts.length :=
  List.length_modify ..

@[simp] theorem text?_write_self (inside : cell < cells.texts.length) :
    (cells.write cell text).text? cell = some text := by
  simp [text?, write, inside]

@[simp] theorem text?_write_other (different : other ≠ cell) :
    (cells.write cell text).text? other = cells.text? other := by
  simp [text?, write, List.getElem?_set_ne different.symm]

@[simp] theorem text?_clear_self : (cells.clear cell).text? cell = none := by
  rw [text?, clear, List.getElem?_set_self']
  cases cells.texts[cell]? <;> rfl

@[simp] theorem text?_clear_other (different : other ≠ cell) :
    (cells.clear cell).text? other = cells.text? other := by
  simp [text?, clear, List.getElem?_set_ne different.symm]

@[simp] theorem text?_stripSign_self :
    (cells.stripSign cell).text? cell = (cells.text? cell).map withoutSign := by
  rw [text?, text?, stripSign, List.getElem?_modify_eq]
  cases cells.texts[cell]? with
  | none => rfl
  | some text => rfl

@[simp] theorem text?_stripSign_other (different : other ≠ cell) :
    (cells.stripSign cell).text? other = cells.text? other := by
  rw [text?, text?, stripSign, List.getElem?_modify_ne _ _ different.symm]

theorem inside_of_text (written : cells.text? cell = some text) : cell < cells.texts.length := by
  cases found : cells.texts[cell]? with
  | none => simp [text?, found] at written
  | some content => exact (List.getElem?_eq_some_iff.mp found).1

@[simp] theorem text?_blank (count cell : Nat) : (blank count).text? cell = none := by
  rw [text?, blank, List.getElem?_replicate]
  split <;> rfl

end Cells

end NumberPattern
