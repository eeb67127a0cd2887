import NumberPattern.Token

/-! Which cell belongs to which step. Cells are numbered in the order of the text, steps in the order
in which they run. -/

namespace NumberPattern

/-- Claimants are numbered in the order of registration. The first number stands for text that no
registered claimant takes. -/
structure ClaimantId where
  number : Nat
deriving DecidableEq, Repr

def ClaimantId.label (id : ClaimantId) : String := "#" ++ toString id.number

structure Layout where
  /-- The cell of each step. -/
  cells : List Nat := []
  /-- The first cell of each claimant that has one, in ascending order of cells. -/
  claimants : List (ClaimantId × Nat) := []
  /-- The first cell of each standard token that has one, in ascending order of cells. -/
  tokens : List (Token × Nat) := []
deriving DecidableEq, Repr

namespace Layout

variable {κ : Type} [DecidableEq κ]

/-- A key keeps the cell it was first seen at. -/
def note (table : List (κ × Nat)) (key : Option κ) (cell : Nat) : List (κ × Nat) :=
  match key with
  | some key => if table.any (·.1 = key) then table else table ++ [(key, cell)]
  | none => table

/-- The first position of each key of the list. -/
def firstCells (keys : List (Option κ)) : List (κ × Nat) :=
  keys.zipIdx.foldl (fun table entry => note table entry.1 entry.2) []

def size (layout : Layout) : Nat := layout.cells.length

def stepCell? (layout : Layout) (index : Nat) : Option Nat := layout.cells[index]?

def claimantCell? (layout : Layout) (id : ClaimantId) : Option Nat := layout.claimants.lookup id

def tokenCell? (layout : Layout) (token : Token) : Option Nat := layout.tokens.lookup token

end Layout

end NumberPattern
