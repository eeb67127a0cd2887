import NumberPattern.Lexicon

/-! A pattern is compiled once into a plan: its claims, sorted by weight, with the cell that each
writes to. A plan renders any number of values. -/

namespace NumberPattern

/-- A step of a plan, with the claimant that it came from. -/
structure PlannedStep where
  action : Action
  weight : Int
  claimant : ClaimantId

instance : BEq PlannedStep where
  beq step other :=
    step.action == other.action && step.weight == other.weight && step.claimant == other.claimant

structure Plan where
  pattern : String
  /-- In the order in which they run. -/
  steps : List PlannedStep
  precision : Precision
  layout : Layout

instance : BEq Plan where
  beq plan other :=
    plan.pattern == other.pattern && plan.steps == other.steps &&
      plan.precision == other.precision && plan.layout == other.layout

namespace Plan

/-- The claims on the text, from left to right. The first `skipped` characters belong to the claim
before them. -/
def scanFrom (lexicon : Lexicon) (pattern : String) :
    Tally → (position skipped : Nat) → List Char → Except Failure (List Claim)
  | _, _, _, [] => .ok []
  | tally, position, skipped + 1, c :: rest =>
      scanFrom lexicon pattern tally (position + c.utf8Size) skipped rest
  | tally, position, 0, c :: rest =>
      match lexicon.dispatch tally ⟨pattern, position, c :: rest⟩ with
      | .error error => .error error
      | .ok (claim, tally) =>
          match scanFrom lexicon pattern tally (position + c.utf8Size) claim.step.consumed rest with
          | .error error => .error error
          | .ok claims => .ok (claim :: claims)

def scan (lexicon : Lexicon) (pattern : String) : Except Failure (List Claim) :=
  scanFrom lexicon pattern lexicon.tally 0 0 pattern.toList

/-- Before the first claim that is not lighter. -/
def insertByWeight (item : Claim × Nat) : List (Claim × Nat) → List (Claim × Nat)
  | [] => [item]
  | other :: rest =>
      if item.1.step.weight ≤ other.1.step.weight then item :: other :: rest
      else other :: insertByWeight item rest

/-- Claims with their cells in ascending order of weight. Claims of one weight keep the order of the
text. -/
def arrange (claims : List (Claim × Nat)) : List (Claim × Nat) := claims.foldr insertByWeight []

/-- Later fragments win. -/
def precisionOf (claims : List Claim) : Precision :=
  (claims.filterMap (·.step.fragment)).foldl Precision.merge {}

def layoutOf (lexicon : Lexicon) (claims : List Claim) (cells : List Nat) : Layout where
  cells := cells
  claimants := Layout.firstCells (claims.map fun claim => some claim.claimant)
  tokens := Layout.firstCells (claims.map fun claim => lexicon.token? claim.claimant)

def plannedStep (serial : Nat) (item : Claim × Nat) : PlannedStep where
  action := item.1.step.action.placed serial item.2
  weight := item.1.step.weight
  claimant := item.1.claimant

def ofClaims (lexicon : Lexicon) (serial : Nat) (pattern : String) (claims : List Claim) : Plan :=
  let ordered := arrange claims.zipIdx
  { pattern := pattern
    steps := ordered.map (plannedStep serial)
    precision := precisionOf claims
    layout := layoutOf lexicon claims (ordered.map (·.2)) }

/-- The serial number sets the custom steps made for this plan apart from those of other plans. -/
def compile (lexicon : Lexicon) (serial : Nat) (pattern : String) : Except Failure Plan :=
  (scan lexicon pattern).map (ofClaims lexicon serial pattern)

def setting (plan : Plan) (rounding : Float → Float) (locale : Locale) : Setting where
  rounding := rounding
  locale := locale
  precision := plan.precision
  layout := plan.layout

/-- The run after all steps. -/
def runAll : Setting → List (PlannedStep × Nat) → Run → Run
  | _, [], run => run
  | setting, (step, cell) :: rest, run =>
      runAll ⟨step.action.termsAfter setting cell run, setting.layout⟩ rest
        (step.action.perform setting cell run)

def finish (plan : Plan) (value : Float) (rounding : Float → Float) (locale : Locale) : Run :=
  runAll (plan.setting rounding locale) (plan.steps.zip plan.layout.cells)
    (Run.start value plan.layout.size)

def render (plan : Plan) (value : Float) (rounding : Float → Float) (locale : Locale) : String :=
  (plan.finish value rounding locale).cells.joined

end Plan

end NumberPattern
