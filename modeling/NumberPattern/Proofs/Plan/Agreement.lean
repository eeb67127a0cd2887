import NumberPattern.Plan

/-! A lexicon is read at the characters of the pattern only: lexicons that agree on these compile the
pattern to the same plan. -/

namespace NumberPattern

namespace Lexicon

/-- The lexicons call the same entries for each character of the text and name tokens the same. -/
structure AgreesOn (lexicon other : Lexicon) (text : List Char) : Prop where
  unclaimed : lexicon.unclaimed = other.unclaimed
  tokens : lexicon.tokens = other.tokens
  index : ∀ c ∈ text, lexicon.index.lookup c = other.index.lookup c

variable {lexicon other : Lexicon} {c : Char} {rest : List Char}

theorem AgreesOn.tail (agrees : lexicon.AgreesOn other (c :: rest)) : lexicon.AgreesOn other rest :=
  { agrees with index := (List.forall_mem_cons.mp agrees.index).2 }

theorem takeWhile_congr {keep keep' : Char → Bool} {text : List Char}
    (agree : ∀ c ∈ text, keep c = keep' c) : text.takeWhile keep = text.takeWhile keep' := by
  induction text with
  | nil => rfl
  | cons c text ih =>
    obtain ⟨first, others⟩ := List.forall_mem_cons.mp agree
    rw [List.takeWhile_cons, List.takeWhile_cons, first, ih others]

theorem fallbackStep_congr (agrees : lexicon.AgreesOn other rest) :
    lexicon.fallbackStep c rest = other.fallbackStep c rest := by
  have run : (rest.takeWhile fun c => !lexicon.isTrigger c) = rest.takeWhile fun c => !other.isTrigger c :=
    takeWhile_congr fun c member => by rw [isTrigger, isTrigger, agrees.index c member]
  rw [fallbackStep, fallbackStep, agrees.unclaimed, run]

theorem dispatch_congr (agrees : lexicon.AgreesOn other (c :: rest)) (tally : Tally) (pattern : String)
    (position : Nat) :
    lexicon.dispatch tally ⟨pattern, position, c :: rest⟩ =
      other.dispatch tally ⟨pattern, position, c :: rest⟩ := by
  simp only [dispatch, called, agrees.index c List.mem_cons_self, fallbackStep_congr agrees.tail]

end Lexicon

namespace Plan

variable {lexicon other : Lexicon} {pattern : String}

theorem scanFrom_congr {text : List Char} (agrees : lexicon.AgreesOn other text) (tally : Tally)
    (position skipped : Nat) :
    scanFrom lexicon pattern tally position skipped text =
      scanFrom other pattern tally position skipped text := by
  induction text generalizing tally position skipped with
  | nil => simp only [scanFrom]
  | cons c rest ih =>
    cases skipped with
    | succ skipped => simp only [scanFrom, ih agrees.tail]
    | zero => simp only [scanFrom, Lexicon.dispatch_congr agrees, ih agrees.tail]

theorem ofClaims_congr (tokens : lexicon.tokens = other.tokens) (serial : Nat) :
    ofClaims lexicon serial pattern = ofClaims other serial pattern := by
  have named : lexicon.token? = other.token? := by
    funext id
    rw [Lexicon.token?, Lexicon.token?, tokens]
  funext claims
  simp only [ofClaims, layoutOf, named]

theorem compile_congr (agrees : lexicon.AgreesOn other pattern.toList) (serial : Nat) :
    compile lexicon serial pattern = compile other serial pattern := by
  have start : lexicon.tally = other.tally := by rw [Lexicon.tally, Lexicon.tally, agrees.tokens]
  rw [compile, compile, scan, scan, start, scanFrom_congr agrees, ofClaims_congr agrees.tokens]

end Plan

end NumberPattern
