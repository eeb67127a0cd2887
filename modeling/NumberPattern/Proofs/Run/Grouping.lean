import NumberPattern.Proofs.Run.Substitution

/-! Groups of digits. Each run of digits of a text is cut into blocks of three, counted from its end. In a
plan it makes no difference to any other step whether the integer is grouped, and the groups are the same
however the steps behind the grouping move the sign. -/

namespace NumberPattern
open Lexicon (standard)

namespace Amount

/-- Blocks of three, of which only the first may be shorter. -/
structure InThrees (blocks : List (List Char)) : Prop where
  first : ∀ block ∈ blocks.head?, 0 < block.length ∧ block.length ≤ 3
  others : ∀ block ∈ blocks.tail, block.length = 3

/-- The second text is the first one with each run of digits cut into blocks. -/
inductive Grouped (separator : List Char) : List Char → List Char → Prop where
  | nil : Grouped separator [] []
  | other {c : Char} {rest grouped : List Char} (plain : c.isDigit = false)
      (further : Grouped separator rest grouped) : Grouped separator (c :: rest) (c :: grouped)
  /-- The run goes on as long as digits follow. -/
  | run {blocks : List (List Char)} {rest grouped : List Char} (filled : blocks ≠ []) (cut : InThrees blocks)
      (digits : ∀ c ∈ blocks.flatten, c.isDigit = true) (ends : ∀ c ∈ rest.head?, c.isDigit = false)
      (further : Grouped separator rest grouped) :
      Grouped separator (blocks.flatten ++ rest) (separator.intercalate blocks ++ grouped)

variable {separator text rest block : List Char} {blocks : List (List Char)}

theorem takeWhile_of_ends (ends : ∀ c ∈ rest.head?, c.isDigit = false) : rest.takeWhile Char.isDigit = [] := by
  cases rest with
  | nil => rfl
  | cons c rest => simp [ends c rfl]

/-- A block before whole blocks of three is kept together, and a separator follows if digits do. -/
theorem groupDigits_block (separator : List Char) (digits : ∀ c ∈ block, c.isDigit = true) (filled : block ≠ [])
    (most : block.length ≤ 3) (threes : (rest.takeWhile Char.isDigit).length % 3 = 0) :
    groupDigits separator (block ++ rest) =
      block ++
        ((if rest.takeWhile Char.isDigit = [] then [] else separator) ++ groupDigits separator rest) := by
  induction block with
  | nil => exact absurd rfl filled
  | cons c block ih =>
    obtain ⟨digit, digits⟩ := List.forall_mem_cons.mp digits
    have further : ((block ++ rest).takeWhile Char.isDigit).length =
        block.length + (rest.takeWhile Char.isDigit).length := by
      rw [List.takeWhile_append_of_pos digits, List.length_append]
    rw [List.length_cons] at most
    rw [List.cons_append, groupDigits]
    simp only [further]
    cases block with
    | nil =>
      by_cases last : rest.takeWhile Char.isDigit = []
      · simp [last]
      · simp [last, digit, threes]
    | cons d block =>
      rw [List.length_cons] at most ⊢
      rw [if_neg (by omega), ih digits (by simp) (by simp; omega)]
      rfl

/-- A run of digits that is cut into blocks is written with a separator between any two of them. -/
theorem groupDigits_blocks (separator : List Char) (filled : blocks ≠ []) (cut : InThrees blocks)
    (digits : ∀ c ∈ blocks.flatten, c.isDigit = true) (ends : ∀ c ∈ rest.head?, c.isDigit = false) :
    groupDigits separator (blocks.flatten ++ rest) =
      separator.intercalate blocks ++ groupDigits separator rest := by
  induction blocks with
  | nil => exact absurd rfl filled
  | cons block blocks ih =>
    obtain ⟨least, most⟩ := cut.first block rfl
    have others : ∀ block ∈ blocks, block.length = 3 := cut.others
    rw [List.flatten_cons] at digits ⊢
    obtain ⟨own, later⟩ := List.forall_mem_append.mp digits
    have follow : (blocks.flatten ++ rest).takeWhile Char.isDigit = blocks.flatten := by
      rw [List.takeWhile_append_of_pos later, takeWhile_of_ends ends, List.append_nil]
    have size : blocks.flatten.length = 3 * blocks.length := by
      rw [List.length_flatten, List.map_congr_left others]
      simp [Nat.mul_comm]
    have threes : ((blocks.flatten ++ rest).takeWhile Char.isDigit).length % 3 = 0 := by
      rw [follow]
      omega
    have first := groupDigits_block separator own (List.ne_nil_of_length_pos least) most threes
    rw [List.append_assoc, first, follow]
    cases blocks with
    | nil => simp
    | cons next blocks =>
      have inner : InThrees (next :: blocks) := by
        have three := others next List.mem_cons_self
        refine ⟨?_, fun block member => others block (List.mem_cons_of_mem _ member)⟩
        rintro _ ⟨⟩
        omega
      have nonempty : (next :: blocks).flatten ≠ [] := by
        intro none
        rw [none, List.length_nil, List.length_cons] at size
        omega
      rw [if_neg nonempty, ih (by simp) inner later, List.intercalate_cons_cons]
      simp only [List.append_assoc]

/-- Every run of digits can be cut into blocks. -/
theorem exists_blocks {run : List Char} (filled : run ≠ []) :
    ∃ blocks, blocks ≠ [] ∧ InThrees blocks ∧ blocks.flatten = run := by
  by_cases short : run.length ≤ 3
  · exact ⟨[run], by simp, ⟨by simp [short, List.length_pos_iff.mpr filled], by simp⟩, by simp⟩
  · have left : run.take (run.length - 3) ≠ [] := by
      apply List.ne_nil_of_length_pos
      rw [List.length_take]
      omega
    have shorter : (run.take (run.length - 3)).length < run.length := by
      rw [List.length_take]
      omega
    obtain ⟨blocks, some, cut, joined⟩ := exists_blocks left
    refine ⟨blocks ++ [run.drop (run.length - 3)], by simp, ⟨?_, ?_⟩, ?_⟩
    · rw [List.head?_append_of_ne_nil _ some]
      exact cut.first
    · rw [List.tail_append_of_ne_nil some]
      intro block member
      rcases List.mem_append.mp member with earlier | last
      · exact cut.others block earlier
      · rw [List.mem_singleton.mp last, List.length_drop]
        omega
    · rw [List.flatten_append, joined]
      simp
  termination_by run.length

/-- Every text has its digits grouped. -/
theorem exists_grouped (separator text : List Char) : ∃ grouped, Grouped separator text grouped := by
  -- a run of digits is taken as a whole
  induction size : text.length using Nat.strongRecOn generalizing text with
  | ind _ ih =>
    cases text with
    | nil => exact ⟨[], .nil⟩
    | cons c rest =>
      rw [List.length_cons] at size
      by_cases digit : c.isDigit = true
      · have shorter : ((c :: rest).dropWhile Char.isDigit).length ≤ rest.length := by
          rw [List.dropWhile_cons_of_pos digit]
          exact (List.dropWhile_sublist _).length_le
        obtain ⟨grouped, further⟩ := ih ((c :: rest).dropWhile Char.isDigit).length (by omega) _ rfl
        have filled : (c :: rest).takeWhile Char.isDigit ≠ [] := by simp [digit]
        obtain ⟨blocks, some, cut, joined⟩ := exists_blocks filled
        have digits : ∀ c ∈ blocks.flatten, c.isDigit = true := by
          rw [joined]
          exact List.all_eq_true.mp List.all_takeWhile
        have ends : ∀ d ∈ ((c :: rest).dropWhile Char.isDigit).head?, d.isDigit = false := by
          intro d first
          have stops := List.head?_dropWhile_not Char.isDigit (c :: rest)
          rw [Option.mem_def] at first
          simpa [first] using stops
        have run := Grouped.run some cut digits ends further
        rw [joined, List.takeWhile_append_dropWhile] at run
        exact ⟨_, run⟩
      · obtain ⟨grouped, further⟩ := ih rest.length (by omega) rest rfl
        exact ⟨c :: grouped, .other (by simpa using digit) further⟩

/-- There is one way to group the digits of a text. -/
theorem Grouped.eq {grouped : List Char} (holds : Grouped separator text grouped) :
    grouped = groupDigits separator text := by
  induction holds with
  | nil => rfl
  | other plain further ih => rw [ih, groupDigits, if_neg (by simp [plain])]
  | run filled cut digits ends further ih => rw [ih, groupDigits_blocks separator filled cut digits ends]

theorem grouped_iff {grouped : List Char} :
    Grouped separator text grouped ↔ grouped = groupDigits separator text := by
  refine ⟨Grouped.eq, ?_⟩
  rintro rfl
  obtain ⟨grouped, holds⟩ := exists_grouped separator text
  exact holds.eq ▸ holds

/-- Without a separator nothing changes. -/
theorem groupDigits_nil (text : List Char) : groupDigits [] text = text := by
  induction text with
  | nil => rfl
  | cons c rest ih => simp [groupDigits, ih]

/-- A separator without digits leaves the digits of the text in order. -/
theorem filter_groupDigits (bare : ∀ c ∈ separator, c.isDigit = false) (text : List Char) :
    (groupDigits separator text).filter Char.isDigit = text.filter Char.isDigit := by
  have none : separator.filter Char.isDigit = [] :=
    List.filter_eq_nil_iff.mpr fun c member => by simp [bare c member]
  induction text with
  | nil => rfl
  | cons c rest ih =>
    rw [groupDigits]
    split
    · rw [List.filter_cons, List.filter_cons, List.filter_append, none, List.nil_append, ih]
    · rw [List.filter_cons, List.filter_cons, ih]

/-- What grouping the digits of a text means. -/
structure GroupsInThrees (separator text : String) : Prop where
  blocks : ∀ grouped, Grouped separator.toList text.toList grouped ↔
    grouped = (groupThousands separator text).toList
  bare : separator = "" → groupThousands separator text = text
  digits : (∀ c ∈ separator.toList, c.isDigit = false) →
    (groupThousands separator text).toList.filter Char.isDigit = text.toList.filter Char.isDigit

theorem groupsInThrees (separator text : String) : GroupsInThrees separator text := by
  refine ⟨fun grouped => ?_, ?_, fun bare => ?_⟩
  · rw [groupThousands, String.toList_ofList]
    exact grouped_iff
  · rintro rfl
    exact (congrArg String.ofList (groupDigits_nil text.toList)).trans String.ofList_toList
  · rw [groupThousands, String.toList_ofList]
    exact filter_groupDigits bare text.toList

example : groupThousands "." "-1234567,1000" = "-1.234.567,1.000" := by decide

end Amount

theorem Cells.write_eq_self {cells : Cells} {cell : Nat} {text : String}
    (written : cells.text? cell = some text) : cells.write cell text = cells := by
  have inside := inside_of_text written
  rw [text?, List.getElem?_eq_getElem inside, Option.join_some] at written
  rw [Cells.write, ← written, List.set_getElem_self]

theorem Action.stripped_map {run other : Run} (same : run.signCell = other.signCell) {change : String → String}
    (commutes : ∀ text, withoutSign (change text) = change (withoutSign text)) (taken : Bool) (cell : Nat)
    (text : Option String) :
    stripped run taken cell (text.map change) = (stripped other taken cell text).map change := by
  have order : withoutSign ∘ change = change ∘ withoutSign := funext commutes
  rw [stripped, stripped, same]
  split
  · rw [Option.map_map, Option.map_map, order]
  · rfl

/-- The first run is the second one with the text of a cell in groups. -/
structure Run.GroupedAt (digits : Nat) (separator : String) (run plain : Run) : Prop where
  agrees : run.Agrees (· ≠ digits) plain
  text : run.cells.text? digits = (plain.cells.text? digits).map (Amount.groupThousands separator)

namespace Run.GroupedAt

variable {setting : Setting} {action : Action} {run plain : Run} {digits cell : Nat} {separator : String}

theorem group (found : setting.layout.tokenCell? .integer = some digits) (cell : Nat) (run : Run) :
    (Amount.group setting cell run).GroupedAt digits setting.locale.group run := by
  have same : run.Agrees (· ≠ digits) run := .refl _
  simp only [Amount.group, found]
  cases written : run.cells.text? digits with
  | none => exact ⟨same, by rw [written, Option.map_none]⟩
  | some text =>
    have rewritten : run.write digits text = run := by rw [Run.write, Cells.write_eq_self written]
    have changed : (run.write digits (Amount.groupThousands setting.locale.group text)).Agrees (· ≠ digits)
        (run.write digits text) := same.write (absurd rfl)
    rw [rewritten] at changed
    refine ⟨changed, ?_⟩
    change (run.cells.write digits _).text? digits = _
    rw [Cells.text?_write_self (Cells.inside_of_text written), written, Option.map_some]

theorem takes_eq (grouped : run.GroupedAt digits separator plain) :
    action.takes setting run = action.takes setting plain := by
  have negative := grouped.agrees.isNegative
  have wrapped := grouped.agrees.isWrapped (.refl setting)
  cases action <;> simp only [Action.takes, Action.takesSign, negative, wrapped]

/-- It stays so when both runs take a step of another cell. -/
theorem perform (grouped : run.GroupedAt digits separator plain) (builtin : ∀ step, action ≠ .custom step)
    (different : digits ≠ cell) (ungrouped : action.token? ≠ some .grouping)
    (undropped : setting.layout.tokenCell? .point ≠ some digits) :
    (action.perform setting cell run).GroupedAt digits separator (action.perform setting cell plain) := by
  constructor
  · refine grouped.agrees.perform (.refl setting) builtin (fun _ _ => rfl) ?_
    rintro rfl
    exact (ungrouped rfl).elim
  · have other (run : Run) : (action.perform setting cell run).cells.text? digits =
        Action.stripped run (action.takes setting run) digits (run.cells.text? digits) :=
      (Action.effected_perform builtin).text_other different (fun kind => absurd kind ungrouped)
        fun _ => undropped
    rw [other run, other plain, grouped.text, grouped.takes_eq,
      Action.stripped_map grouped.agrees.signCell (withoutSign_groupThousands separator)]

end Run.GroupedAt

namespace Plan

/-- The steps of other tokens. -/
def without (token : Token) (items : List (PlannedStep × Nat)) : List (PlannedStep × Nat) :=
  items.filter fun item => item.1.action.token? ≠ some token

/-- The run after all steps of other tokens. -/
def finishWithout (plan : Plan) (token : Token) (value : Float) (rounding : Float → Float) (locale : Locale) :
    Run :=
  plan.runAfter value rounding locale (without token plan.program)

variable {plan : Plan} {token : Token} {done rest : List (PlannedStep × Nat)} {item : PlannedStep × Nat}
  {digits : Nat}

theorem without_eq_self (idle : ran done token = false) : without token done = done :=
  List.filter_eq_self.mpr fun item member => by simpa using ran_eq_false.mp idle item member

theorem without_concat_of_ne (other : item.1.action.token? ≠ some token) :
    without token (done ++ [item]) = without token done ++ [item] := by
  simp [without, other]

theorem without_concat_of_eq (own : item.1.action.token? = some token) :
    without token (done ++ [item]) = without token done := by
  simp [without, own]

/-- A step behind the grouping leaves the runs as far apart as they were. -/
theorem Regular.grouped_step (regular : plan.Regular) (turn : Turn plan done item)
    (past : ran done .grouping = true) (found : plan.layout.tokenCell? .integer = some digits)
    {rounding : Float → Float} {locale : Locale} {run plain : Run}
    (grouped : run.GroupedAt digits locale.group plain) :
    (item.1.action.perform (plan.setting rounding locale) item.2 run).GroupedAt digits locale.group
      (item.1.action.perform (plan.setting rounding locale) item.2 plain) :=
  grouped.perform (regular.plain item turn.member)
    (turn.foreign .integer digits found (turn.kind_ne past (by decide)))
    (turn.not_again past rfl) (regular.cell_ne found (by decide))

/-- From the grouping on, a run is the one without it, the groups of the integer apart. -/
theorem Regular.grouped_after (regular : plan.Regular) (value : Float) (rounding : Float → Float)
    (locale : Locale) (found : plan.layout.tokenCell? .integer = some digits)
    (order : plan.program = done ++ rest) (past : ran done .grouping = true) :
    (plan.runAfter value rounding locale done).GroupedAt digits locale.group
      (plan.runAfter value rounding locale (without .grouping done)) := by
  obtain ⟨item, member, kind⟩ := List.any_eq_true.mp past
  obtain ⟨before, more, rfl⟩ := List.append_of_mem member
  rw [decide_eq_true_eq] at kind
  have order : plan.program = before ++ item :: (more ++ rest) := by simp [order]
  have group : item.1.action = .group := Action.eq_group kind
  have unscaled := (List.forall_mem_cons.mp (regular.unscaled order (congrArg Action.isScale group))).2
  have named : (plan.setting rounding locale).layout.tokenCell? .integer = some digits := found
  have start : (plan.runAfter value rounding locale (before ++ [item])).GroupedAt digits locale.group
      (plan.runAfter value rounding locale (without .grouping (before ++ [item]))) := by
    have first : ran before .grouping = false := (regular.turn order).fresh _ kind rfl
    rw [without_concat_of_eq kind, without_eq_self first, regular.runAfter_concat order, group]
    exact Run.GroupedAt.group named item.2 _
  rw [← List.singleton_append, ← List.append_assoc]
  refine (regular.run_stretch (motive := fun done run => ran done .grouping = true ∧
    run.GroupedAt digits locale.group (plan.runAfter value rounding locale (without .grouping done)))
    ?_ (by simpa using order) (fun item member => unscaled item (by simp [member])) ⟨by simp [kind], start⟩).2
  rintro done item run turn - ⟨past, grouped⟩
  refine ⟨ran_concat.mpr (Or.inl past), ?_⟩
  have plain : ∀ item ∈ without .grouping done, ∀ step, item.1.action ≠ .custom step := fun item member =>
    regular.plain item (turn.part (List.mem_of_mem_filter member))
  rw [without_concat_of_ne (turn.not_again past rfl), plan.runAfter_concat value rounding locale plain]
  exact regular.grouped_step turn past found grouped

/-- The plan renders a value with the groups of its integer like the plan without the grouping. -/
structure GroupsOnly (plan : Plan) (value : Float) (rounding : Float → Float) (locale : Locale) : Prop where
  /-- The integer is filled, with and without groups. -/
  integer : ∃ step cell text, (step, cell) ∈ plan.program ∧ step.action = .integer ∧
    (plan.finishWithout .grouping value rounding locale).cells.text? cell = some text ∧
    (plan.finish value rounding locale).cells.text? cell = some (Amount.groupThousands locale.group text)
  other : ∀ cell, (∀ step, (step, cell) ∈ plan.program → step.action ≠ .integer) →
    (plan.finish value rounding locale).cells.text? cell =
      (plan.finishWithout .grouping value rounding locale).cells.text? cell

/-- Digits are grouped in threes from the right. In a plan nothing but the integer shows whether it is
grouped, and the groups are those of the text that the plan would show without them. -/
theorem grouping_in_threes :
    (∀ separator text, Amount.GroupsInThrees separator text) ∧
    ∀ unclaimed serial pattern plan, compile (standard unclaimed) serial pattern = .ok plan →
      plan.has .grouping = true → ∀ value rounding locale, GroupsOnly plan value rounding locale := by
  refine ⟨Amount.groupsInThrees, ?_⟩
  intro unclaimed serial pattern plan compiled grouping value rounding locale
  have regular := regular_of_compile compiled
  obtain ⟨group, asked, kind⟩ := (has_iff regular.steps).mp grouping
  obtain ⟨⟨step, digits⟩, member, own⟩ := (has_iff regular.steps).mp (regular.prior group asked _ _ kind rfl)
  have found := regular.cell _ member .integer own rfl
  have grouped : (plan.finish value rounding locale).GroupedAt digits locale.group
      (plan.finishWithout .grouping value rounding locale) :=
    regular.grouped_after value rounding locale found (List.append_nil _).symm
      ((ran_program regular _).trans grouping)
  refine ⟨?_, fun cell other => ?_⟩
  · have shown := regular.integer_finish value rounding locale member (Action.eq_integer own)
    rw [grouped.text] at shown
    obtain ⟨text, written, _⟩ := Option.map_eq_some_iff.mp shown
    refine ⟨step, digits, text, member, Action.eq_integer own, written, ?_⟩
    rw [grouped.text, written, Option.map_some]
  · apply grouped.agrees.cells.text
    rintro rfl
    exact other step member (Action.eq_integer own)

/-- A symbol and an integer in groups. -/
def groupedPlan : Plan :=
  { pattern := "$0,0"
    steps := [⟨.integer, Weight.integer, ⟨7⟩⟩, ⟨.group, Weight.delimiter, ⟨10⟩⟩,
      ⟨.currency true, Weight.currency, ⟨14⟩⟩]
    precision := {}
    layout := ⟨[1, 2, 0], [(⟨14⟩, 0), (⟨7⟩, 1), (⟨10⟩, 2)], [(.currency, 0), (.integer, 1), (.grouping, 2)]⟩ }

theorem compile_groupedPlan : compile (standard .echo) 0 "$0,0" = .ok groupedPlan := rfl

/-- The symbol takes the sign from an integer in groups. -/
theorem grouping_in_threes_symbol : groupedPlan.has .grouping = true ∧
    GroupsOnly groupedPlan (-1234567.0) roundHalfUp { group := "--" } :=
  ⟨rfl, grouping_in_threes.2 .echo 0 "$0,0" groupedPlan compile_groupedPlan rfl (-1234567.0) roundHalfUp _⟩

end Plan

end NumberPattern
