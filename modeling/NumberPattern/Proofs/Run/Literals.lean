import NumberPattern.Proofs.Run.Unclaimed

/-! Echoing and skipping unclaimed text. Both rules find the same tokens in a pattern; what skipping renders
is what echoing renders without the cells of literal text. -/

namespace NumberPattern
open Lexicon (standard)

namespace Cells

theorem joined_eq (cells : Cells) :
    cells.joined = String.join ((List.range cells.texts.length).filterMap cells.text?) := by
  have listed : cells.texts = (List.range cells.texts.length).map cells.text? :=
    List.ext_getElem (by simp) fun cell inside _ => by simp [text?, inside]
  calc
    cells.joined = String.join (((List.range cells.texts.length).map cells.text?).filterMap id) := by
      rw [← listed, joined]
    _ = _ := by rw [List.filterMap_map]; rfl

end Cells

namespace Action

theorem literal?_placed (action : Action) (serial cell : Nat) :
    (action.placed serial cell).literal? = action.literal? := by
  cases action <;> rfl

theorem literal?_of_token {action : Action} (kind : action.token?.isSome = true) : action.literal? = none := by
  cases action with
  | literal text => cases kind
  | _ => rfl

end Action

namespace Plan
open Scan (Progress located)

/-- A step writes literal text into the cell. -/
def isLiteralCell (plan : Plan) (cell : Nat) : Bool :=
  plan.program.any fun item => item.2 = cell && item.1.action.literal?.isSome

/-- The rendered text with the cells of literal text left out. -/
def renderWithoutLiterals (plan : Plan) (value : Float) (rounding : Float → Float) (locale : Locale) :
    String :=
  String.join (((List.range plan.layout.size).filter (!plan.isLiteralCell ·)).filterMap
    (plan.finish value rounding locale).cells.text?)

variable {lexicon : Lexicon} {pattern : String} {claims : List Claim} {tally : Tally} {serial : Nat}
  {value : Float} {rounding : Float → Float} {locale : Locale}

theorem range_eq_cells (claims : List Claim) : List.range claims.length = claims.zipIdx.map Prod.snd := by
  rw [List.zipIdx_map_snd, List.range_eq_range']

theorem isLiteralCell_ofClaims {entry : Claim × Nat} (member : entry ∈ claims.zipIdx) :
    (ofClaims lexicon serial pattern claims).isLiteralCell entry.2 =
      entry.1.step.action.literal?.isSome := by
  rw [Bool.eq_iff_iff, isLiteralCell, List.any_eq_true]
  constructor
  · rintro ⟨item, known, kind⟩
    rw [Bool.and_eq_true, decide_eq_true_eq] at kind
    obtain ⟨claim, claimed, planned⟩ := (mem_program_ofClaims ..).mp known
    rw [kind.1, List.mk_mem_zipIdx_iff_getElem?] at claimed
    have same : entry.1 = claim :=
      Option.some.inj ((List.mem_zipIdx_iff_getElem?.mp member).symm.trans claimed)
    rw [same, ← Action.literal?_placed]
    simpa [planned, plannedStep] using kind.2
  · intro kind
    refine ⟨(plannedStep serial entry, entry.2), (mem_program_ofClaims ..).mpr ⟨entry.1, member, rfl⟩, ?_⟩
    simpa [plannedStep, Action.literal?_placed] using kind

/-- Each claim with its cell, by the places of the claims in the text. -/
theorem zipIdx_located (claims : List Claim) :
    claims.zipIdx = (located 0 claims).zipIdx.map (Prod.map Prod.snd id) := by
  rw [← List.zipIdx_map, Scan.map_snd_located]

section Known

variable (only : lexicon.TokensOnly) (progress : Progress lexicon pattern claims tally)
include only progress

theorem render_ofClaims :
    (ofClaims lexicon serial pattern claims).render value rounding locale =
      String.join (claims.zipIdx.filterMap fun entry =>
        ((ofClaims lexicon serial pattern claims).finish value rounding locale).cells.text? entry.2) := by
  rw [render, Cells.joined_eq, length_finish only progress, range_eq_cells, List.filterMap_map]
  rfl

/-- Without the literal text only the texts of tokens are left. -/
theorem renderWithoutLiterals_ofClaims :
    (ofClaims lexicon serial pattern claims).renderWithoutLiterals value rounding locale =
      String.join (((ofClaims lexicon serial pattern claims).tokenTexts claims value rounding locale).filterMap
        id) := by
  rw [renderWithoutLiterals, size_ofClaims, range_eq_cells, List.filter_map, List.filterMap_map, tokenTexts,
    List.filterMap_map, tokens, List.filterMap_filter, List.filterMap_filter]
  refine congrArg String.join (List.filterMap_congr fun entry member => ?_)
  simp only [Function.comp_apply, isLiteralCell_ofClaims member]
  cases kind : entry.1.isToken with
  | true =>
    rw [progress.isToken only _ (List.fst_mem_of_mem_zipIdx member)] at kind
    rw [Action.literal?_of_token kind]
    rfl
  | false =>
    rw [text_finish_untaken only progress (List.mem_filter.mpr ⟨member, by simp [kind]⟩)]
    cases entry.1.step.action.literal? <;> rfl

/-- The cell of echoed text has that text. -/
theorem text_finish_echo (echo : lexicon.unclaimed = .echo) {item : (Nat × Claim) × Nat}
    (member : item ∈ (located 0 claims).zipIdx) (free : item.1.2.isToken = false) :
    ((ofClaims lexicon serial pattern claims).finish value rounding locale).cells.text? item.2 =
      some (String.ofList (Scan.covered pattern item.1.1 item.1.2)) := by
  have left : (item.1.2, item.2) ∈ untaken claims := by
    rw [untaken, zipIdx_located, List.mem_filter]
    exact ⟨List.mem_map_of_mem member, by simp [free]⟩
  rw [text_finish_untaken only progress left,
    (progress.stands only item.1 (List.fst_mem_of_mem_zipIdx member)).literal free, if_pos echo]

/-- Where unclaimed text is skipped, nothing else is rendered anyway. -/
theorem render_of_skip (skip : lexicon.unclaimed = .skip) :
    (ofClaims lexicon serial pattern claims).render value rounding locale =
      String.join (((ofClaims lexicon serial pattern claims).tokenTexts claims value rounding locale).filterMap
        id) := by
  rw [render_ofClaims only progress, tokenTexts, List.filterMap_map, tokens, List.filterMap_filter]
  refine congrArg String.join (List.filterMap_congr fun entry member => ?_)
  cases kind : entry.1.isToken with
  | true => rfl
  | false =>
    rw [text_finish_untaken only progress (List.mem_filter.mpr ⟨member, by simp [kind]⟩)]
    obtain ⟨start, stands⟩ := progress.stands_somewhere only _ (List.fst_mem_of_mem_zipIdx member)
    rw [stands.literal kind, skip]
    rfl

end Known

/-- A pattern that one of the two rules refuses is refused by the other over the same fault. Otherwise the
same tokens are claimed at the same places with the same steps, the precision is the same, and skipping
renders what echoing renders without its literal text. -/
theorem skipping_omits_literals (serial : Nat) (pattern : String) :
    (∃ error, compile (standard .echo) serial pattern = .error error ∧
        compile (standard .skip) serial pattern = .error error) ∨
      ∃ claims others echo skip,
        scan (standard .echo) pattern = .ok claims ∧ scan (standard .skip) pattern = .ok others ∧
        compile (standard .echo) serial pattern = .ok echo ∧
        compile (standard .skip) serial pattern = .ok skip ∧
        (located 0 claims).filter (·.2.isToken) = (located 0 others).filter (·.2.isToken) ∧
        echo.precision = skip.precision ∧
        ∀ value rounding locale,
          skip.render value rounding locale = echo.renderWithoutLiterals value rounding locale := by
  have only := Lexicon.tokensOnly_standard .echo
  have only' := Lexicon.tokensOnly_standard .skip
  rcases Scan.scan_alike only only' pattern with
    ⟨error, refused, refused'⟩ | ⟨claims, others, tally, tally', scanned, scanned', progress, progress', pieces⟩
  · exact Or.inl ⟨error, by rw [compile, refused]; rfl, by rw [compile, refused']; rfl⟩
  · refine Or.inr ⟨claims, others, _, _, scanned, scanned', by rw [compile, scanned]; rfl,
      by rw [compile, scanned']; rfl, Scan.located_of_pieces pieces,
      precisionOf_congr only only' progress progress' (Scan.filter_of_pieces pieces),
      fun value rounding locale => ?_⟩
    rw [render_of_skip only' progress' (Lexicon.unclaimed_standard .skip),
      renderWithoutLiterals_ofClaims only progress,
      tokenTexts_eq only only' progress progress' (Scan.filter_of_pieces pieces)]

end Plan

end NumberPattern
