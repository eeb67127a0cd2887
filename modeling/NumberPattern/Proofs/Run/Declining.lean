import NumberPattern.Proofs.Lexicon.Declining
import NumberPattern.Proofs.Plan.Agreement
import NumberPattern.Proofs.Run.Literals

/-! Claimants that always decline change nothing that is rendered. Their triggers cut unclaimed text into
more pieces, which are written in more cells, but to the same effect. -/

namespace NumberPattern
open Lexicon (standard)

namespace Scan

/-- The text of a pattern, with the given texts for its tokens from left to right. -/
def weave : List Piece → (texts : List (Option String)) → List Char
  | [], _ => []
  | .char c :: pieces, texts => c :: weave pieces texts
  | .token _ _ :: pieces, [] => weave pieces []
  | .token _ _ :: pieces, text :: texts => (text.getD "").toList ++ weave pieces texts

theorem weave_chars (run : List Char) (pieces : List Piece) (texts : List (Option String)) :
    weave (run.map .char ++ pieces) texts = run ++ weave pieces texts := by
  induction run with
  | nil => rfl
  | cons c run ih => rw [List.map_cons, List.cons_append, weave, ih, List.cons_append]

variable {pattern : String} {text : Nat → Option String}

/-- Cells that hold the unclaimed text of their claims make up the woven text. -/
theorem weave_piecesOf {items : List ((Nat × Claim) × Nat)}
    (kept : ∀ item ∈ items, item.1.2.isToken = false →
      text item.2 = some (String.ofList (covered pattern item.1.1 item.1.2))) :
    weave (items.flatMap (piecesOf pattern ·.1)) ((items.filter (·.1.2.isToken)).map (text ·.2)) =
      items.flatMap fun item => ((text item.2).getD "").toList := by
  induction items with
  | nil => rfl
  | cons item items ih =>
    obtain ⟨first, others⟩ := List.forall_mem_cons.mp kept
    rw [List.flatMap_cons, List.flatMap_cons, piecesOf, ← ih others]
    cases kind : item.1.2.isToken with
    | true => simp [kind, weave]
    | false =>
      rw [first kind]
      simp [kind, weave_chars]

end Scan

namespace Plan
open Scan (Progress located)

variable {lexicon : Lexicon} {pattern : String} {claims : List Claim} {tally : Tally} {serial : Nat}
  {value : Float} {rounding : Float → Float} {locale : Locale}

/-- Where unclaimed text is echoed, the texts of tokens are woven into it. -/
theorem render_of_echo (only : lexicon.TokensOnly) (progress : Progress lexicon pattern claims tally)
    (echo : lexicon.unclaimed = .echo) :
    ((ofClaims lexicon serial pattern claims).render value rounding locale).toList =
      Scan.weave (Scan.pieces pattern claims)
        ((ofClaims lexicon serial pattern claims).tokenTexts claims value rounding locale) := by
  have found : Scan.pieces pattern claims =
      (located 0 claims).zipIdx.flatMap (Scan.piecesOf pattern ·.1) := by
    rw [Scan.pieces, ← List.flatMap_map Prod.fst, List.zipIdx_map_fst]
  rw [render_ofClaims only progress, String.toList_join, tokenTexts, tokens, zipIdx_located, found,
    List.filter_map, List.map_map, List.filterMap_map]
  have kept : ∀ item ∈ (located 0 claims).zipIdx, item.1.2.isToken = false →
      ((ofClaims lexicon serial pattern claims).finish value rounding locale).cells.text? item.2 =
        some (String.ofList (Scan.covered pattern item.1.1 item.1.2)) :=
    fun _ member free => text_finish_echo only progress echo member free
  refine Eq.trans ?_ (Scan.weave_piecesOf kept).symm
  rw [List.filterMap_eq_flatMap_toList, List.flatMap_assoc]
  refine List.flatMap_congr fun item _ => ?_
  simp only [Function.comp_apply, Prod.map_snd, id_eq]
  cases ((ofClaims lexicon serial pattern claims).finish value rounding locale).cells.text? item.2 <;> simp

variable {lexicon' : Lexicon} {others : List Claim} {tally' : Tally} {serial' : Nat}

/-- Under one rule for unclaimed text, the pieces of a pattern decide what is rendered. -/
theorem render_of_pieces (only : lexicon.TokensOnly) (only' : lexicon'.TokensOnly)
    (progress : Progress lexicon pattern claims tally) (progress' : Progress lexicon' pattern others tally')
    (rule : lexicon.unclaimed = lexicon'.unclaimed)
    (pieces : Scan.pieces pattern claims = Scan.pieces pattern others) :
    (ofClaims lexicon serial pattern claims).render value rounding locale =
      (ofClaims lexicon' serial' pattern others).render value rounding locale := by
  have same := Scan.filter_of_pieces pieces
  have texts : (ofClaims lexicon serial pattern claims).tokenTexts claims value rounding locale =
      (ofClaims lexicon' serial' pattern others).tokenTexts others value rounding locale :=
    tokenTexts_eq only only' progress progress' same
  cases kind : lexicon.unclaimed with
  | skip => rw [render_of_skip only progress kind, render_of_skip only' progress' (rule ▸ kind), texts]
  | echo =>
    rw [← String.toList_inj, render_of_echo only progress kind, render_of_echo only' progress' (rule ▸ kind),
      pieces, texts]

/-- Under one rule for unclaimed text, lexicons in which nothing but tokens is claimed refuse the same
patterns, and their plans render the same. -/
theorem compile_alike (only : lexicon.TokensOnly) (only' : lexicon'.TokensOnly)
    (rule : lexicon.unclaimed = lexicon'.unclaimed) (serial : Nat) (pattern : String) :
    (∃ error, compile lexicon serial pattern = .error error ∧
        compile lexicon' serial pattern = .error error) ∨
      ∃ plan other, compile lexicon serial pattern = .ok plan ∧ compile lexicon' serial pattern = .ok other ∧
        plan.precision = other.precision ∧
        ∀ value rounding locale, plan.render value rounding locale = other.render value rounding locale := by
  rcases Scan.scan_alike only only' pattern with
    ⟨error, refused, refused'⟩ | ⟨claims, others, tally, tally', scanned, scanned', progress, progress', pieces⟩
  · exact Or.inl ⟨error, by rw [compile, refused]; rfl, by rw [compile, refused']; rfl⟩
  · exact Or.inr ⟨_, _, by rw [compile, scanned]; rfl, by rw [compile, scanned']; rfl,
      precisionOf_congr only only' progress progress' (Scan.filter_of_pieces pieces),
      fun value rounding locale => render_of_pieces only only' progress progress' rule pieces⟩

/-- Claimants that always decline, whatever their triggers and priorities, change neither which patterns are
refused and why, nor the precision, nor what is rendered; and where none of their triggers occurs in the
pattern, the plan is the same. -/
theorem declining_claimants (unclaimed : Unclaimed) (claimants : List Claimant)
    (decline : ∀ claimant ∈ claimants, claimant.AlwaysDeclines) (serial : Nat) (pattern : String) :
    (∀ error, compile ((standard unclaimed).registerAll claimants) serial pattern = .error error ↔
        compile (standard unclaimed) serial pattern = .error error) ∧
      (∀ plan other, compile ((standard unclaimed).registerAll claimants) serial pattern = .ok plan →
        compile (standard unclaimed) serial pattern = .ok other →
        plan.precision = other.precision ∧
          ∀ value rounding locale, plan.render value rounding locale = other.render value rounding locale) ∧
      ((∀ claimant ∈ claimants, ∀ c ∈ claimant.triggers.toList, c ∉ pattern.toList) →
        compile ((standard unclaimed).registerAll claimants) serial pattern =
          compile (standard unclaimed) serial pattern) := by
  have only' := Lexicon.tokensOnly_standard unclaimed
  have only := only'.registerAll decline
  have alike := compile_alike only only' Lexicon.unclaimed_registerAll serial pattern
  refine ⟨fun error => ?_, fun plan other compiled compiled' => ?_,
    fun foreign => compile_congr ⟨by simp, by simp, fun c member => ?_⟩ serial⟩
  · rcases alike with ⟨fault, refused, refused'⟩ | ⟨plan, other, compiled, compiled', _⟩
    · rw [refused, refused']
    · rw [compiled, compiled']
      simp
  · rcases alike with ⟨fault, refused, _⟩ | ⟨found, found', made, made', precision, rendered⟩
    · cases refused.symm.trans compiled
    · cases made.symm.trans compiled
      cases made'.symm.trans compiled'
      exact ⟨precision, rendered⟩
  · exact Lexicon.lookup_registerAll fun claimant known trigger => foreign claimant known c trigger member

/-- Triggers inside unclaimed text add steps, and the rendered text stays the same. -/
theorem declining_claimants_split :
    ∃ plan other,
      compile ((standard .echo).registerAll [.declining "ix" (-1)]) 0 "0 six" = .ok plan ∧
        compile (standard .echo) 0 "0 six" = .ok other ∧
        plan.steps.length = 4 ∧ other.steps.length = 2 ∧
        ∀ value rounding locale, plan.render value rounding locale = other.render value rounding locale := by
  have decline : ∀ claimant ∈ [Claimant.declining "ix" (-1)], claimant.AlwaysDeclines :=
    List.forall_mem_singleton.mpr (Claimant.alwaysDeclines_declining "ix" (-1))
  obtain ⟨_, rendered, _⟩ := declining_claimants .echo _ decline 0 "0 six"
  have split : scan ((standard .echo).registerAll [.declining "ix" (-1)]) "0 six" = .ok
      [⟨⟨7⟩, { action := .integer, weight := Weight.integer }⟩,
        ⟨⟨1⟩, { action := .literal " s", weight := Weight.literal, consumed := 1 }⟩,
        ⟨⟨1⟩, { action := .literal "i", weight := Weight.literal }⟩,
        ⟨⟨1⟩, { action := .literal "x", weight := Weight.literal }⟩] := rfl
  have whole : scan (standard .echo) "0 six" = .ok
      [⟨⟨7⟩, { action := .integer, weight := Weight.integer }⟩,
        ⟨⟨1⟩, { action := .literal " six", weight := Weight.literal, consumed := 3 }⟩] := rfl
  refine ⟨_, _, by rw [compile, split]; rfl, by rw [compile, whole]; rfl, rfl, rfl, ?_⟩
  exact (rendered _ _ (by rw [compile, split]; rfl) (by rw [compile, whole]; rfl)).2

end Plan

end NumberPattern
