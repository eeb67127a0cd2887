import NumberPattern.Proofs.Double.Sign
import NumberPattern.Proofs.Run.Clock
import NumberPattern.Proofs.Run.Frame
import NumberPattern.Proofs.Run.Substitution

/-! The minus signs in the texts that the steps write. A number has at most one, at its start; a clock
whose total is not below zero has none, and neither have units, suffixes and decimals. -/

namespace NumberPattern
open Float.Model.UnpackedFloat (Sign)

/-- The number of minus signs in a text. -/
def minuses (text : String) : Nat := text.toList.count '-'

@[simp] theorem minuses_append (text other : String) :
    minuses (text ++ other) = minuses text + minuses other := by
  simp [minuses, String.toList_append]

theorem minuses_join (texts : List String) : minuses (String.join texts) = (texts.map minuses).sum := by
  induction texts with
  | nil => rfl
  | cons text texts ih => rw [String.join_cons, minuses_append, ih, List.map_cons, List.sum_cons]

theorem minuses_signed (negative : Bool) (text : String) :
    minuses (signed negative text) = (if negative then 1 else 0) + minuses text := by
  cases negative with
  | false => exact (Nat.zero_add _).symm
  | true => exact minuses_append "-" text

theorem minuses_ofList {text : List Char} (bare : '-' ∉ text) : minuses (String.ofList text) = 0 := by
  rw [minuses, String.toList_ofList, List.count_eq_zero]
  exact bare

theorem minuses_digits {text : List Char} (digits : ∀ c ∈ text, c.isDigit = true) :
    minuses (String.ofList text) = 0 := minuses_ofList fun minus => by cases digits '-' minus

/-- A text without minus signs, or with one before it. -/
def ShowsSign (negative : Bool) (text : String) : Prop := ∃ body, minuses body = 0 ∧ text = signed negative body

namespace ShowsSign

variable {negative : Bool} {text : String} (shows : ShowsSign negative text)
include shows

theorem minuses_eq : minuses text = if negative then 1 else 0 := by
  obtain ⟨body, bare, rfl⟩ := shows
  rw [minuses_signed, bare, Nat.add_zero]

theorem minuses_le_one : minuses text ≤ 1 := by
  rw [shows.minuses_eq]
  split <;> decide

theorem minuses_withoutSign : minuses (withoutSign text) = 0 := by
  obtain ⟨body, bare, rfl⟩ := shows
  cases negative with
  | true => exact (congrArg minuses (withoutSign_minus body)).trans bare
  | false =>
    rcases withoutSign_cases body with taken | kept
    · have count := congrArg minuses taken
      rw [bare, minuses_append] at count
      have : minuses (withoutSign body) = 0 := by omega
      exact this
    · exact (congrArg minuses kept).trans bare

end ShowsSign

section Numbers

variable (places : Nat) (value : Float)

/-- The words and digits behind the sign have no minus signs. -/
theorem showsSign_signText (sign : Sign) {body : String} (bare : minuses body = 0) :
    ShowsSign (Double.isNegative sign) (Decimal.signText sign ++ body) := by
  refine ⟨body, bare, ?_⟩
  cases sign with
  | positive => exact String.empty_append
  | negative => rfl

theorem showsSign_fixed :
    ShowsSign (Double.hasMinus (Double.parts value)) (Decimal.fixed places value).whole := by
  have units (sign : Sign) (units : Nat) :
      ShowsSign (Double.isNegative sign) (Decimal.Split.ofUnits sign places units).whole :=
    showsSign_signText sign (minuses_digits fun _ => isDigit_of_mem_digits)
  unfold Decimal.fixed
  cases Double.parts value with
  | notANumber => exact ⟨"NaN", rfl, rfl⟩
  | infinity sign => exact showsSign_signText sign rfl
  | zero sign => exact units sign _
  | finite sign => exact units sign _

theorem isDigit_of_mem_decimals {places n : Nat} {c : Char}
    (member : c ∈ Decimal.withoutTrailingZeros (Decimal.fraction places n)) : c.isDigit = true := by
  have member : c ∈ Decimal.fraction places n := by
    rw [Decimal.withoutTrailingZeros, List.mem_reverse] at member
    exact List.mem_reverse.mp ((List.dropWhile_sublist _).mem member)
  unfold Decimal.fraction at member
  split at member
  · cases member
  · exact isDigit_of_mem_padded member

theorem minuses_positional (units : Nat) (place : Int) :
    minuses (String.ofList (Decimal.positional units place)) = 0 := by
  refine minuses_ofList fun minus => ?_
  unfold Decimal.positional at minus
  dsimp only at minus
  rcases List.mem_append.mp minus with whole | tail
  · cases isDigit_of_mem_digits whole
  split at tail
  · cases tail
  · rcases List.mem_cons.mp tail with point | digit
    · cases point
    · cases isDigit_of_mem_decimals digit

theorem showsSign_shortest :
    ShowsSign (Double.hasMinus (Double.parts value)) (Decimal.shortest value) := by
  unfold Decimal.shortest
  cases Double.parts value with
  | notANumber => exact ⟨"NaN", rfl, rfl⟩
  | infinity sign => exact showsSign_signText sign rfl
  | zero sign => exact showsSign_signText sign rfl
  | finite sign mantissa exponent => exact showsSign_signText sign (minuses_positional _ _)

end Numbers

/-- Grouping adds the minus signs of the separators only. -/
theorem minuses_groupThousands {separator : String} (bare : minuses separator = 0) (text : String) :
    minuses (Amount.groupThousands separator text) = minuses text := by
  have digits (letters : List Char) :
      (Amount.groupDigits separator.toList letters).count '-' = letters.count '-' := by
    induction letters with
    | nil => rfl
    | cons c letters ih =>
      unfold Amount.groupDigits
      dsimp only
      split
      · rw [List.count_cons, List.count_append, ih, List.count_cons]
        rw [minuses] at bare
        omega
      · rw [List.count_cons, ih, List.count_cons]
  rw [minuses, Amount.groupThousands, String.toList_ofList, digits, minuses]

/-- No text of the locale has a minus sign. -/
structure Locale.WithoutMinus (locale : Locale) : Prop where
  point : minuses locale.point = 0
  group : minuses locale.group = 0
  currency : minuses locale.currency = 0
  word : ∀ magnitude, minuses (locale.words.word magnitude) = 0
  ordinal : ∀ suffix, locale.ordinal = .fixed suffix → minuses suffix = 0

theorem Locale.withoutMinus_default : Locale.WithoutMinus {} where
  point := rfl
  group := rfl
  currency := rfl
  word := by
    intro magnitude
    cases magnitude <;> rfl
  ordinal := by
    rintro suffix ⟨⟩

theorem minuses_turkishWordSuffix {n : Nat} {text : String}
    (suffix : OrdinalRule.turkishWordSuffix n = some text) : minuses text = 0 := by
  unfold OrdinalRule.turkishWordSuffix at suffix
  split at suffix <;> cases suffix <;> rfl

theorem minuses_turkishSuffix (n : Nat) : minuses (OrdinalRule.turkishSuffix n) = 0 := by
  unfold OrdinalRule.turkishSuffix
  split
  · rfl
  · dsimp only
    cases found : (OrdinalRule.turkishWordSuffix (n % 10)).or
        ((OrdinalRule.turkishWordSuffix (n % 100 - n % 10)).or
          (if 100 ≤ n then OrdinalRule.turkishWordSuffix 100 else none)) with
    | none => rfl
    | some text =>
      rcases Option.or_eq_some_iff.mp found with units | ⟨_, found⟩
      · exact minuses_turkishWordSuffix units
      rcases Option.or_eq_some_iff.mp found with tens | ⟨_, hundreds⟩
      · exact minuses_turkishWordSuffix tens
      split at hundreds
      · exact minuses_turkishWordSuffix hundreds
      · cases hundreds

theorem minuses_suffix {rule : OrdinalRule} (bare : ∀ suffix, rule = .fixed suffix → minuses suffix = 0)
    (number : Int) : minuses (rule.suffix number) = 0 := by
  cases rule with
  | fixed suffix => exact bare suffix rfl
  | english =>
    simp only [OrdinalRule.suffix, OrdinalRule.englishSuffix]
    split
    · rfl
    split <;> rfl
  | french =>
    simp only [OrdinalRule.suffix, OrdinalRule.frenchSuffix]
    split <;> rfl
  | spanish =>
    simp only [OrdinalRule.suffix, OrdinalRule.spanishSuffix]
    split <;> rfl
  | belgianDutch =>
    simp only [OrdinalRule.suffix, OrdinalRule.belgianDutchSuffix]
    split <;> rfl
  | turkish => exact minuses_turkishSuffix number.natAbs

namespace Clock

theorem minuses_integerText {n : Int} (enough : 0 ≤ n) (width : Nat) : minuses (integerText width n) = 0 := by
  rw [integerText, if_neg (Int.not_lt.mpr enough)]
  exact minuses_digits fun _ => isDigit_of_mem_padded

theorem minuses_ofSeconds {total : Int} (enough : 0 ≤ total) : minuses (Time.ofSeconds total).text = 0 := by
  have hours := minuses_integerText (Int.tdiv_nonneg enough (by decide : (0 : Int) ≤ 3600)) 1
  have minutes := minuses_integerText
    (Int.tmod_nonneg 60 (Int.tdiv_nonneg enough (by decide : (0 : Int) ≤ 60))) 2
  have seconds := minuses_integerText (Int.tmod_nonneg 60 enough) 2
  simp only [Time.text, Time.ofSeconds, toInt_ofInt_tmod, minuses_append, hours, minutes, seconds]
  rfl

end Clock

end NumberPattern
