import NumberPattern.Locale.Schema
import NumberPattern.Locale.Standard
import NumberPattern.Proofs.Document.Order

/-! What a document has to look like to be a locale, what it then changes of the locale it is laid over, and
which of its faults is reported. Each field is judged on its own; the first fault in the order of the fields
is final. -/

namespace NumberPattern

/-- The value, unless there is a fault. The first one is reported. -/
def firstFault {α : Type} (faults : List LocaleFault) (value : α) : Except LocaleFault α :=
  match faults with
  | [] => .ok value
  | fault :: _ => .error fault

section
variable {α β : Type} {faults : List LocaleFault} {value : α} {fault : LocaleFault}

theorem firstFault_bind {later : List LocaleFault} {answer : β} {next : α → Except LocaleFault β}
    (goesOn : next value = firstFault later answer) :
    (firstFault faults value >>= next) = firstFault (faults ++ later) answer := by
  cases faults with
  | nil => exact goesOn
  | cons fault faults => rfl

theorem firstFault_eq_ok_iff {answer : α} :
    firstFault faults value = .ok answer ↔ faults = [] ∧ value = answer := by
  cases faults <;> simp [firstFault]

theorem firstFault_eq_error_iff : firstFault faults value = .error fault ↔ faults.head? = some fault := by
  cases faults <;> simp [firstFault]

end

namespace Locale
open Document (Value)

def wordKeys : List String := ["thousand", "million", "billion", "trillion"]

def textKeys : List String := ["decimal", "group", "currency"]

/-- The keys that matter, in the order in which their values are looked at. -/
def keys : List String := textKeys ++ ["abbreviations", "ordinal"]

def ruleNames : List (String × OrdinalRule) :=
  [("english", .english), ("french", .french), ("spanish", .spanish), ("belgian-dutch", .belgianDutch),
    ("turkish", .turkish)]

/-- The value of the key is a text, if there is one. -/
def IsTextOrMissing (fields : List (String × Value)) (key : String) : Prop :=
  ∀ value, fields.lookup key = some value → ∃ content, value = .text content

def AreWords (value : Value) : Prop :=
  ∃ fields, value = .table fields ∧ ∀ key ∈ wordKeys, IsTextOrMissing fields key

/-- The name of a rule, or a table with a suffix that is a text. -/
def IsRule (value : Value) : Prop :=
  (∃ name ∈ ruleNames.map Prod.fst, value = .text name) ∨
    ∃ fields suffix, value = .table fields ∧ fields.lookup "suffix" = some (.text suffix)

/-- Whether a value is a locale does not depend on the locale it is laid over. -/
structure IsLocale (fields : List (String × Value)) : Prop where
  texts : ∀ key ∈ textKeys, IsTextOrMissing fields key
  words : ∀ value, fields.lookup "abbreviations" = some value → AreWords value
  ordinal : ∀ value, fields.lookup "ordinal" = some value → IsRule value

def Acceptable (value : Value) : Prop := ∃ fields, value = .table fields ∧ IsLocale fields

/-- The text of a key, if it has one. -/
def text? (fields : List (String × Value)) (key : String) : Option String :=
  match fields.lookup key with
  | some (.text content) => some content
  | _ => none

def rule? : Value → Option OrdinalRule
  | .text name => ruleNames.lookup name
  | .table fields => (text? fields "suffix").map .fixed
  | _ => none

def laidWords (base : MagnitudeWords) (value : Value) : MagnitudeWords :=
  match value with
  | .table fields =>
      { thousand := (text? fields "thousand").getD base.thousand
        million := (text? fields "million").getD base.million
        billion := (text? fields "billion").getD base.billion
        trillion := (text? fields "trillion").getD base.trillion }
  | _ => base

/-- The base with exactly the texts, words and rule replaced that the fields have. -/
def laid (base : Locale) (fields : List (String × Value)) : Locale where
  point := (text? fields "decimal").getD base.point
  group := (text? fields "group").getD base.group
  currency := (text? fields "currency").getD base.currency
  words := ((fields.lookup "abbreviations").map (laidWords base.words)).getD base.words
  ordinal := ((fields.lookup "ordinal").bind rule?).getD base.ordinal

/-- What is not a table changes nothing. -/
def laidOver (base : Locale) : Value → Locale
  | .table fields => base.laid fields
  | _ => base

def textFaults (fields : List (String × Value)) (key : String) : List LocaleFault :=
  match fields.lookup key with
  | none | some (.text _) => []
  | some _ => [.notText key]

def wordFaults : Value → List LocaleFault
  | .table fields => wordKeys.flatMap (textFaults fields)
  | _ => [.wordsNotTable]

def ruleFaults : Value → List LocaleFault
  | .text name => if name ∈ ruleNames.map Prod.fst then [] else [.unknownRule name]
  | .table fields =>
      match fields.lookup "suffix" with
      | none => [.missingSuffix]
      | some (.text _) => []
      | some _ => [.notText "suffix"]
  | _ => [.notRule]

/-- All faults of the fields, in the order of `keys`. -/
def fieldFaults (fields : List (String × Value)) : List LocaleFault :=
  textKeys.flatMap (textFaults fields) ++ ((fields.lookup "abbreviations").map wordFaults).getD [] ++
    ((fields.lookup "ordinal").map ruleFaults).getD []

def faults : Value → List LocaleFault
  | .table fields => fieldFaults fields
  | _ => [.notTable]

variable {fields : List (String × Value)} {key : String} {value : Value} {base : Locale}

theorem textFaults_eq_nil_iff : textFaults fields key = [] ↔ IsTextOrMissing fields key := by
  unfold textFaults IsTextOrMissing
  split
  next absent => simp [absent]
  next content found => simp [found]
  next value missing plain found => simpa [found] using plain

theorem wordFaults_eq_nil_iff : wordFaults value = [] ↔ AreWords value := by
  cases value <;> simp [wordFaults, AreWords, textFaults_eq_nil_iff]

theorem ruleFaults_eq_nil_iff : ruleFaults value = [] ↔ IsRule value := by
  cases value with
  | text name => simp [ruleFaults, IsRule]
  | table fields =>
    simp only [ruleFaults, IsRule]
    split
    next absent => simp [absent]
    next content found => simp [found]
    next value missing plain found => simpa [found] using plain
  | integer | real | boolean | moment | list => simp [ruleFaults, IsRule]

theorem fieldFaults_eq_nil_iff : fieldFaults fields = [] ↔ IsLocale fields := by
  have words : ((fields.lookup "abbreviations").map wordFaults).getD [] = [] ↔
      ∀ value, fields.lookup "abbreviations" = some value → AreWords value := by
    cases fields.lookup "abbreviations" <;> simp [wordFaults_eq_nil_iff]
  have ordinal : ((fields.lookup "ordinal").map ruleFaults).getD [] = [] ↔
      ∀ value, fields.lookup "ordinal" = some value → IsRule value := by
    cases fields.lookup "ordinal" <;> simp [ruleFaults_eq_nil_iff]
  rw [fieldFaults, List.append_eq_nil_iff, List.append_eq_nil_iff, List.flatMap_eq_nil_iff, words, ordinal]
  simp only [textFaults_eq_nil_iff]
  exact ⟨fun ⟨⟨texts, words⟩, ordinal⟩ => ⟨texts, words, ordinal⟩,
    fun ⟨texts, words, ordinal⟩ => ⟨⟨texts, words⟩, ordinal⟩⟩

theorem faults_eq_nil_iff : faults value = [] ↔ Acceptable value := by
  cases value <;> simp [faults, Acceptable, fieldFaults_eq_nil_iff]

theorem textOr_eq (fields : List (String × Value)) (key default : String) :
    textOr fields key default = firstFault (textFaults fields key) ((text? fields key).getD default) := by
  unfold textOr textFaults text?
  cases fields.lookup key with
  | none => rfl
  | some value => cases value <;> rfl

theorem decodeWords_eq (base : MagnitudeWords) (value : Value) :
    decodeWords base value = firstFault (wordFaults value) (laidWords base value) := by
  cases value with
  | table fields =>
    simp only [decodeWords, textOr_eq]
    exact firstFault_bind (firstFault_bind (firstFault_bind (firstFault_bind rfl)))
  | text | integer | real | boolean | moment | list => rfl

theorem ruleOfName?_eq (name : String) : ruleOfName? name = ruleNames.lookup name := by
  unfold ruleOfName?
  split
  · rfl
  · rfl
  · rfl
  · rfl
  · rfl
  next english french spanish belgianDutch turkish =>
    simp [ruleNames, List.lookup_cons, beq_false_of_ne english, beq_false_of_ne french,
      beq_false_of_ne spanish, beq_false_of_ne belgianDutch, beq_false_of_ne turkish]

theorem decodeOrdinal_eq (default : OrdinalRule) (value : Value) :
    decodeOrdinal value = firstFault (ruleFaults value) ((rule? value).getD default) := by
  cases value with
  | text name =>
    simp only [decodeOrdinal, ruleFaults, rule?, ruleOfName?_eq]
    by_cases known : name ∈ ruleNames.map Prod.fst
    · cases found : ruleNames.lookup name with
      | none => exact absurd known (Document.lookup_eq_none_iff.mp found)
      | some rule => rw [if_pos known, firstFault, Option.getD_some]
    · rw [if_neg known, Document.lookup_eq_none_iff.mpr known, firstFault]
  | table fields =>
    simp only [decodeOrdinal, ruleFaults, rule?, text?]
    cases fields.lookup "suffix" with
    | none => rfl
    | some value => cases value <;> rfl
  | integer | real | boolean | moment | list => rfl

/-- What is read from a value, or the default when there is none. -/
def readOr {α : Type} (read : Value → Except LocaleFault α) (default : α) : Option Value → Except LocaleFault α
  | some value => read value
  | none => .ok default

theorem readOr_eq {α : Type} {read : Value → Except LocaleFault α} {faults : Value → List LocaleFault}
    {meaning : Value → α} (known : ∀ value, read value = firstFault (faults value) (meaning value))
    (default : α) (value? : Option Value) :
    readOr read default value? = firstFault ((value?.map faults).getD []) ((value?.map meaning).getD default) := by
  cases value? with
  | none => rfl
  | some value => exact known value

theorem overlay_eq_reads (base : Locale) (fields : List (String × Value)) :
    base.overlay (.table fields) = (do
      let point ← textOr fields "decimal" base.point
      let group ← textOr fields "group" base.group
      let currency ← textOr fields "currency" base.currency
      let words ← readOr (decodeWords base.words) base.words (fields.lookup "abbreviations")
      let ordinal ← readOr decodeOrdinal base.ordinal (fields.lookup "ordinal")
      return ⟨point, group, words, ordinal, currency⟩) := by
  rw [overlay]
  cases fields.lookup "abbreviations" <;> cases fields.lookup "ordinal" <;> rfl

theorem overlay_table (base : Locale) (fields : List (String × Value)) :
    base.overlay (.table fields) = firstFault (fieldFaults fields) (base.laid fields) := by
  have split : fieldFaults fields = textFaults fields "decimal" ++ (textFaults fields "group" ++
      (textFaults fields "currency" ++ (((fields.lookup "abbreviations").map wordFaults).getD [] ++
        (((fields.lookup "ordinal").map ruleFaults).getD [] ++ [])))) := by
    simp [fieldFaults, textKeys]
  rw [overlay_eq_reads, split]
  simp only [textOr_eq, readOr_eq (decodeWords_eq base.words), readOr_eq (decodeOrdinal_eq base.ordinal)]
  refine firstFault_bind (firstFault_bind (firstFault_bind (firstFault_bind (firstFault_bind ?_))))
  rw [laid]
  cases fields.lookup "ordinal" <;> rfl

theorem overlay_eq (base : Locale) (value : Value) :
    base.overlay value = firstFault (faults value) (base.laidOver value) := by
  cases value with
  | table fields => exact overlay_table base fields
  | text | integer | real | boolean | moment | list => rfl

theorem overlay_eq_ok_iff {locale : Locale} :
    base.overlay value = .ok locale ↔ Acceptable value ∧ base.laidOver value = locale := by
  rw [overlay_eq, firstFault_eq_ok_iff, faults_eq_nil_iff]

theorem overlay_eq_error_iff {fault : LocaleFault} :
    base.overlay value = .error fault ↔ (faults value).head? = some fault := by
  rw [overlay_eq, firstFault_eq_error_iff]

theorem exists_overlay_iff : (∃ locale, base.overlay value = .ok locale) ↔ Acceptable value := by
  simp only [overlay_eq_ok_iff, exists_and_left, exists_eq', and_true]

theorem overlay_congr {other : List (String × Value)} (base : Locale)
    (agree : ∀ key ∈ keys, other.lookup key = fields.lookup key) :
    base.overlay (.table other) = base.overlay (.table fields) := by
  have own (key : String) (member : key ∈ keys) : other.lookup key = fields.lookup key := agree key member
  rw [overlay_eq_reads, overlay_eq_reads]
  simp only [textOr, own "decimal" (by decide), own "group" (by decide), own "currency" (by decide),
    own "abbreviations" (by decide), own "ordinal" (by decide)]

/-- A rule by its name, or as a table with the suffix. -/
def encodeRule : OrdinalRule → Value
  | .english => .text "english"
  | .french => .text "french"
  | .spanish => .text "spanish"
  | .belgianDutch => .text "belgian-dutch"
  | .turkish => .text "turkish"
  | .fixed suffix => .table [("suffix", .text suffix)]

def encodeWords (words : MagnitudeWords) : Value :=
  .table [("billion", .text words.billion), ("million", .text words.million),
    ("thousand", .text words.thousand), ("trillion", .text words.trillion)]

/-- The table that spells out all fields. -/
def encode (locale : Locale) : Value :=
  .table [("abbreviations", encodeWords locale.words), ("currency", .text locale.currency),
    ("decimal", .text locale.point), ("group", .text locale.group), ("ordinal", encodeRule locale.ordinal)]

theorem overlay_encode (base locale : Locale) : base.overlay (encode locale) = .ok locale := by
  obtain ⟨point, group, words, ordinal, currency⟩ := locale
  cases ordinal <;> rfl

/-- How a value is laid over a locale. -/
structure Decodes (base : Locale) (value : Value) : Prop where
  accepted : (∃ locale, base.overlay value = .ok locale) ↔ Acceptable value
  laid : ∀ fields, value = .table fields → IsLocale fields → base.overlay value = .ok (base.laid fields)
  refused : ∀ fault, base.overlay value = .error fault ↔ (faults value).head? = some fault
  ignored : ∀ fields other, value = .table fields → (∀ key ∈ keys, other.lookup key = fields.lookup key) →
    base.overlay (.table other) = base.overlay value

/-- A value is read by its form: what a locale has replaces what the base has, and the first fault is
reported of a value that is none. A locale that is written out and read over any other is itself again. -/
theorem schema_decodes (base : Locale) (value : Value) :
    Decodes base value ∧ ∀ locale : Locale, base.overlay (encode locale) = .ok locale := by
  refine ⟨⟨exists_overlay_iff, ?_, fun fault => overlay_eq_error_iff, ?_⟩, overlay_encode base⟩
  · rintro fields rfl form
    exact overlay_eq_ok_iff.mpr ⟨⟨fields, rfl, form⟩, rfl⟩
  · rintro fields other rfl agree
    exact overlay_congr base agree

/-- A suffix may be the name of a rule. -/
example : Locale.english.overlay (encode { ordinal := .fixed "french" }) = .ok { ordinal := .fixed "french" } := by
  rfl

end Locale

end NumberPattern
