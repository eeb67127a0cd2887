import NumberPattern.Proofs.Locale.Inheritance

/-! A book is a map of its keys up to letter case. Whatever it starts from and whatever is inserted into it, it
answers with the last locale that was inserted under the key in any letter case, and it lists each key once,
in lower case. -/

namespace NumberPattern.LocaleBook
open Document (Value)

/-- The books to start from, and what has been inserted into each. -/
inductive MadeOf : LocaleBook → List (String × Locale) → Prop
  | empty : MadeOf {} []
  | standard : MadeOf Locale.standard Locale.standard.entries
  | read {document? : String → Option Value} {text : String} {fields : List (String × Value)}
      {book : LocaleBook} (parsed : document? text = some (.table fields))
      (found : readBy document? text = .ok book) : MadeOf book (loads (baseOf fields) fields)

variable {book : LocaleBook} {loads : List (String × Locale)}

theorem MadeOf.standsFor (made : MadeOf book loads) : StandsFor book loads := by
  cases made with
  | empty => exact standsFor_empty
  | standard => exact standsFor_standard
  | read parsed found =>
    rw [readBy_eq parsed, decode_eq_ok_iff] at found
    exact found.2 ▸ standsFor_ofList _

/-- The book is a map of its keys up to letter case, and `inserts` are its history. -/
structure MapsKeys (book : LocaleBook) (inserts : List (String × Locale)) : Prop where
  found : ∀ key, book.contains key = true ↔ ∃ locale, book.get key = .ok locale
  inserted : ∀ key, book.contains key = true ↔
    ∃ insert ∈ inserts, Text.lowerCase insert.1 = Text.lowerCase key
  last : ∀ before insert after, inserts = before ++ insert :: after →
    (∀ later ∈ after, Text.lowerCase later.1 ≠ Text.lowerCase insert.1) →
    ∀ key, Text.lowerCase key = Text.lowerCase insert.1 → book.get key = .ok insert.2
  /-- A key that is not found is named as it was given. -/
  missing : ∀ key, book.contains key = false → book.get key = .error (.notFound key)
  ordered : book.keys.Pairwise fun key other => Text.bytes key < Text.bytes other
  listed : ∀ key, key ∈ book.keys ↔ ∃ insert ∈ inserts, Text.lowerCase insert.1 = key
  once : book.keys.Nodup
  reached : ∀ key ∈ book.keys, ∃ locale, book.get key = .ok locale
  untouched : ∀ other key, Text.lowerCase key ≠ Text.lowerCase other →
    ∀ locale, (book.insert other locale).get key = book.get key

theorem contains_iff {key : String} : book.contains key = true ↔ ∃ locale, book.get key = .ok locale := by
  rw [contains, Option.isSome_iff_exists]
  simp only [get_eq_ok_iff]

theorem StandsFor.contains_iff (stands : StandsFor book loads) {key : String} :
    book.contains key = true ↔ ∃ load ∈ loads, Text.lowerCase load.1 = Text.lowerCase key := by
  rw [contains, Option.isSome_iff_exists, exists_find?_iff, stands.listed]

theorem StandsFor.mapsKeys (stands : StandsFor book loads) : MapsKeys book loads where
  found key := LocaleBook.contains_iff
  inserted key := stands.contains_iff
  last before insert after split last key same := by
    rw [get_eq_ok_iff, stands.keeps, split, lastLoaded_eq_some same last]
  missing key absent := by
    rw [get_eq_error_iff]
    exact ⟨Option.not_isSome_iff_eq_none.mp (ne_true_of_eq_false absent), rfl⟩
  ordered := List.pairwise_map.mpr stands.ascending.bytes
  listed := stands.listed
  once := stands.ascending.nodup
  reached key listed := by
    -- A listed key is in lower case, so looking it up lower-cases a key once more.
    obtain ⟨load, member, rfl⟩ := (stands.listed key).mp listed
    rw [← LocaleBook.contains_iff, stands.contains_iff]
    exact ⟨load, member, (Text.lowerCase_lowerCase load.1).symm⟩
  untouched other key different locale := by
    rw [LocaleBook.get, LocaleBook.get, find?_insert, if_neg different]

/-- Inserting keeps a book a map of its keys up to letter case. -/
theorem keys_up_to_case (made : MadeOf book loads) (inserts : List (String × Locale)) :
    (book.insertAll inserts).MapsKeys (loads ++ inserts) :=
  (made.standsFor.insertAll inserts).mapsKeys

/-- At the end of a word a capital sigma is lower-cased to the final one, so these two are one key. -/
theorem keys_up_to_case_sigma : MadeOf Locale.standard Locale.standard.entries ∧
    (Locale.standard.insertAll [("ΟΔΟΣ", Locale.polish), ("Οδος", Locale.turkish)]).MapsKeys
      (Locale.standard.entries ++ [("ΟΔΟΣ", Locale.polish), ("Οδος", Locale.turkish)]) :=
  ⟨.standard, keys_up_to_case .standard _⟩

/-- Without a letter before it, no sigma is final. -/
example : (insertAll {} [("ΟΔΟΣ", Locale.polish), ("Σ", Locale.turkish)]).keys = ["οδος", "σ"] := by
  decide +kernel

end NumberPattern.LocaleBook
