import NumberPattern.Locale.Schema
import NumberPattern.Locale.Standard
import NumberPattern.Proofs.Document.Order
import NumberPattern.Proofs.Text.LowerCase

/-! A book answers with the locale that was inserted last under the key, in whatever letter case. -/

namespace NumberPattern

/-- The locale that was loaded last under the key. -/
def lastLoaded (loads : List (String × Locale)) (key : String) : Option Locale :=
  (loads.reverse.find? fun load => Text.lowerCase load.1 = Text.lowerCase key).map Prod.snd

theorem lastLoaded_concat (loads : List (String × Locale)) (load : String × Locale) (key : String) :
    lastLoaded (loads ++ [load]) key =
      if Text.lowerCase key = Text.lowerCase load.1 then some load.2 else lastLoaded loads key := by
  rw [lastLoaded, List.reverse_append, List.reverse_singleton, List.singleton_append, List.find?_cons]
  by_cases same : Text.lowerCase load.1 = Text.lowerCase key
  · simp [same]
  · simp [same, Ne.symm same, lastLoaded]

theorem lastLoaded_eq_some {before after : List (String × Locale)} {load : String × Locale} {key : String}
    (same : Text.lowerCase key = Text.lowerCase load.1)
    (last : ∀ other ∈ after, Text.lowerCase other.1 ≠ Text.lowerCase load.1) :
    lastLoaded (before ++ load :: after) key = some load.2 := by
  have skipped : after.reverse.find? (fun other => Text.lowerCase other.1 = Text.lowerCase key) = none := by
    simpa [same] using last
  rw [lastLoaded, List.reverse_append, List.reverse_cons, List.append_assoc, List.find?_append, skipped]
  simp [same]

namespace LocaleBook

/-- The book answers as the loads do. -/
def Keeps (book : LocaleBook) (loads : List (String × Locale)) : Prop :=
  ∀ key, book.find? key = lastLoaded loads key

variable {book : LocaleBook} {loads : List (String × Locale)}

@[simp] theorem find?_lowerCase (book : LocaleBook) (key : String) :
    book.find? (Text.lowerCase key) = book.find? key := by
  rw [find?, find?, Text.lowerCase_lowerCase]

theorem find?_eq_none_iff {key : String} : book.find? key = none ↔ Text.lowerCase key ∉ book.keys :=
  Document.lookup_eq_none_iff

theorem exists_find?_iff {key : String} :
    (∃ locale, book.find? key = some locale) ↔ Text.lowerCase key ∈ book.keys := by
  rw [← not_iff_not, ← find?_eq_none_iff, ← Option.isSome_iff_exists, Option.not_isSome_iff_eq_none]

theorem get_eq_ok_iff {key : String} {locale : Locale} :
    book.get key = .ok locale ↔ book.find? key = some locale := by
  unfold LocaleBook.get
  cases book.find? key <;> simp

theorem get_eq_error_iff {key : String} {error : LocaleError} :
    book.get key = .error error ↔ book.find? key = none ∧ error = .notFound key := by
  unfold LocaleBook.get
  cases book.find? key <;> simp [eq_comm]

theorem find?_insert (book : LocaleBook) (key other : String) (locale : Locale) :
    (book.insert key locale).find? other =
      if Text.lowerCase other = Text.lowerCase key then some locale else book.find? other :=
  Document.lookup_put ..

theorem Keeps.insert (keeps : book.Keeps loads) (load : String × Locale) :
    (book.insert load.1 load.2).Keeps (loads ++ [load]) := by
  intro key
  rw [find?_insert, lastLoaded_concat, keeps key]

def insertAll (book : LocaleBook) (inserts : List (String × Locale)) : LocaleBook :=
  inserts.foldl (fun book insert => book.insert insert.1 insert.2) book

theorem insertAll_append (book : LocaleBook) (inserts more : List (String × Locale)) :
    book.insertAll (inserts ++ more) = (book.insertAll inserts).insertAll more :=
  List.foldl_append ..

theorem Keeps.insertAll (keeps : book.Keeps loads) (inserts : List (String × Locale)) :
    (book.insertAll inserts).Keeps (loads ++ inserts) := by
  induction inserts generalizing book loads with
  | nil =>
    rw [List.append_nil]
    exact keeps
  | cons insert inserts ih =>
    rw [List.append_cons]
    exact ih (keeps.insert insert)

theorem mem_keys_insertAll {key : String} (inserts : List (String × Locale)) :
    key ∈ (book.insertAll inserts).keys ↔
      key ∈ book.keys ∨ ∃ insert ∈ inserts, Text.lowerCase insert.1 = key := by
  induction inserts generalizing book with
  | nil => simp [insertAll]
  | cons insert inserts ih =>
    have first : key ∈ (book.insert insert.1 insert.2).keys ↔
        key = Text.lowerCase insert.1 ∨ key ∈ book.keys := Document.mem_keys_put ..
    rw [insertAll, List.foldl_cons, ← insertAll, ih, first, List.exists_mem_cons_iff, or_assoc, or_left_comm,
      eq_comm]

theorem ascending_insertAll (ascending : Document.Ascending book.entries) (inserts : List (String × Locale)) :
    Document.Ascending (book.insertAll inserts).entries := by
  induction inserts generalizing book with
  | nil => exact ascending
  | cons insert inserts ih => exact ih (ascending.put (Text.lowerCase insert.1) insert.2)

/-- The book answers as the loads do, and its keys are theirs in lower case. -/
structure StandsFor (book : LocaleBook) (loads : List (String × Locale)) : Prop where
  keeps : book.Keeps loads
  ascending : Document.Ascending book.entries
  listed : ∀ key, key ∈ book.keys ↔ ∃ load ∈ loads, Text.lowerCase load.1 = key

theorem standsFor_empty : StandsFor {} [] :=
  ⟨fun _ => rfl, List.Pairwise.nil, fun key => by simp [keys]⟩

theorem StandsFor.insertAll (stands : StandsFor book loads) (inserts : List (String × Locale)) :
    StandsFor (book.insertAll inserts) (loads ++ inserts) where
  keeps := stands.keeps.insertAll inserts
  ascending := ascending_insertAll stands.ascending inserts
  listed key := by
    rw [mem_keys_insertAll, stands.listed]
    simp only [List.mem_append, or_and_right, exists_or]

theorem standsFor_ofList (entries : List (String × Locale)) : StandsFor (ofList entries) entries :=
  standsFor_empty.insertAll entries

/-- The entries of the standard book are its loads: their keys are in lower case already. -/
theorem standsFor_standard : StandsFor Locale.standard Locale.standard.entries := by
  have same : Locale.standard = ofList Locale.standard.entries := by decide +kernel
  have stands := standsFor_ofList Locale.standard.entries
  rwa [← same] at stands

end LocaleBook

end NumberPattern
