import NumberPattern.Document.Settled
import NumberPattern.Locale.Book

/-! Locales in documents. A locale is a table; the fields it leaves out keep the values of the locale
it is laid over. Fields with other names do not matter. -/

namespace NumberPattern

inductive LocaleFault where
  /-- The document itself is no table. -/
  | rootNotTable
  | notTable
  | wordsNotTable
  | notText (key : String)
  | missingSuffix
  | unknownRule (name : String)
  | notRule
  /-- A fault in the entry of a key. -/
  | inEntry (key : String) (fault : LocaleFault)
  /-- The text is not a document. -/
  | unreadable
deriving DecidableEq, Repr

def LocaleFault.reason : LocaleFault → String
  | rootNotTable => "root is not a table"
  | notTable => "locale setting is not a table"
  | wordsNotTable => "abbreviations is not a table"
  | notText key => key ++ " must be a string"
  | missingSuffix => "ordinal table needs a suffix"
  | unknownRule name => "unknown ordinal rule '" ++ name ++ "'"
  | notRule => "ordinal must be a rule name or a suffix table"
  | inEntry key fault => "[" ++ key ++ "] " ++ fault.reason
  | unreadable => "invalid document"

inductive LocaleError where
  | notFound (key : String)
  | invalid (fault : LocaleFault)
deriving DecidableEq, Repr

def LocaleError.message : LocaleError → String
  | notFound key => "locale not found: " ++ key
  | invalid fault => "error parsing locale data: " ++ fault.reason

/-- A key that is not found is reported as it was given. -/
def LocaleBook.get (book : LocaleBook) (key : String) : Except LocaleError Locale :=
  match book.find? key with
  | some locale => .ok locale
  | none => .error (.notFound key)

namespace Locale
open Document (Value)

/-- The text of a field, or `default` when the field is missing. -/
def textOr (fields : List (String × Value)) (key default : String) : Except LocaleFault String :=
  match fields.lookup key with
  | none => .ok default
  | some (.text content) => .ok content
  | some _ => .error (.notText key)

def decodeWords (words : MagnitudeWords) : Value → Except LocaleFault MagnitudeWords
  | .table fields => do
      let thousand ← textOr fields "thousand" words.thousand
      let million ← textOr fields "million" words.million
      let billion ← textOr fields "billion" words.billion
      let trillion ← textOr fields "trillion" words.trillion
      return ⟨thousand, million, billion, trillion⟩
  | _ => .error .wordsNotTable

def ruleOfName? : String → Option OrdinalRule
  | "english" => some .english
  | "french" => some .french
  | "spanish" => some .spanish
  | "belgian-dutch" => some .belgianDutch
  | "turkish" => some .turkish
  | _ => none

def decodeOrdinal : Value → Except LocaleFault OrdinalRule
  | .table fields =>
      match fields.lookup "suffix" with
      | none => .error .missingSuffix
      | some (.text suffix) => .ok (.fixed suffix)
      | some _ => .error (.notText "suffix")
  | .text name =>
      match ruleOfName? name with
      | some rule => .ok rule
      | none => .error (.unknownRule name)
  | _ => .error .notRule

def overlay (base : Locale) : Value → Except LocaleFault Locale
  | .table fields => do
      let point ← textOr fields "decimal" base.point
      let group ← textOr fields "group" base.group
      let currency ← textOr fields "currency" base.currency
      let words ← match fields.lookup "abbreviations" with
        | some value => decodeWords base.words value
        | none => .ok base.words
      let ordinal ← match fields.lookup "ordinal" with
        | some value => decodeOrdinal value
        | none => .ok base.ordinal
      return ⟨point, group, words, ordinal, currency⟩
  | _ => .error .notTable

/-- A locale over the English defaults. -/
def decode (value : Value) : Except LocaleFault Locale := overlay {} value

end Locale

namespace LocaleBook
open Document (Value)

/-- The entry with this key is no locale: it is laid under all others. -/
def baseKey : String := "base"

def addEntry (base : Locale) (book : LocaleBook) (entry : String × Value) :
    Except LocaleFault LocaleBook :=
  if entry.1 = baseKey then .ok book
  else match base.overlay entry.2 with
    | .ok locale => .ok (book.insert entry.1 locale)
    | .error fault => .error (.inEntry entry.1 fault)

def decodeBase (fields : List (String × Value)) : Except LocaleFault Locale :=
  match fields.lookup baseKey with
  | some value => Locale.decode value
  | none => .ok {}

/-- One locale for each field, in the order of keys. -/
def decode (fields : List (String × Value)) : Except LocaleFault LocaleBook := do
  let base ← decodeBase fields
  fields.foldlM (addEntry base) {}

/-- The book of a text that `document?` can read. -/
def readBy (document? : String → Option Value) (text : String) : Except LocaleFault LocaleBook :=
  match document? text with
  | some (.table fields) => decode fields
  | some _ => .error .rootNotTable
  | none => .error .unreadable

def read (text : String) : Except LocaleFault LocaleBook := readBy Document.value text

end LocaleBook

end NumberPattern
