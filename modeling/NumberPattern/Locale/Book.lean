import NumberPattern.Document.Value
import NumberPattern.Locale
import NumberPattern.Text.LowerCase

/-! Locales by key. Keys that differ only in letter case are one key. -/

namespace NumberPattern

/-- The entries have lower-case keys, in strictly ascending order. -/
structure LocaleBook where
  entries : List (String × Locale) := []
deriving DecidableEq, Repr

namespace LocaleBook

/-- Add or replace a locale. -/
def insert (book : LocaleBook) (key : String) (locale : Locale) : LocaleBook :=
  ⟨Document.put (Text.lowerCase key) locale book.entries⟩

def find? (book : LocaleBook) (key : String) : Option Locale :=
  book.entries.lookup (Text.lowerCase key)

def contains (book : LocaleBook) (key : String) : Bool := (book.find? key).isSome

def keys (book : LocaleBook) : List String := book.entries.map (·.1)

def ofList (entries : List (String × Locale)) : LocaleBook :=
  entries.foldl (fun book entry => book.insert entry.1 entry.2) {}

end LocaleBook

end NumberPattern
