import NumberPattern.Locale.Schema
import NumberPattern.Session

/-! The setup of a session, as it is written in a document. Every field may be left out; other fields
are refused. -/

namespace NumberPattern
open Document (Value)

structure Setup where
  defaultPattern : String := "0.0"
  zeroText : Option String := none
  locale : String := "en"
  caching : Bool := true
  unclaimed : Unclaimed := .echo
  /-- Further locales, still to be decoded, in the order of keys. -/
  locales : List (String × Value) := []

namespace Setup

def unclaimedOfName? : String → Option Unclaimed
  | "echo" => some .echo
  | "skip" => some .skip
  | _ => none

/-- A choice is named by a text, or by the only field of a table when that field holds nothing. -/
def unclaimed? : Value → Option Unclaimed
  | .text name => unclaimedOfName? name
  | .table [(name, .table [])] => unclaimedOfName? name
  | .table [(name, .list [])] => unclaimedOfName? name
  | _ => none

/-- The further locales are a table of any fields, so a moment is taken for the table that writes it. -/
def locales? : Value → Option (List (String × Value))
  | .table fields => Document.settleFields? fields
  | .moment literal => some [(Document.momentField, .text literal)]
  | _ => none

def setField (setup : Setup) (field : String × Value) : Option Setup :=
  match field with
  | ("default_format", .text pattern) => some { setup with defaultPattern := pattern }
  | ("zero_format", .text text) => some { setup with zeroText := some text }
  | ("locale", .text key) => some { setup with locale := key }
  | ("cache", .boolean caching) => some { setup with caching := caching }
  | ("fallback", value) => (unclaimed? value).map fun unclaimed => { setup with unclaimed := unclaimed }
  | ("locales", value) => (locales? value).map fun locales => { setup with locales := locales }
  | _ => none

def read (text : String) : Option Setup := do (← Document.read text).foldlM setField {}

def isDefault (setup : Setup) : Bool :=
  setup.defaultPattern == "0.0" && setup.zeroText.isNone && setup.locale == "en" && setup.caching &&
    setup.unclaimed == .echo && setup.locales.isEmpty

end Setup

inductive SetupError where
  | locale (fault : LocaleFault)
  | failure (failure : Failure)
deriving DecidableEq, Repr

namespace Session

def loadEntry (session : Session) (entry : String × Value) : Except SetupError Session :=
  match Locale.decode entry.2 with
  | .ok locale => .ok (session.loadLocale entry.1 locale)
  | .error fault => .error (.locale fault)

/-- The further locales are loaded before the locale is selected, so it may be one of them. -/
def ofSetup (setup : Setup) : Except SetupError Session := do
  let session ← setup.locales.foldlM loadEntry (ofLexicon (Lexicon.standard setup.unclaimed))
  match session.setLocale setup.locale with
  | (.error failure, _) => .error (.failure failure)
  | (.ok _, session) =>
      return ((session.setDefaultPattern (some setup.defaultPattern)).setZeroText
        setup.zeroText).setCaching setup.caching

end Session

end NumberPattern
