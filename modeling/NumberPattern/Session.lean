import NumberPattern.Locale.Standard
import NumberPattern.Plan
import NumberPattern.Rounding

/-! A session holds all that formatting a number depends on: the lexicon, the locales and the selected
one, the defaults, and the cache of compiled patterns. No failing operation changes a session. -/

namespace NumberPattern

/-- A compiled pattern with the serial number of its compilation: two artifacts are the very same one
when their numbers agree. -/
structure Artifact where
  serial : Nat
  plan : Plan

structure Session where
  lexicon : Lexicon
  locales : LocaleBook := Locale.standard
  /-- The key of the selected locale, in lower case. -/
  locale : String := "en"
  /-- Stands for an empty pattern. -/
  defaultPattern : String := "0.0"
  /-- Written for zero instead of formatting it. -/
  zeroText : Option String := none
  caching : Bool := true
  cache : List (String × Artifact) := []
  /-- How many patterns have been compiled; the serial number of the next artifact. -/
  compiled : Nat := 0

namespace Session

def ofLexicon (lexicon : Lexicon) : Session := { lexicon := lexicon }

def new : Session := ofLexicon (Lexicon.standard .echo)

/-- A pattern that is in the cache is not compiled again. Failures are never cached. -/
def compile (session : Session) (pattern : String) : Except Failure Artifact × Session :=
  match if session.caching then session.cache.lookup pattern else none with
  | some artifact => (.ok artifact, session)
  | none =>
      match Plan.compile session.lexicon session.compiled pattern with
      | .error failure => (.error failure, session)
      | .ok plan =>
          let artifact : Artifact := ⟨session.compiled, plan⟩
          let cache := if session.caching then session.cache ++ [(pattern, artifact)] else session.cache
          (.ok artifact, { session with cache := cache, compiled := session.compiled + 1 })

def localeSettings (session : Session) (key : String) : Except Failure Locale :=
  match session.locales.find? key with
  | some locale => .ok locale
  | none => .error (.unknownLocale key)

def zeroOverride (session : Session) (value : Float) : Option String :=
  if value == 0.0 then session.zeroText else none

/-- The locale is looked up first; then a zero is answered with the zero text, if there is one. -/
def render (session : Session) (artifact : Artifact) (value : Float) (rounding : Float → Float)
    (key : String) : Except Failure String :=
  match session.localeSettings key with
  | .error failure => .error failure
  | .ok locale =>
      match session.zeroOverride value with
      | some text => .ok text
      | none => .ok (artifact.plan.render value rounding locale)

def patternOrDefault (session : Session) (pattern : String) : String :=
  if pattern.isEmpty then session.defaultPattern else pattern

def formatWith (session : Session) (value : Float) (pattern : String) (rounding : Float → Float)
    (key : String) : Except Failure String × Session :=
  match session.localeSettings key with
  | .error failure => (.error failure, session)
  | .ok locale =>
      match session.zeroOverride value with
      | some text => (.ok text, session)
      | none =>
          match session.compile (session.patternOrDefault pattern) with
          | (.error failure, session) => (.error failure, session)
          | (.ok artifact, session) => (.ok (artifact.plan.render value rounding locale), session)

def format (session : Session) (value : Float) (pattern : String) : Except Failure String × Session :=
  session.formatWith value pattern roundHalfUp session.locale

def setZeroText (session : Session) (text : Option String) : Session := { session with zeroText := text }

def setDefaultPattern (session : Session) (pattern : Option String) : Session :=
  { session with defaultPattern := pattern.getD "0.0" }

def loadLocale (session : Session) (key : String) (locale : Locale) : Session :=
  { session with locales := session.locales.insert key locale }

def setLocale (session : Session) (key : String) : Except Failure Unit × Session :=
  let key := Text.lowerCase key
  if session.locales.contains key then (.ok (), { session with locale := key })
  else (.error (.unknownLocale key), session)

def clearCache (session : Session) : Session := { session with cache := [] }

/-- What was compiled before may now be claimed by the new claimant, so it is dropped. -/
def register (session : Session) (claimant : Claimant) : Session :=
  { session with lexicon := session.lexicon.register claimant }.clearCache

def setUnclaimed (session : Session) (unclaimed : Unclaimed) : Session :=
  { session with lexicon := { session.lexicon with unclaimed := unclaimed } }.clearCache

/-- A session that does not cache has an empty cache. -/
def setCaching (session : Session) (caching : Bool) : Session :=
  let session := { session with caching := caching }
  if caching then session else session.clearCache

/-- The text in double quotes, with escapes. -/
def quote (text : String) : String :=
  let escape : Char → List Char
    | '"' => ['\\', '"']
    | '\\' => ['\\', '\\']
    | '\n' => ['\\', 'n']
    | '\r' => ['\\', 'r']
    | '\t' => ['\\', 't']
    | c => [c]
  "\"" ++ String.ofList (text.toList.flatMap escape) ++ "\""

/-- The state of the session in short form, for diagnostics. -/
def describe (session : Session) : String :=
  "Engine \x7b registry: " ++ session.lexicon.describe ++
    ", locale: " ++ quote session.locale ++
    ", default_format: " ++ quote session.defaultPattern ++
    ", zero_format: " ++ (match session.zeroText with
      | some text => "Some(" ++ quote text ++ ")"
      | none => "None") ++
    ", cache_enabled: " ++ (if session.caching then "true" else "false") ++
    ", cached_formats: " ++ toString session.cache.length ++ " \x7d"

end Session

end NumberPattern
