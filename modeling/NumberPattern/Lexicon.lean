import NumberPattern.Token.Claim

/-! The lexicon keeps the registered claimants and, for each character, the ones it calls. At a site
the claimants of the first character are asked in turn; what none of them takes is left to the rule
for unclaimed text. -/

namespace NumberPattern

/-- The rule for unclaimed text: write it as it stands, or leave it out. -/
inductive Unclaimed where
  | echo
  | skip
deriving DecidableEq, Repr

structure Entry where
  id : ClaimantId
  claimant : Claimant

/-- A step and the claimant that it came from. -/
structure Claim where
  claimant : ClaimantId
  step : Step

structure Lexicon where
  unclaimed : Unclaimed
  /-- In the order of registration. -/
  entries : List Entry := []
  /-- The entries that a character calls, in the order in which they are asked. -/
  index : List (Char × List Entry) := []
  tokens : List (Token × ClaimantId) := []

namespace Lexicon

/-- The source of the steps for unclaimed text. -/
def fallbackId : ClaimantId := ⟨1⟩

def nextId (lexicon : Lexicon) : ClaimantId := ⟨lexicon.entries.length + 2⟩

/-- A new entry comes after all entries of the same or a lower priority. -/
def place (entry : Entry) : List Entry → List Entry
  | [] => [entry]
  | other :: rest =>
      if entry.claimant.priority < other.claimant.priority then entry :: other :: rest
      else other :: place entry rest

def file (entry : Entry) (c : Char) : List (Char × List Entry) → List (Char × List Entry)
  | [] => [(c, [entry])]
  | (other, called) :: rest =>
      if other = c then (other, place entry called) :: rest else (other, called) :: file entry c rest

def add (lexicon : Lexicon) (entry : Entry) : Lexicon :=
  { lexicon with
    entries := lexicon.entries ++ [entry]
    index := entry.claimant.triggers.toList.eraseDups.foldl (fun index c => file entry c index)
      lexicon.index }

def register (lexicon : Lexicon) (claimant : Claimant) : Lexicon :=
  lexicon.add ⟨lexicon.nextId, claimant⟩

def registerToken (lexicon : Lexicon) (token : Token) : Lexicon :=
  { lexicon.register token.claimant with tokens := lexicon.tokens ++ [(token, lexicon.nextId)] }

def bare (unclaimed : Unclaimed) : Lexicon := { unclaimed := unclaimed }

/-- The lexicon of the standard tokens. -/
def standard (unclaimed : Unclaimed) : Lexicon := Token.all.foldl registerToken (bare unclaimed)

def tokenId? (lexicon : Lexicon) (token : Token) : Option ClaimantId := lexicon.tokens.lookup token

def token? (lexicon : Lexicon) (id : ClaimantId) : Option Token :=
  (lexicon.tokens.find? (·.2 = id)).map (·.1)

def called (lexicon : Lexicon) (c : Char) : List Entry := (lexicon.index.lookup c).getD []

def isTrigger (lexicon : Lexicon) (c : Char) : Bool := (lexicon.index.lookup c).isSome

def candidates (lexicon : Lexicon) (c : Char) : List ClaimantId := (lexicon.called c).map (·.id)

/-- The tally before the first claim on a pattern. -/
def tally (lexicon : Lexicon) : Tally := { tokens := lexicon.tokens }

/-- The claim of the first entry that does not decline. An error is final. -/
def firstClaim (tally : Tally) (site : Site) : List Entry → Except Failure (Option Claim)
  | [] => .ok none
  | entry :: rest =>
      match entry.claimant.claim entry.id tally site with
      | .error error => .error error
      | .ok (some step) => .ok (some ⟨entry.id, step⟩)
      | .ok none => firstClaim tally site rest

/-- Echoed text runs up to the next character that calls a claimant; skipping takes one character. -/
def fallbackStep (lexicon : Lexicon) (first : Char) (rest : List Char) : Step :=
  match lexicon.unclaimed with
  | .echo =>
      let more := rest.takeWhile fun c => !lexicon.isTrigger c
      { action := .literal (String.ofList (first :: more)), weight := Weight.literal,
        consumed := more.length }
  | .skip => { action := .skip, weight := Weight.literal }

def dispatch (lexicon : Lexicon) (tally : Tally) (site : Site) : Except Failure (Claim × Tally) :=
  match site.rest with
  | [] => .error (site.malformed .pastEnd)
  | first :: rest =>
      match firstClaim tally site (lexicon.called first) with
      | .error error => .error error
      | .ok (some claim) => .ok (claim, tally.record claim.claimant)
      | .ok none => .ok (⟨fallbackId, lexicon.fallbackStep first rest⟩, tally.record fallbackId)

/-- The state of the lexicon in short form, for diagnostics. -/
def describe (lexicon : Lexicon) : String :=
  "TokenRegistry \x7b handlers: " ++ toString lexicon.entries.length ++ ", triggers: " ++
    toString lexicon.index.length ++ ", fallback: " ++
    (match lexicon.unclaimed with | .echo => "Echo" | .skip => "Skip") ++ " \x7d"

end Lexicon

end NumberPattern
