import Mathlib.Data.Nat.PSub
import NumberPattern.Proofs.Scan.Calls
import NumberPattern.Proofs.Scan.Malformed

/-! Tokens and unclaimed text read by positions in bytes. A text can be cut between two characters only, and a
difference of two lengths is there only where the first one is not the smaller. At a character that calls the
token all the cuts and differences are there, and what is read is what the token claims. -/

namespace NumberPattern.Scan

/-- The text cut behind its first `bytes` bytes. It is not cut inside a character or behind its end. -/
def splitBytes? : (bytes : Nat) → List Char → Option (List Char × List Char)
  | 0, text => some ([], text)
  | _ + 1, [] => none
  | bytes + 1, c :: rest => do
      let left ← (bytes + 1).psub c.utf8Size
      let (before, after) ← splitBytes? left rest
      return (c :: before, after)

def textFrom? (pattern : String) (position : Nat) : Option (List Char) :=
  (splitBytes? position pattern.toList).map Prod.snd

def slice? (pattern : String) (start stop : Nat) : Option (List Char) := do
  let text ← textFrom? pattern start
  let bytes ← stop.psub start
  let (piece, _) ← splitBytes? bytes text
  return piece

/-- The characters with their positions. -/
def charIndices : (position : Nat) → List Char → List (Nat × Char)
  | _, [] => []
  | position, c :: rest => (position, c) :: charIndices (position + c.utf8Size) rest

variable {pattern : String} {before text after rest : List Char} {c : Char} {bytes : Nat}

theorem splitBytes?_append (before after : List Char) :
    splitBytes? (byteLength before) (before ++ after) = some (before, after) := by
  induction before with
  | nil => rw [byteLength_nil, List.nil_append, splitBytes?]
  | cons c before ih =>
    obtain ⟨bytes, whole⟩ : ∃ bytes, byteLength (c :: before) = bytes + 1 :=
      Nat.exists_eq_succ_of_ne_zero (by have := c.utf8Size_pos; rw [byteLength_cons]; omega)
    have left : (bytes + 1).psub c.utf8Size = some (byteLength before) :=
      Nat.psub_eq_some.mpr (by rw [← whole, byteLength_cons, Nat.add_comm])
    simp only [whole, List.cons_append, splitBytes?, left, Option.bind_eq_bind, Option.bind_some, ih]
    rfl

theorem splitBytes?_eq_some :
    splitBytes? bytes text = some (before, after) ↔ text = before ++ after ∧ byteLength before = bytes := by
  constructor
  · intro cut
    induction text generalizing bytes before with
    | nil =>
      cases bytes with
      | zero => cases cut; exact ⟨rfl, rfl⟩
      | succ bytes => cases cut
    | cons c text ih =>
      cases bytes with
      | zero => cases cut; exact ⟨rfl, rfl⟩
      | succ bytes =>
        rw [splitBytes?] at cut
        obtain ⟨left, size, cut⟩ := Option.bind_eq_some_iff.mp cut
        obtain ⟨⟨first, last⟩, inner, whole⟩ := Option.bind_eq_some_iff.mp cut
        cases whole
        obtain ⟨rfl, rfl⟩ := ih inner
        rw [← Nat.psub_eq_some.mp size, byteLength_cons, Nat.add_comm]
        exact ⟨rfl, rfl⟩
  · rintro ⟨rfl, rfl⟩
    exact splitBytes?_append before after

theorem utf8ByteSize_ofList (text : List Char) : (String.ofList text).utf8ByteSize = byteLength text := by
  induction text with
  | nil => rfl
  | cons c text ih =>
    rw [String.ofList_cons, String.utf8ByteSize_append, String.utf8ByteSize_singleton, ih, byteLength_cons]

theorem utf8ByteSize_eq (pattern : String) : pattern.utf8ByteSize = byteLength pattern.toList := by
  rw [← utf8ByteSize_ofList, String.ofList_toList]

/-- The places where a pattern can be cut are the valid positions of the string. -/
theorem splitBytes?_isSome_iff :
    (splitBytes? bytes pattern.toList).isSome ↔ String.Pos.Raw.IsValid pattern ⟨bytes⟩ := by
  rw [String.Pos.Raw.isValid_iff_exists_append, Option.isSome_iff_exists]
  constructor
  · rintro ⟨⟨before, after⟩, cut⟩
    obtain ⟨whole, size⟩ := splitBytes?_eq_some.mp cut
    refine ⟨.ofList before, .ofList after, ?_, String.Pos.Raw.ext ?_⟩
    · rw [← String.ofList_append, ← whole, String.ofList_toList]
    · rw [String.byteIdx_rawEndPos, utf8ByteSize_ofList, size]
  · rintro ⟨before, after, rfl, position⟩
    have size : bytes = byteLength before.toList := by
      rw [← utf8ByteSize_eq, ← String.byteIdx_rawEndPos, ← position]
    exact ⟨_, splitBytes?_eq_some.mpr ⟨String.toList_append, size.symm⟩⟩

theorem textFrom?_append (split : pattern.toList = before ++ text) :
    textFrom? pattern (byteLength before) = some text := by
  rw [textFrom?, split, splitBytes?_append, Option.map_some]

/-- The text behind a character. -/
theorem textFrom?_next (split : pattern.toList = before ++ c :: rest) :
    textFrom? pattern (byteLength before + c.utf8Size) = some rest := by
  have behind : pattern.toList = before ++ [c] ++ rest := by rw [split, List.append_assoc]; rfl
  simpa using textFrom?_append behind

theorem slice?_append (split : pattern.toList = before ++ text ++ after) :
    slice? pattern (byteLength before) (byteLength before + byteLength text) = some text := by
  have length : (byteLength before + byteLength text).psub (byteLength before) = some (byteLength text) :=
    Nat.psub_eq_some.mpr (Nat.add_comm _ _)
  rw [List.append_assoc] at split
  simp only [slice?, textFrom?_append split, length, Option.bind_eq_bind, Option.bind_some,
    splitBytes?_append]
  rfl

/-- The length of what stands before the rest of a text. -/
theorem psub_byteLength (piece rest : List Char) :
    (byteLength (piece ++ rest)).psub (byteLength rest) = some (byteLength piece) :=
  Nat.psub_eq_some.mpr (byteLength_append piece rest).symm

theorem getElem?_charIndices (position : Nat) (text : List Char) (index : Nat) :
    (charIndices position text)[index]? =
      text[index]?.map fun c => (position + byteLength (text.take index), c) := by
  induction text generalizing position index with
  | nil => rfl
  | cons c text ih =>
    cases index with
    | zero => rfl
    | succ index =>
      simp only [charIndices, List.getElem?_cons_succ, ih, List.take_succ_cons, byteLength_cons, Nat.add_assoc]

theorem find?_charIndices (stops : Char → Bool) (position : Nat) (text : List Char) :
    ((charIndices position text).find? fun item => stops item.2).elim (position + byteLength text) Prod.fst =
      position + byteLength (text.takeWhile fun c => !stops c) := by
  induction text generalizing position with
  | nil => rfl
  | cons c text ih =>
    by_cases stop : stops c = true
    · simp [charIndices, stop]
    · simp only [charIndices, List.find?_cons, stop, List.takeWhile_cons, Bool.not_false, if_true,
        byteLength_cons, ← Nat.add_assoc, ih]

end Scan

namespace Token
open Scan

/-- The letter of the magnitude is looked for one byte further on. -/
def readAbbreviation? (pattern : String) (position : Nat) : Option Step := do
  let rest ← textFrom? pattern (position + 1)
  match rest.head?.bind Magnitude.ofLetter? with
  | some magnitude =>
      return { action := .abbreviate (.forced magnitude), weight := Weight.scale, consumed := 1 }
  | none => return { action := .abbreviate .bestFit, weight := Weight.scale }

def readGrouping? (pattern : String) (position : Nat) : Option Step := do
  let rest ← textFrom? pattern (position + 1)
  return { action := .group, weight := Weight.delimiter, consumed := if rest.head? = some '0' then 1 else 0 }

def readClock? (pattern : String) (position : Nat) : Option (Option Step) := do
  let text ← textFrom? pattern position
  if clockTemplate.isPrefixOf text then
    let consumed ← (byteLength clockTemplate).psub 1
    return some { action := .clock, weight := Weight.integer, consumed := consumed }
  else return none

/-- The step of decimals that end where `rest` starts. -/
def readDecimalsStep? (mandatory optional : Nat) (text rest : List Char) : Option Step := do
  let matched ← (byteLength text).psub (byteLength rest)
  let consumed ← matched.psub 1
  return decimalsStep mandatory optional consumed

/-- A character, and what is left behind it. -/
def readChar? (c : Char) : List Char → Option (List Char)
  | d :: rest => if d = c then some rest else none
  | [] => none

/-- The bytes of a run of zeros, and what is left behind it. -/
def readZeros (text : List Char) : Nat × List Char :=
  (byteLength (text.takeWhile (· = '0')), text.dropWhile (· = '0'))

/-- The bytes of a run of one zero or more. -/
def readSomeZeros? (text : List Char) : Option (Nat × List Char) :=
  match readZeros text with
  | (0, _) => none
  | (bytes, rest) => some (bytes, rest)

/-- Zeros between brackets. -/
def readClosed? (text : List Char) : Option (Nat × List Char) := do
  let (optional, inner) ← readSomeZeros? (← readChar? '[' text)
  return (optional, ← readChar? ']' inner)

/-- Zeros behind a bracket, without a bracket behind them. -/
def readUnterminated? (text : List Char) : Option (List Char) := do
  let (_, inner) ← readSomeZeros? (← readChar? '[' text)
  if (readChar? ']' inner).isSome then none else some inner

/-- A bracket at the end. -/
def readBareBracket? (text : List Char) : Option (List Char) := do
  let inner ← readChar? '[' text
  if inner.isEmpty then some inner else none

/-- Each way to read on from the zeros is tried on the same text. The length of what is matched is the
difference of what is left before and after. -/
def readDecimals? (pattern : String) (position : Nat) : Option (Except Failure (Option Step)) := do
  let text ← textFrom? pattern position
  let (mandatory, behind) := readZeros text
  match readClosed? behind with
  | some (optional, rest) =>
      let step ← readDecimalsStep? mandatory optional text rest
      return .ok (some step)
  | none =>
      if (readUnterminated? behind <|> readBareBracket? behind).isSome then
        let further ← (byteLength text).psub (byteLength behind)
        return .error (.malformed ⟨pattern, position + further, .openDecimals⟩)
      else if mandatory = 0 then return .ok none
      else
        let step ← readDecimalsStep? mandatory 0 text behind
        return .ok (some step)

/-- What a token that may be claimed reads at a position in bytes. The tokens at the end read no text. -/
def readOffer? (token : Token) (tally : Tally) (pattern : String) (position : Nat) :
    Option (Except Failure (Option Step)) :=
  match token with
  | abbreviation => (readAbbreviation? pattern position).map fun step => .ok (some step)
  | grouping => (readGrouping? pattern position).map fun step => .ok (some step)
  | clock => (readClock? pattern position).map .ok
  | point => (textFrom? pattern position).map fun text => claimPoint ⟨pattern, position, text⟩
  | decimals => readDecimals? pattern position
  | token => some (token.offer tally ⟨pattern, position, []⟩)

def read? (token : Token) (id : ClaimantId) (tally : Tally) (pattern : String) (position : Nat) :
    Option (Except Failure (Option Step)) :=
  if token.admits id tally then token.readOffer? tally pattern position else some (.ok none)

variable {pattern : String} {before rest : List Char} {c : Char} {token : Token} {tally : Tally}

theorem readAbbreviation?_eq (split : pattern.toList = before ++ 'a' :: rest) :
    readAbbreviation? pattern (byteLength before) = some (claimAbbreviation ('a' :: rest)) := by
  have behind : textFrom? pattern (byteLength before + 1) = some rest := textFrom?_next split
  simp only [readAbbreviation?, behind, Option.bind_eq_bind, Option.bind_some]
  cases rest with
  | nil => rfl
  | cons d rest =>
    simp only [List.head?_cons, Option.bind_some, claimAbbreviation]
    cases Magnitude.ofLetter? d <;> rfl

theorem readGrouping?_eq (split : pattern.toList = before ++ ',' :: rest) :
    readGrouping? pattern (byteLength before) = some (claimGrouping (',' :: rest)) := by
  have behind : textFrom? pattern (byteLength before + 1) = some rest := textFrom?_next split
  simp only [readGrouping?, behind, Option.bind_eq_bind, Option.bind_some, claimGrouping]
  cases rest with
  | nil => rfl
  | cons d rest =>
    by_cases zero : d = '0'
    · subst zero
      rfl
    · simp [zero]

theorem readDecimalsStep?_eq (mandatory optional : Nat) {piece : List Char} {consumed : Nat}
    (size : byteLength piece = consumed + 1) (rest : List Char) :
    readDecimalsStep? mandatory optional (piece ++ rest) rest =
      some (decimalsStep mandatory optional consumed) := by
  have fewer : (consumed + 1).psub 1 = some consumed := Nat.psub_eq_some.mpr rfl
  simp only [readDecimalsStep?, psub_byteLength, size, fewer, Option.bind_eq_bind, Option.bind_some]
  rfl

theorem byteLength_closed (mandatory optional : Nat) :
    byteLength (List.replicate mandatory '0' ++ '[' :: (List.replicate optional '0' ++ [']'])) =
      mandatory + optional + 1 + 1 := by
  have bracket : '['.utf8Size = 1 ∧ ']'.utf8Size = 1 := by decide
  simp only [byteLength_append, byteLength_cons, byteLength_zeros, byteLength_nil, bracket]
  omega

section Attempts
variable {text after : List Char} {count : Nat}

theorem readChar?_self (c : Char) (rest : List Char) : readChar? c (c :: rest) = some rest := if_pos rfl

theorem readChar?_of_notAt {c : Char} (other : NotAt c text) : readChar? c text = none := by
  cases text with
  | nil => rfl
  | cons d rest => exact if_neg ((notAt_cons c d rest).mp other)

theorem readZeros_append (count : Nat) (ends : NotAt '0' after) :
    readZeros (List.replicate count '0' ++ after) = (count, after) := by
  have size : '0'.utf8Size = 1 := by decide
  induction count with
  | zero =>
    cases after with
    | nil => rfl
    | cons d after => simp only [notAt_cons] at ends; simp [readZeros, ends]
  | succ count ih =>
    simp only [readZeros, Prod.mk.injEq] at ih ⊢
    rw [List.replicate_succ, List.cons_append, List.takeWhile_cons_of_pos (by simp),
      List.dropWhile_cons_of_pos (by simp), byteLength_cons, ih.1, ih.2, size]
    exact ⟨Nat.add_comm 1 count, rfl⟩

theorem readZeros_eq (text : List Char) : readZeros text = (zeros text, text.drop (zeros text)) := by
  have read := readZeros_append (zeros text) (notAt_drop_zeros text)
  rwa [replicate_zeros] at read

theorem readSomeZeros?_append (positive : 0 < count) (ends : NotAt '0' after) :
    readSomeZeros? (List.replicate count '0' ++ after) = some (count, after) := by
  obtain ⟨fewer, rfl⟩ := Nat.exists_eq_succ_of_ne_zero (Nat.ne_of_gt positive)
  rw [readSomeZeros?, readZeros_append _ ends]
  rfl

theorem readSomeZeros?_of_notAt (ends : NotAt '0' text) : readSomeZeros? text = none := by
  have none : readZeros text = (0, text) := readZeros_append 0 ends
  rw [readSomeZeros?, none]
  rfl

/-- Which attempts read a text with such a tail: the first one where it is closed, one of the others where it
is open. -/
def Attempts (text : List Char) : Tail → Prop
  | .closed optional => ∃ rest, text = '[' :: (List.replicate optional '0' ++ ']' :: rest) ∧
      readClosed? text = some (optional, rest)
  | .unclosed => readClosed? text = none ∧ (readUnterminated? text <|> readBareBracket? text).isSome
  | .absent => readClosed? text = none ∧ (readUnterminated? text <|> readBareBracket? text) = none

theorem TailForm.attempts {answer : Tail} (form : TailForm text answer) : Attempts text answer := by
  cases form with
  | noBracket bare =>
    simp [Attempts, readClosed?, readUnterminated?, readBareBracket?, readChar?_of_notAt bare]
  | foreign further ends =>
    simp [Attempts, readClosed?, readUnterminated?, readBareBracket?, readChar?_self, readSomeZeros?_of_notAt ends, further]
  | @closed count after positive =>
    refine ⟨after, rfl, ?_⟩
    simp [readClosed?, readChar?_self, readSomeZeros?_append positive]
  | atEnd => exact ⟨rfl, rfl⟩
  | unclosed positive ends opened =>
    simp [Attempts, readClosed?, readUnterminated?, readChar?_self, readSomeZeros?_append positive ends,
      readChar?_of_notAt opened]

end Attempts

theorem readDecimals?_eq {text : List Char} (split : pattern.toList = before ++ text) :
    readDecimals? pattern (byteLength before) = some (claimDecimals ⟨pattern, byteLength before, text⟩) := by
  have whole := replicate_zeros text
  have attempts := (tail_form (text.drop (zeros text))).attempts
  simp only [readDecimals?, textFrom?_append split, readZeros_eq, Option.bind_eq_bind, Option.bind_some,
    claimDecimals]
  cases kind : tail (text.drop (zeros text)) with
  | closed optional =>
    rw [kind] at attempts
    obtain ⟨after, bracket, closed⟩ := attempts
    have read := readDecimalsStep?_eq (zeros text) optional (byteLength_closed (zeros text) optional) after
    -- the closed tail belongs to what is matched, so the whole text is cut behind its bracket
    have piece : List.replicate (zeros text) '0' ++ '[' :: (List.replicate optional '0' ++ [']']) ++ after =
        text := by
      rw [bracket] at whole
      simpa using whole
    rw [piece] at read
    simp only [closed, read, Option.bind_some]
    rfl
  | unclosed =>
    rw [kind] at attempts
    have further := psub_byteLength (List.replicate (zeros text) '0') (text.drop (zeros text))
    rw [whole, byteLength_zeros] at further
    simp only [attempts.1, if_pos attempts.2, further, Option.bind_some]
    rfl
  | absent =>
    rw [kind] at attempts
    simp only [attempts.1, attempts.2, Option.isSome_none, Bool.false_eq_true, if_false]
    split
    next none => rfl
    next some_ =>
      have size : byteLength (List.replicate (zeros text) '0') = zeros text - 1 + 1 := by
        rw [byteLength_zeros]
        omega
      have read := readDecimalsStep?_eq (zeros text) 0 size (text.drop (zeros text))
      rw [whole] at read
      simp only [read, Option.bind_some]
      rfl

theorem readClock?_eq {text : List Char} (split : pattern.toList = before ++ text) :
    (readClock? pattern (byteLength before)).map .ok =
      some (offer .clock tally ⟨pattern, byteLength before, text⟩) := by
  simp only [readClock?, textFrom?_append split, Option.bind_eq_bind, Option.bind_some, offer]
  split <;> rfl

theorem readOffer?_eq (split : pattern.toList = before ++ c :: rest) (calls : c ∈ token.triggers.toList)
    (tally : Tally) :
    token.readOffer? tally pattern (byteLength before) =
      some (token.offer tally ⟨pattern, byteLength before, c :: rest⟩) := by
  cases token with
  | abbreviation =>
    obtain rfl : c = 'a' := by simpa [triggers] using calls
    simp only [readOffer?, readAbbreviation?_eq split, Option.map_some, offer]
  | grouping =>
    obtain rfl : c = ',' := by simpa [triggers] using calls
    simp only [readOffer?, readGrouping?_eq split, Option.map_some, offer]
  | clock => exact readClock?_eq split
  | point => simp only [readOffer?, textFrom?_append split, Option.map_some, offer]
  | decimals => exact readDecimals?_eq split
  | _ => rfl

/-- Where a character calls the token, the token reads what it claims. -/
theorem read?_eq (split : pattern.toList = before ++ c :: rest) (calls : c ∈ token.triggers.toList)
    (id : ClaimantId) (tally : Tally) :
    token.read? id tally pattern (byteLength before) =
      some (token.claim id tally ⟨pattern, byteLength before, c :: rest⟩) := by
  rw [claim_eq, read?, readOffer?_eq split calls, apply_ite some]

end Token

namespace Lexicon
open Scan

/-- The run of unclaimed text is counted in bytes and cut out of the pattern. -/
def readUnclaimed? (lexicon : Lexicon) (pattern : String) (position : Nat) (first : Char) : Option Step :=
  match lexicon.unclaimed with
  | .echo => do
      let rest ← textFrom? pattern (position + first.utf8Size)
      let run := ((charIndices 0 rest).find? fun item => lexicon.isTrigger item.2).elim (byteLength rest) Prod.fst
      let text ← slice? pattern position (position + first.utf8Size + run)
      let (more, _) ← splitBytes? run rest
      return { action := .literal (String.ofList text), weight := Weight.literal, consumed := more.length }
  | .skip => some { action := .skip, weight := Weight.literal }

theorem readUnclaimed?_eq {pattern : String} {before rest : List Char} {c : Char}
    (split : pattern.toList = before ++ c :: rest) (lexicon : Lexicon) :
    lexicon.readUnclaimed? pattern (byteLength before) c = some (lexicon.fallbackStep c rest) := by
  unfold readUnclaimed? fallbackStep
  cases lexicon.unclaimed with
  | skip => rfl
  | echo =>
    have run := find?_charIndices lexicon.isTrigger 0 rest
    obtain ⟨others, divided⟩ : ∃ others, rest.takeWhile (fun c => !lexicon.isTrigger c) ++ others = rest :=
      ⟨_, List.takeWhile_append_dropWhile⟩
    simp only [Nat.zero_add] at run
    generalize rest.takeWhile (fun c => !lexicon.isTrigger c) = more at run divided ⊢
    have cut : splitBytes? (byteLength more) rest = some (more, others) :=
      splitBytes?_eq_some.mpr ⟨divided.symm, rfl⟩
    have whole : pattern.toList = before ++ c :: more ++ others := by
      rw [split, List.append_assoc, List.cons_append, divided]
    have piece := slice?_append whole
    rw [byteLength_cons, ← Nat.add_assoc] at piece
    simp only [textFrom?_next split, run, piece, cut, Option.bind_eq_bind, Option.bind_some]
    rfl

end Lexicon

end NumberPattern
