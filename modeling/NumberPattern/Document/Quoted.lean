import NumberPattern.Document.Scalar

/-! Quoted texts. Double quotes allow escapes, single quotes do not; three quotes allow line breaks.
Each reader starts after the opening quotes and answers what was read and what follows it. Readers
that recur take an amount of `room` that the length of the text always covers. -/

namespace NumberPattern.Document

abbrev Reading (α : Type) := Option (α × List Char)

def Reading.add (c : Char) : Reading (List Char) → Reading (List Char) :=
  Option.map fun reading => (c :: reading.1, reading.2)

/-- A tab, or any character that is not a control character. -/
def isPrintable (c : Char) : Bool := c = '\t' || (' ' ≤ c && c ≠ '\x7f')

def isBlank (c : Char) : Bool := c = ' ' || c = '\t'

def afterNewline? : List Char → Option (List Char)
  | '\n' :: rest => some rest
  | '\r' :: '\n' :: rest => some rest
  | _ => none

def codePoint? (digits : List Char) : Option Char :=
  let code := numberIn 16 digits
  if digits.all isHexDigit ∧ code.isValidChar then some (Char.ofNat code) else none

def hexEscape? (width : Nat) (text : List Char) : Reading Char :=
  if (text.take width).length = width then
    (codePoint? (text.take width)).map fun c => (c, text.drop width)
  else none

/-- The character that an escape stands for; the text starts after the backslash. -/
def escape? : List Char → Reading Char
  | 'b' :: rest => some ('\x08', rest)
  | 't' :: rest => some ('\t', rest)
  | 'n' :: rest => some ('\n', rest)
  | 'f' :: rest => some ('\x0c', rest)
  | 'r' :: rest => some ('\r', rest)
  | '"' :: rest => some ('"', rest)
  | '\\' :: rest => some ('\\', rest)
  | 'u' :: rest => hexEscape? 4 rest
  | 'U' :: rest => hexEscape? 8 rest
  | _ => none

def basicLine : (room : Nat) → List Char → Reading (List Char)
  | 0, _ => none
  | _, [] => none
  | _, '"' :: rest => some ([], rest)
  | room + 1, '\\' :: rest =>
      match escape? rest with
      | some (c, rest) => Reading.add c (basicLine room rest)
      | none => none
  | room + 1, c :: rest => if isPrintable c then Reading.add c (basicLine room rest) else none

def literalLine (text : List Char) : Reading (List Char) :=
  let content := text.takeWhile fun c => isPrintable c && c ≠ '\''
  match text.drop content.length with
  | '\'' :: rest => some (content, rest)
  | _ => none

def afterBlankLines : List Char → List Char
  | ' ' :: rest => afterBlankLines rest
  | '\t' :: rest => afterBlankLines rest
  | '\n' :: rest => afterBlankLines rest
  | '\r' :: '\n' :: rest => afterBlankLines rest
  | text => text

/-- Blanks and line breaks after a backslash at the end of a line are left out. -/
def afterLineEnd? (text : List Char) : Option (List Char) :=
  (afterNewline? (text.dropWhile isBlank)).map afterBlankLines

/-- Up to two quotes may stand directly before the three that close a text. -/
def closing? (quote : Char) (text : List Char) : Reading (List Char) :=
  let count := (text.takeWhile (· = quote)).length
  if 3 ≤ count then
    let inner := min (count - 3) 2
    some (List.replicate inner quote, text.drop (inner + 3))
  else none

def basicLines : (room : Nat) → List Char → Reading (List Char)
  | 0, _ => none
  | room + 1, text =>
      match closing? '"' text, text with
      | some reading, _ => some reading
      | none, '\\' :: rest =>
          match afterLineEnd? rest, escape? rest with
          | some rest, _ => basicLines room rest
          | none, some (c, rest) => Reading.add c (basicLines room rest)
          | none, none => none
      | none, c :: rest =>
          match afterNewline? text with
          | some rest => Reading.add '\n' (basicLines room rest)
          | none => if isPrintable c then Reading.add c (basicLines room rest) else none
      | none, [] => none

def literalLines : (room : Nat) → List Char → Reading (List Char)
  | 0, _ => none
  | room + 1, text =>
      match closing? '\'' text, text with
      | some reading, _ => some reading
      | none, c :: rest =>
          match afterNewline? text with
          | some rest => Reading.add '\n' (literalLines room rest)
          | none => if isPrintable c then Reading.add c (literalLines room rest) else none
      | none, [] => none

/-- A line break directly after the opening quotes does not count. -/
def contentStart (text : List Char) : List Char := (afterNewline? text).getD text

/-- A quoted text of one line. -/
def quotedLine? : List Char → Reading String
  | '"' :: rest => (basicLine (rest.length + 1) rest).map fun (text, rest) => (String.ofList text, rest)
  | '\'' :: rest => (literalLine rest).map fun (text, rest) => (String.ofList text, rest)
  | _ => none

def quoted? : List Char → Reading String
  | '"' :: '"' :: '"' :: rest =>
      (basicLines (rest.length + 1) (contentStart rest)).map fun (text, rest) =>
        (String.ofList text, rest)
  | '\'' :: '\'' :: '\'' :: rest =>
      (literalLines (rest.length + 1) (contentStart rest)).map fun (text, rest) =>
        (String.ofList text, rest)
  | text => quotedLine? text

end NumberPattern.Document
