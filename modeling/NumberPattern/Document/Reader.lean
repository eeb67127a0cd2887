import NumberPattern.Document.Quoted
import NumberPattern.Document.Tree

/-! Reading a TOML document: the text is cut into headers and entries, which are then assembled into
one table. Keys and values nest to a limited depth. -/

namespace NumberPattern.Document

/-- Arrays and inline tables nest at most this deep, and no key has more parts. -/
def maxDepth : Nat := 79

def afterBlanks (text : List Char) : List Char := text.dropWhile isBlank

def afterComment : List Char → List Char
  | '#' :: rest => rest.dropWhile isPrintable
  | text => text

/-- What follows the end of a line, of which only blanks and a comment may be left. -/
def afterLine? (text : List Char) : Option (List Char) :=
  match afterComment (afterBlanks text) with
  | [] => some []
  | rest => afterNewline? rest

/-- What follows blanks, line breaks and comments. -/
def afterGap : (inComment : Bool) → List Char → List Char
  | _, '\n' :: rest => afterGap false rest
  | _, '\r' :: '\n' :: rest => afterGap false rest
  | false, '#' :: rest => afterGap true rest
  | false, c :: rest => if isBlank c then afterGap false rest else c :: rest
  | true, c :: rest => if isPrintable c then afterGap true rest else c :: rest
  | _, [] => []

def isBare (c : Char) : Bool := c.isAlphanum || c = '-' || c = '_'

def keyPart? (text : List Char) : Reading String :=
  match text with
  | '"' :: _ | '\'' :: _ => quotedLine? text
  | _ =>
      let name := text.takeWhile isBare
      if name.isEmpty then none else some (String.ofList name, text.drop name.length)

/-- A dotted key with the blanks around it. -/
def keyPath? : (room : Nat) → List Char → Option (List String × List Char)
  | 0, _ => none
  | room + 1, text => do
      let (part, rest) ← keyPart? (afterBlanks text)
      match afterBlanks rest with
      | '.' :: rest =>
          let (path, rest) ← keyPath? room rest
          some (part :: path, rest)
      | rest => some ([part], rest)

/-- A key with more parts than the limit is refused. -/
def key? (text : List Char) : Reading (List String) := keyPath? maxDepth text

def isWordChar (c : Char) : Bool :=
  !(isBlank c || c = '\n' || c = '\r' || c = '#' || c = ',' || c = ']' || c = '}')

/-- A date may be joined to its time of day by a blank. -/
def word? (text : List Char) : List Char × List Char :=
  let first := text.takeWhile isWordChar
  match afterDate? first, text.drop first.length with
  | some [], ' ' :: c :: rest =>
      if c.isDigit then
        let second := (c :: rest).takeWhile isWordChar
        (first ++ ' ' :: second, (c :: rest).drop second.length)
      else (first, ' ' :: c :: rest)
  | _, rest => (first, rest)

def inlineTable (entries : List (List String × Value)) : Option Value :=
  (entries.foldlM (fun fields entry => Fields.add entry.2 true entry.1 fields) []).map fun fields =>
    .table (closeFields fields)

mutual

def value? : (room depth : Nat) → List Char → Option (Value × List Char)
  | 0, _, _ => none
  | _, 0, '[' :: _ => none
  | _, 0, '\x7b' :: _ => none
  | room + 1, depth + 1, '[' :: rest =>
      match afterGap false rest with
      | ']' :: rest => some (.list [], rest)
      | rest => (items? room depth rest).map fun (items, rest) => (.list items, rest)
  | room + 1, depth + 1, '\x7b' :: rest =>
      match afterBlanks rest with
      | '\x7d' :: rest => some (.table [], rest)
      | rest => do
          let (entries, rest) ← entries? room depth rest
          let table ← inlineTable entries
          some (table, rest)
  | _, _, '"' :: rest => (quoted? ('"' :: rest)).map fun (text, rest) => (.text text, rest)
  | _, _, '\'' :: rest => (quoted? ('\'' :: rest)).map fun (text, rest) => (.text text, rest)
  | _, _, text =>
      let (word, rest) := word? text
      (scalar? word).map fun value => (value, rest)

/-- The items of an array up to its closing bracket; a comma may stand before the bracket. -/
def items? : (room depth : Nat) → List Char → Option (List Value × List Char)
  | 0, _, _ => none
  | room + 1, depth, text => do
      let (item, rest) ← value? room depth text
      match afterGap false rest with
      | ']' :: rest => some ([item], rest)
      | ',' :: rest =>
          match afterGap false rest with
          | ']' :: rest => some ([item], rest)
          | rest => do
              let (items, rest) ← items? room depth rest
              some (item :: items, rest)
      | _ => none

/-- The entries of an inline table up to its closing brace. -/
def entries? : (room depth : Nat) → List Char →
    Option (List (List String × Value) × List Char)
  | 0, _, _ => none
  | room + 1, depth, text => do
      let (entry, rest) ← assignment? room depth text
      match afterBlanks rest with
      | '\x7d' :: rest => some ([entry], rest)
      | ',' :: rest => do
          let (entries, rest) ← entries? room depth rest
          some (entry :: entries, rest)
      | _ => none

def assignment? : (room depth : Nat) → List Char → Option ((List String × Value) × List Char)
  | 0, _, _ => none
  | room + 1, depth, text => do
      let (path, rest) ← key? text
      let '=' :: rest := rest | none
      let (value, rest) ← value? room depth (afterBlanks rest)
      some ((path, value), rest)

end

inductive Statement where
  | header (isItem : Bool) (path : List String)
  | entry (path : List String) (value : Value)

def header? : List Char → Reading Statement
  | '[' :: '[' :: rest =>
      match key? rest with
      | some (path, ']' :: ']' :: rest) => some (.header true path, rest)
      | _ => none
  | '[' :: rest =>
      match key? rest with
      | some (path, ']' :: rest) => some (.header false path, rest)
      | _ => none
  | _ => none

/-- Reading a value takes at most three steps for each character. -/
def statement? (text : List Char) : Reading Statement :=
  match text with
  | '[' :: _ => header? text
  | _ => (assignment? (3 * text.length + 3) maxDepth text).map fun ((path, value), rest) =>
      (.entry path value, rest)

def statements? : (room : Nat) → List Char → Option (List Statement)
  | 0, _ => none
  | room + 1, text =>
      match afterBlanks text with
      | [] => some []
      | '#' :: rest => do statements? room (← afterLine? ('#' :: rest))
      | '\n' :: rest => statements? room rest
      | '\r' :: rest => do statements? room (← afterNewline? ('\r' :: rest))
      | rest => do
          let (statement, rest) ← statement? rest
          let statements ← statements? room (← afterLine? rest)
          some (statement :: statements)

/-- The fields so far and the path of the header that is in force. -/
structure Draft where
  fields : Fields := []
  path : List String := []

def Draft.add (draft : Draft) : Statement → Option Draft
  | .header isItem path =>
      match path.getLast? with
      | some key =>
          let edit := if isItem then Fields.openItem key else Fields.openTable key
          (Fields.change edit path.dropLast draft.fields).map fun fields => ⟨fields, path⟩
      | none => none
  | .entry path value =>
      (Fields.change (Fields.add value true path) draft.path draft.fields).map fun fields =>
        { draft with fields := fields }

def assemble (statements : List Statement) : Option (List (String × Value)) :=
  (statements.foldlM Draft.add {}).map fun draft => closeFields draft.fields

/-- The fields of the document in the order of the text, or nothing when the text is not a document. A
byte order mark in front is left out. -/
def read (text : String) : Option (List (String × Value)) :=
  let chars := match text.toList with
    | '\ufeff' :: rest => rest
    | chars => chars
  (statements? (chars.length + 1) chars).bind assemble

end NumberPattern.Document
