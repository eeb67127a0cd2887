import Mathlib
import NumberPattern.Proofs.Locale.Book
import NumberPattern.Proofs.Locale.Schema

/-! A document of locales: the entry of the base is laid under every other one, wherever it stands, and one
entry at fault fails the document. The standard locales are such a document. -/

namespace NumberPattern.LocaleBook
open Document (Value)

/-- The locale under all entries: the English one, under the entry of the base if there is one. -/
def IsBase (fields : List (String × Value)) (base : Locale) : Prop :=
  match fields.lookup baseKey with
  | some value => Locale.english.overlay value = .ok base
  | none => base = Locale.english

/-- The base, as far as its entry is a locale. -/
def baseOf (fields : List (String × Value)) : Locale :=
  ((fields.lookup baseKey).map Locale.english.laidOver).getD Locale.english

def baseFaults (fields : List (String × Value)) : List LocaleFault :=
  ((fields.lookup baseKey).map Locale.faults).getD []

def entryFaults (field : String × Value) : List LocaleFault :=
  if field.1 = baseKey then [] else (Locale.faults field.2).map (.inEntry field.1)

/-- The locales that the entries stand for, each under its key as it is written. -/
def loads (base : Locale) (fields : List (String × Value)) : List (String × Locale) :=
  (fields.filter fun field => field.1 ≠ baseKey).map fun field => (field.1, base.laidOver field.2)

variable {document? : String → Option Value} {text : String} {fields : List (String × Value)} {base : Locale}
  {book : LocaleBook} {fault : LocaleFault}

theorem decodeBase_eq (fields : List (String × Value)) :
    decodeBase fields = firstFault (baseFaults fields) (baseOf fields) := by
  have read : decodeBase fields =
      Locale.readOr Locale.english.overlay Locale.english (fields.lookup baseKey) := by
    unfold decodeBase
    cases fields.lookup baseKey <;> rfl
  rw [read, Locale.readOr_eq Locale.english.overlay_eq]
  rfl

theorem addEntry_eq (base : Locale) (book : LocaleBook) (field : String × Value) :
    addEntry base book field = firstFault (entryFaults field) (book.insertAll (loads base [field])) := by
  unfold addEntry entryFaults loads
  by_cases isBase : field.1 = baseKey
  · simp [isBase, firstFault, insertAll]
  · rw [if_neg isBase, if_neg isBase, base.overlay_eq]
    cases Locale.faults field.2 with
    | nil => simp [isBase, firstFault, insertAll]
    | cons fault faults => rfl

theorem addEntries_eq (base : Locale) (book : LocaleBook) (fields : List (String × Value)) :
    fields.foldlM (addEntry base) book =
      firstFault (fields.flatMap entryFaults) (book.insertAll (loads base fields)) := by
  induction fields generalizing book with
  | nil => rfl
  | cons field fields ih =>
    have first : loads base (field :: fields) = loads base [field] ++ loads base fields := by
      rw [loads, loads, loads, ← List.map_append, ← List.filter_append, List.singleton_append]
    rw [List.foldlM_cons, List.flatMap_cons, first, insertAll_append, addEntry_eq]
    exact firstFault_bind (ih _)

/-- All faults of a document, those of the base first, and what it stands for if it has none. -/
theorem decode_eq (fields : List (String × Value)) : decode fields =
    firstFault (baseFaults fields ++ fields.flatMap entryFaults) (ofList (loads (baseOf fields) fields)) := by
  rw [decode, decodeBase_eq]
  exact firstFault_bind (addEntries_eq (baseOf fields) {} fields)

theorem readBy_eq (parsed : document? text = some (.table fields)) : readBy document? text = decode fields := by
  rw [readBy, parsed]

theorem baseFaults_eq_nil_iff :
    baseFaults fields = [] ↔ ∀ value, fields.lookup baseKey = some value → Locale.Acceptable value := by
  unfold baseFaults
  cases fields.lookup baseKey <;> simp [Locale.faults_eq_nil_iff]

theorem entryFaults_eq_nil_iff {field : String × Value} :
    entryFaults field = [] ↔ field.1 ≠ baseKey → Locale.Acceptable field.2 := by
  unfold entryFaults
  split
  next isBase => simp [isBase]
  next other => simp [other, Locale.faults_eq_nil_iff]

theorem isBase_iff : IsBase fields base ↔ baseFaults fields = [] ∧ baseOf fields = base := by
  unfold IsBase baseFaults baseOf
  cases fields.lookup baseKey with
  | none => simp [eq_comm]
  | some value => simp [Locale.overlay_eq_ok_iff, Locale.faults_eq_nil_iff]

/-- The entry of the base is judged with all others. -/
theorem faults_eq_nil_iff (ascending : Document.Ascending fields) :
    baseFaults fields ++ fields.flatMap entryFaults = [] ↔
      ∀ field ∈ fields, Locale.Acceptable field.2 := by
  rw [List.append_eq_nil_iff, List.flatMap_eq_nil_iff, baseFaults_eq_nil_iff]
  simp only [entryFaults_eq_nil_iff, ascending.lookup_eq_some_iff]
  constructor
  · rintro ⟨ofBase, others⟩ ⟨key, value⟩ member
    by_cases isBase : key = baseKey
    · exact ofBase value (isBase ▸ member)
    · exact others (key, value) member isBase
  · intro all
    exact ⟨fun value member => all _ member, fun field member _ => all field member⟩

/-- What a document is refused for. -/
inductive Blamed (fields : List (String × Value)) : LocaleFault → Prop
  | ofBase {value : Value} {fault : LocaleFault} (found : fields.lookup baseKey = some value)
      (refused : Locale.english.overlay value = .error fault) : Blamed fields fault
  /-- The base is a locale, and so are all entries before this one. -/
  | ofEntry {base : Locale} {before after : List (String × Value)} {field : String × Value}
      {fault : LocaleFault} (isBase : IsBase fields base) (split : fields = before ++ field :: after)
      (entry : field.1 ≠ baseKey)
      (sound : ∀ other ∈ before, other.1 ≠ baseKey → Locale.Acceptable other.2)
      (refused : base.overlay field.2 = .error fault) : Blamed fields (.inEntry field.1 fault)

theorem head?_entryFaults_eq_some_iff (base : Locale) {field : String × Value} :
    (entryFaults field).head? = some fault ↔ field.1 ≠ baseKey ∧
      ∃ inner, base.overlay field.2 = .error inner ∧ .inEntry field.1 inner = fault := by
  unfold entryFaults
  split
  next isBase => simp [isBase]
  next entry => simp [entry, Locale.overlay_eq_error_iff]

/-- The first fault of the base is reported before all others. -/
theorem blamed_iff : Blamed fields fault ↔
    (baseFaults fields ++ fields.flatMap entryFaults).head? = some fault := by
  rw [List.head?_append, List.head?_flatMap, Option.or_eq_some_iff, List.findSome?_eq_some_iff,
    List.head?_eq_none_iff]
  constructor
  · intro blamed
    cases blamed with
    | ofBase found refused =>
      left
      rw [baseFaults, found, Option.map_some, Option.getD_some]
      exact Locale.overlay_eq_error_iff.mp refused
    | @ofEntry base before after field inner isBase split entry sound refused =>
      refine Or.inr ⟨(isBase_iff.mp isBase).1, before, field, after, split,
        (head?_entryFaults_eq_some_iff base).mpr ⟨entry, inner, refused, rfl⟩, fun other member => ?_⟩
      rw [List.head?_eq_none_iff, entryFaults_eq_nil_iff]
      exact sound other member
  · rintro (ofBase | ⟨sound, before, field, after, split, found, earlier⟩)
    · unfold baseFaults at ofBase
      cases found : fields.lookup baseKey with
      | none => simp [found] at ofBase
      | some value =>
        rw [found] at ofBase
        exact .ofBase found (Locale.overlay_eq_error_iff.mpr ofBase)
    · obtain ⟨entry, inner, refused, rfl⟩ := (head?_entryFaults_eq_some_iff (baseOf fields)).mp found
      refine .ofEntry (isBase_iff.mpr ⟨sound, rfl⟩) split entry (fun other member => ?_) refused
      rw [← entryFaults_eq_nil_iff, ← List.head?_eq_none_iff]
      exact earlier other member

theorem decode_eq_ok_iff : decode fields = .ok book ↔
    baseFaults fields ++ fields.flatMap entryFaults = [] ∧ ofList (loads (baseOf fields) fields) = book := by
  rw [decode_eq, firstFault_eq_ok_iff]

theorem exists_mem_loads_iff {key : String} : (∃ load ∈ loads base fields, Text.lowerCase load.1 = key) ↔
    ∃ field ∈ fields, field.1 ≠ baseKey ∧ Text.lowerCase field.1 = key := by
  simp [loads, and_assoc]

/-- Among entries with one key up to letter case, the last one is loaded last. -/
theorem lastLoaded_loads {before after : List (String × Value)} {field : String × Value} {key : String}
    (split : fields = before ++ field :: after) (entry : field.1 ≠ baseKey)
    (same : Text.lowerCase key = Text.lowerCase field.1)
    (last : ∀ other ∈ after, other.1 ≠ baseKey → Text.lowerCase other.1 ≠ Text.lowerCase field.1) :
    lastLoaded (loads base fields) key = some (base.laidOver field.2) := by
  have own : loads base fields = loads base before ++ (field.1, base.laidOver field.2) :: loads base after := by
    simp [loads, split, entry]
  rw [own]
  refine lastLoaded_eq_some same fun later member => ?_
  obtain ⟨other, kept, rfl⟩ := List.mem_map.mp member
  obtain ⟨member, entry⟩ := List.mem_filter.mp kept
  exact last other member (of_decide_eq_true entry)

/-- How a document with these fields is read. -/
structure ReadsTables (document? : String → Option Value) (text : String) (fields : List (String × Value)) :
    Prop where
  ordered : fields.Pairwise fun field other => Text.bytes field.1 < Text.bytes other.1
  /-- Over whatever locale an entry is laid, it is a locale or it is none. -/
  acceptable : ∀ field ∈ fields, ∀ base : Locale,
    (∃ locale, base.overlay field.2 = .ok locale) ↔ Locale.Acceptable field.2
  accepted : (∃ book, readBy document? text = .ok book) ↔ ∀ field ∈ fields, Locale.Acceptable field.2
  keys : ∀ book, readBy document? text = .ok book →
    ∀ key, key ∈ book.keys ↔ ∃ field ∈ fields, field.1 ≠ baseKey ∧ Text.lowerCase field.1 = key
  /-- The last entry with a key stands for it, over the base. -/
  tables : ∀ book, readBy document? text = .ok book →
    ∃ base, IsBase fields base ∧ ∀ before field after, fields = before ++ field :: after → field.1 ≠ baseKey →
      (∀ other ∈ after, other.1 ≠ baseKey → Text.lowerCase other.1 ≠ Text.lowerCase field.1) →
      ∃ locale, base.overlay field.2 = .ok locale ∧
        ∀ key, Text.lowerCase key = Text.lowerCase field.1 → book.get key = .ok locale
  refused : ∀ fault, readBy document? text = .error fault ↔ Blamed fields fault
  named : ∀ key fault, (LocaleFault.inEntry key fault).reason = "[" ++ key ++ "] " ++ fault.reason

/-- The base lies under every entry of a document, and a document with a fault in any of them is refused
for the first, whatever reads the text as long as it puts the fields in order. -/
theorem base_under_entries (ordered : Document.OrdersFields document?)
    (parsed : document? text = some (.table fields)) : ReadsTables document? text fields := by
  have ascending := ordered text fields parsed
  have succeeds (book : LocaleBook) : readBy document? text = .ok book ↔
      (∀ field ∈ fields, Locale.Acceptable field.2) ∧ ofList (loads (baseOf fields) fields) = book := by
    rw [readBy_eq parsed, decode_eq_ok_iff, faults_eq_nil_iff ascending]
  refine ⟨ascending.bytes, fun field _ base => Locale.exists_overlay_iff, ?_, fun book found key => ?_,
    fun book found => ?_, fun fault => ?_, fun _ _ => rfl⟩
  · simp only [succeeds, exists_and_left, exists_eq', and_true]
  · obtain ⟨-, rfl⟩ := (succeeds book).mp found
    rw [(standsFor_ofList _).listed, exists_mem_loads_iff]
  · obtain ⟨sound, rfl⟩ := (succeeds book).mp found
    have isBase : IsBase fields (baseOf fields) :=
      isBase_iff.mpr ⟨(List.append_eq_nil_iff.mp ((faults_eq_nil_iff ascending).mpr sound)).1, rfl⟩
    refine ⟨baseOf fields, isBase, fun before field after split entry last => ?_⟩
    have member : field ∈ fields := split ▸ List.mem_append_right before List.mem_cons_self
    refine ⟨_, Locale.overlay_eq_ok_iff.mpr ⟨sound field member, rfl⟩, fun key same => ?_⟩
    rw [get_eq_ok_iff, (standsFor_ofList _).keeps, lastLoaded_loads split entry same last]
  · rw [readBy_eq parsed, decode_eq, firstFault_eq_error_iff, blamed_iff]

/-- The last of two entries with one key stands for it, and the base is laid under it although it comes
between them. -/
theorem base_under_entries_collision :
    Document.OrdersFields Document.value ∧ Document.value "[ZZ]\n[base]\ngroup=' '\n[zz]\ndecimal=','" =
        some (.table [("ZZ", .table []), ("base", .table [("group", .text " ")]),
          ("zz", .table [("decimal", .text ",")])]) ∧
      ReadsTables Document.value "[ZZ]\n[base]\ngroup=' '\n[zz]\ndecimal=','" [("ZZ", .table []),
        ("base", .table [("group", .text " ")]), ("zz", .table [("decimal", .text ",")])] := by
  have parsed : Document.value "[ZZ]\n[base]\ngroup=' '\n[zz]\ndecimal=','" =
      some (.table [("ZZ", .table []), ("base", .table [("group", .text " ")]),
        ("zz", .table [("decimal", .text ",")])]) := by cbv
  exact ⟨Document.ordersFields_value, parsed, base_under_entries Document.ordersFields_value parsed⟩

/-- The fault of an entry is reported with its key. -/
example : read "[base]\ngroup=' '\n[zz]\ndecimal=3" = .error (.inEntry "zz" (.notText "decimal")) := by
  cbv

end NumberPattern.LocaleBook

namespace NumberPattern.Locale
open Document (Value)

/-! The standard locales as they are written: a document with a base, in which every locale says where it
differs. -/

/-- Words for the magnitudes, as a table. -/
def wordsTable (words : MagnitudeWords) : Value :=
  .table [("billion", .text words.billion), ("million", .text words.million),
    ("thousand", .text words.thousand), ("trillion", .text words.trillion)]

/-- The fields of the document, in the order of keys. -/
def tables : List (String × Value) :=
  [("base", .table [("abbreviations", wordsTable ⟨"k", "m", "b", "t"⟩), ("currency", .text "$"),
      ("decimal", .text "."), ("group", .text ","), ("ordinal", .text "english")]),
    ("be-nl", .table [("abbreviations", wordsTable ⟨"k", " mln", " mld", " bln"⟩), ("currency", .text "€ "),
      ("decimal", .text ","), ("group", .text " "), ("ordinal", .text "belgian-dutch")]),
    ("en", .table []),
    ("es", .table [("abbreviations", wordsTable ⟨"k", "mm", "b", "t"⟩), ("decimal", .text ","),
      ("group", .text "."), ("ordinal", .text "spanish")]),
    ("fr-ca", .table [("abbreviations", wordsTable ⟨"k", "M", "G", "T"⟩), ("decimal", .text ","),
      ("group", .text " "), ("ordinal", .text "french")]),
    ("hu", .table [("abbreviations", wordsTable ⟨"E", "M", "Mrd", "T"⟩), ("currency", .text " Ft"),
      ("decimal", .text ","), ("group", .text " "), ("ordinal", .table [("suffix", .text ".")])]),
    ("ja", .table [("abbreviations", wordsTable ⟨"千", "百万", "十億", "兆"⟩), ("currency", .text "¥"),
      ("ordinal", .table [("suffix", .text ".")])]),
    ("pl", .table [("abbreviations", wordsTable ⟨"tys.", "mln", "mld", "bln"⟩), ("currency", .text "PLN"),
      ("decimal", .text ","), ("group", .text " "), ("ordinal", .table [("suffix", .text ".")])]),
    ("pt-br", .table [("abbreviations", wordsTable ⟨"mil", "milhões", "b", "t"⟩), ("currency", .text "R$"),
      ("decimal", .text ","), ("group", .text "."), ("ordinal", .table [("suffix", .text "º")])]),
    ("tr", .table [("abbreviations", wordsTable ⟨"bin", "milyon", "milyar", "trilyon"⟩), ("currency", .text "₺"),
      ("decimal", .text ","), ("group", .text "."), ("ordinal", .text "turkish")])]

theorem decode_tables : LocaleBook.decode tables = .ok standard :=
  LocaleBook.decode_eq_ok_iff.mpr ⟨by rfl, by decide +kernel⟩

/-- The standard locales are those of the document, whatever reads its text. -/
theorem readBy_tables {document? : String → Option Value} {text : String}
    (parsed : document? text = some (.table tables)) : LocaleBook.readBy document? text = .ok standard :=
  (LocaleBook.readBy_eq parsed).trans decode_tables

end NumberPattern.Locale
