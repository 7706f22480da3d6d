import DiagramWeave.Proofs.Json.Numbers
import Mathlib.Data.List.Forall2

/-!
# JSON loses nothing

What is written is in ASCII, and the reader finds in it the value that was written: texts with all their characters, lists
and mappings in their order. Only a float is read as whatever its decimal says.
-/
namespace DiagramWeave

/-- Nothing but what JSON has a form of its own for: no float, and nothing but texts as names. -/
inductive Value.Plain : Value → Prop where
  | null : Plain .null
  | flag (value : Bool) : Plain (.flag value)
  | int (number : Int) : Plain (.int number)
  | text (content : String) : Plain (.text content)
  | list {items : List Value} (each : ∀ item ∈ items, Plain item) : Plain (.list items)
  | mapping {entries : List (Value × Value)} (named : ∀ entry ∈ entries, ∃ name, entry.1 = .text name)
      (each : ∀ entry ∈ entries, Plain entry.2) : Plain (.mapping entries)

namespace Json

variable {text rest read : List Char} {steps : Nat} {strict : Bool}

/-! ### Characters that are written -/

def IsAscii (text : List Char) : Prop :=
  ∀ c ∈ text, c.toNat < 0x80

instance (text : List Char) : Decidable (IsAscii text) :=
  decidable_of_iff (text.all fun c => c.toNat < 0x80) (by simp [IsAscii])

theorem isAscii_nil : IsAscii [] :=
  List.forall_mem_nil _

theorem isAscii_append {front behind : List Char} (front_isAscii : IsAscii front) (behind_isAscii : IsAscii behind) :
    IsAscii (front ++ behind) := by
  intro c member
  rcases List.mem_append.1 member with member | member
  · exact front_isAscii c member
  · exact behind_isAscii c member

theorem isAscii_cons {c : Char} (small : c.toNat < 0x80) (text_isAscii : IsAscii text) : IsAscii (c :: text) :=
  List.forall_mem_cons.2 ⟨small, text_isAscii⟩

theorem isAscii_unitEscape (unit : Nat) : IsAscii (unitEscape unit) := by
  have digit (value : Nat) : (unitDigit (value % 16)).toNat < 0x80 := by
    have every : ∀ value < 16, (unitDigit value).toNat < 0x80 := by decide
    exact every _ (Nat.mod_lt _ (by decide))
  exact isAscii_cons (by decide) <| isAscii_cons (by decide) <| isAscii_cons (digit _) <| isAscii_cons (digit _) <|
    isAscii_cons (digit _) <| isAscii_cons (digit _) isAscii_nil

theorem toNat_of_isNumberCharacter {c : Char} (number : isNumberCharacter c = true) : c.toNat < 0x80 := by
  simp only [isNumberCharacter, isDecimalDigit, Bool.or_eq_true, Bool.and_eq_true, decide_eq_true_eq, beq_iff_eq,
    Char.le_def, UInt32.le_iff_toNat_le] at number
  rcases number with ((((⟨_, small⟩ | rfl) | rfl) | rfl) | rfl) | rfl
  · exact Nat.lt_of_le_of_lt small (by decide)
  all_goals decide

theorem isAscii_signText (negative : Bool) (text : List Char) (text_isAscii : IsAscii text) :
    IsAscii (signText negative ++ text) :=
  isAscii_append (fun c member => toNat_of_isNumberCharacter (isNumberCharacter_signText negative c member)) text_isAscii

theorem isAscii_int (number : Int) : IsAscii (toString number).toList := by
  rw [toList_toString_int]
  exact isAscii_signText _ _ fun c member => toNat_of_isNumberCharacter <|
    isNumberCharacter_of_digit (isDigits_toDigits _ c member)

theorem isAscii_float (x : Float) : IsAscii (Decimal.render floatNames x).toList := by
  cases number : x.isNaN with
  | true =>
    rw [Decimal.render, number, if_pos rfl]
    decide
  | false =>
    cases bounded : x.isInf with
    | true =>
      rw [Decimal.render, number, if_neg Bool.false_ne_true, bounded]
      change IsAscii ((if Decimal.isNegative x then "-" else "") ++ floatNames.infinity).toList
      cases Decimal.isNegative x <;> decide
    | false =>
      obtain ⟨negative, _, ⟨spelling, _, rfl⟩, same⟩ := exists_render_eq floatNames number bounded
      rw [same]
      exact isAscii_signText negative _ fun c member =>
        toNat_of_isNumberCharacter (spelling.isNumberCharacter_text c member)

/-! ### Texts in quotes -/

theorem hexValue?_unitDigit {value : Nat} (small : value < 16) : hexValue? (unitDigit value) = some value := by
  have every : ∀ value < 16, hexValue? (unitDigit value) = some value := by decide
  exact every value small

theorem unit?_digits {unit : Nat} (small : unit < 0x10000) (rest : List Char) :
    unit? (unitDigit (unit / 4096 % 16) :: unitDigit (unit / 256 % 16) :: unitDigit (unit / 16 % 16) ::
      unitDigit (unit % 16) :: rest) = some (unit, rest) := by
  have sum : 4096 * (unit / 4096 % 16) + 256 * (unit / 256 % 16) + 16 * (unit / 16 % 16) + unit % 16 = unit := by omega
  simp [unit?, hexValue?_unitDigit (Nat.mod_lt _ (by decide : 0 < 16)), sum]

theorem toNat_valid (c : Char) : c.toNat < 0xd800 ∨ 0xe000 ≤ c.toNat ∧ c.toNat < 0x110000 := by
  have valid := c.valid
  simp only [UInt32.isValidChar, Nat.isValidChar] at valid
  rw [Char.toNat]
  omega

/-- A character of the first plane is no half of a pair. -/
theorem escaped?_unit {c : Char} (small : c.toNat < 0x10000) (rest : List Char) :
    escaped? ((unitEscape c.toNat).tail ++ rest) = some (c, rest) := by
  have whole := toNat_valid c
  have first : ¬ (0xd800 ≤ c.toNat ∧ c.toNat < 0xdc00) := by omega
  have second : ¬ (0xdc00 ≤ c.toNat ∧ c.toNat < 0xe000) := by omega
  simp only [unitEscape, List.tail_cons, List.cons_append, List.nil_append, escaped?, unit?_digits small,
    Option.bind_eq_bind, Option.bind_some, if_neg first, if_neg second, Char.ofNat_toNat]

/-- The others are put together from the two halves of a pair. -/
theorem escaped?_pair {c : Char} (large : 0x10000 ≤ c.toNat) (rest : List Char) :
    escaped? ((unitEscape (0xd800 + (c.toNat - 0x10000) / 1024)).tail ++
      (unitEscape (0xdc00 + (c.toNat - 0x10000) % 1024) ++ rest)) = some (c, rest) := by
  have whole := toNat_valid c
  obtain ⟨high, highSame⟩ : ∃ high, high = 0xd800 + (c.toNat - 0x10000) / 1024 := ⟨_, rfl⟩
  obtain ⟨low, lowSame⟩ : ∃ low, low = 0xdc00 + (c.toNat - 0x10000) % 1024 := ⟨_, rfl⟩
  rw [← highSame, ← lowSame]
  have first : 0xd800 ≤ high ∧ high < 0xdc00 := by omega
  have second : 0xdc00 ≤ low ∧ low < 0xe000 := by omega
  have sum : 0x10000 + 1024 * (high - 0xd800) + (low - 0xdc00) = c.toNat := by omega
  simp only [unitEscape, List.tail_cons, List.cons_append, List.nil_append, escaped?,
    unit?_digits (by omega : high < 0x10000), unit?_digits (by omega : low < 0x10000), Option.bind_eq_bind,
    Option.bind_some, if_pos first, if_pos second, sum, Char.ofNat_toNat]

/-- The characters that have an escape of one letter. -/
def shortEscapes : List Char := ['"', '\\', '\n', '\r', '\t', '\x08', '\x0c']

/-- A character is written as an escape or as itself. -/
theorem character_cases (c : Char) :
    (∃ escape, character c = '\\' :: escape ∧ IsAscii escape ∧
      ∀ rest, escaped? (escape ++ rest) = some (c, rest)) ∨
      character c = [c] ∧ c ∉ shortEscapes ∧ 0x20 ≤ c.toNat ∧ c.toNat ≤ 0x7e := by
  by_cases short : c ∈ shortEscapes
  · left
    simp only [shortEscapes, List.mem_cons, List.not_mem_nil, or_false] at short
    rcases short with rfl | rfl | rfl | rfl | rfl | rfl | rfl
    all_goals exact ⟨_, rfl, by decide, fun _ => rfl⟩
  · have others := short
    simp only [shortEscapes, List.mem_cons, List.not_mem_nil, or_false, not_or] at others
    obtain ⟨quote, slash, newline, back, tab, erase, page⟩ := others
    rw [character, if_neg quote, if_neg slash, if_neg newline, if_neg back, if_neg tab, if_neg erase, if_neg page]
    split
    next visible =>
      rw [Bool.and_eq_true, decide_eq_true_eq, decide_eq_true_eq] at visible
      exact .inr ⟨rfl, short, visible⟩
    split
    next small =>
      exact .inl ⟨(unitEscape c.toNat).tail, rfl, fun d member => isAscii_unitEscape _ d (List.mem_of_mem_tail member),
        escaped?_unit small⟩
    next large =>
      refine .inl ⟨(unitEscape (0xd800 + (c.toNat - 0x10000) / 1024)).tail ++
        unitEscape (0xdc00 + (c.toNat - 0x10000) % 1024), rfl, ?_, fun rest => ?_⟩
      · exact isAscii_append (fun d member => isAscii_unitEscape _ d (List.mem_of_mem_tail member))
          (isAscii_unitEscape _)
      · rw [List.append_assoc]
        exact escaped?_pair (by omega) rest

theorem isAscii_character (c : Char) : IsAscii (character c) := by
  obtain ⟨escape, same, ascii, _⟩ | ⟨same, _, _, small⟩ := character_cases c
  · rw [same]
    exact isAscii_cons (by decide) ascii
  · rw [same]
    exact isAscii_cons (by omega) isAscii_nil

theorem isAscii_quoted (text : List Char) : IsAscii (quoted text) := by
  refine isAscii_append (isAscii_cons (by decide) fun c member => ?_) (by decide)
  obtain ⟨d, _, written⟩ := List.mem_flatMap.1 member
  exact isAscii_character d c written

theorem string?_character (c : Char) (rest : List Char) :
    string? read (steps + 1) (character c ++ rest) = string? (c :: read) steps rest := by
  obtain ⟨escape, same, _, reads⟩ | ⟨same, other, visible, _⟩ := character_cases c
  · rw [same, List.cons_append, string?, reads]
  · have quote : c ≠ '"' := fun quote => other (by simp [shortEscapes, quote])
    have slash : c ≠ '\\' := fun slash => other (by simp [shortEscapes, slash])
    rw [same, List.singleton_append, string?, if_neg (by omega)]
    · exact quote
    · exact slash

theorem string?_quoted (text : List Char) (rest : List Char) (enough : text.length < steps) :
    string? read steps (text.flatMap character ++ '"' :: rest) = some (read.reverse ++ text, rest) := by
  induction text generalizing read steps with
  | nil =>
    obtain ⟨steps, rfl⟩ := Nat.exists_eq_add_of_lt enough
    simp [string?]
  | cons c text ih =>
    -- A character takes one step, however many are written for it.
    obtain ⟨steps, rfl⟩ : ∃ fewer, steps = fewer + 1 := ⟨steps - 1, by omega⟩
    rw [List.flatMap_cons, List.append_assoc, string?_character, ih (by simpa using enough)]
    simp

theorem length_le_flatMap_character (text : List Char) : text.length ≤ (text.flatMap character).length := by
  induction text with
  | nil => exact Nat.zero_le _
  | cons c text ih =>
    have filled : 0 < (character c).length := by
      obtain ⟨escape, same, _⟩ | ⟨same, _⟩ := character_cases c <;> simp [same]
    rw [List.flatMap_cons, List.length_append, List.length_cons]
    omega

theorem string?_of_quoted (text rest : List Char) :
    ∃ behind, quoted text ++ rest = '"' :: behind ∧ string? [] (behind.length + 1) behind = some (text, rest) := by
  refine ⟨text.flatMap character ++ '"' :: rest, by simp [quoted], string?_quoted text rest ?_⟩
  have length := length_le_flatMap_character text
  rw [List.length_append]
  omega

example : string? [] 3 "a\\ud83d\\ude00\", 1".toList = some ("a😀".toList, ", 1".toList) := by decide

/-! ### Values -/

theorem value?_blank (steps : Nat) (text : List Char) :
    value? strict steps (' ' :: text) = value? strict steps text := by
  cases steps <;> rfl

/-- The characters that begin or end something other than a word or a number. -/
def marks : List Char := [' ', '\t', '\n', '\r', '"', '[', '\x7b', ']']

theorem wordOrNumber?_mark {c : Char} (mark : c ∈ marks) (tail : List Char) :
    wordOrNumber? strict (c :: tail) = none := by
  simp only [marks, List.mem_cons, List.not_mem_nil, or_false] at mark
  rcases mark with rfl | rfl | rfl | rfl | rfl | rfl | rfl | rfl
  all_goals cases strict <;> rfl

theorem front_of_wordOrNumber? {result : Value × List Char} (found : wordOrNumber? strict text = some result) :
    ∃ c tail, text = c :: tail ∧ c ∉ marks := by
  cases text with
  | nil => cases strict <;> cases found
  | cons c tail =>
    refine ⟨c, tail, rfl, fun mark => ?_⟩
    rw [wordOrNumber?_mark mark] at found
    cases found

theorem isSpace_of_not_mark {c : Char} (other : c ∉ marks) : isSpace c = false := by
  simp only [marks, List.mem_cons, List.not_mem_nil, or_false, not_or] at other
  obtain ⟨blank, tab, newline, back, _⟩ := other
  simp [isSpace, blank, tab, newline, back]

theorem value?_of_wordOrNumber? {result : Value × List Char} (found : wordOrNumber? strict text = some result) :
    value? strict (steps + 1) text = some result := by
  obtain ⟨c, tail, rfl, other⟩ := front_of_wordOrNumber? found
  rw [value?, List.dropWhile_cons_of_neg (by simp [isSpace_of_not_mark other])]
  simp only [marks, List.mem_cons, List.not_mem_nil, or_false, not_or] at other
  obtain ⟨_, _, _, _, quote, list, mapping, _⟩ := other
  -- No other value begins like this, so the last case is the one that is read.
  split
  next same => exact absurd (List.cons.inj same).1 quote
  next same => exact absurd (List.cons.inj same).1 list
  next same => exact absurd (List.cons.inj same).1 mapping
  next => exact found

/-- The reader finds a value in the text of another, with enough steps, and nothing behind it that goes on with a
    number. -/
def Reads (strict : Bool) (value found : Value) : Prop :=
  ∀ steps rest, (write value).length < steps → Ends isNumberCharacter rest →
    value? strict steps (write value ++ rest) = some (found, rest)

theorem reads_of_wordOrNumber? {value found : Value}
    (reads : ∀ rest, Ends isNumberCharacter rest → wordOrNumber? strict (write value ++ rest) = some (found, rest)) :
    Reads strict value found := by
  intro steps rest enough ends
  obtain ⟨steps, rfl⟩ : ∃ fewer, steps = fewer + 1 := ⟨steps - 1, by omega⟩
  exact value?_of_wordOrNumber? (reads rest ends)

theorem reads_null : Reads strict .null .null :=
  reads_of_wordOrNumber? fun _ _ => by cases strict <;> rfl

theorem reads_flag (value : Bool) : Reads strict (.flag value) (.flag value) :=
  reads_of_wordOrNumber? fun _ _ => by cases strict <;> cases value <;> rfl

theorem reads_int (number : Int) : Reads strict (.int number) (.int number) :=
  reads_of_wordOrNumber? fun _ ends => by
    rw [write]
    exact wordOrNumber?_int _ number ends

theorem exists_reads_float (x : Float) : ∃ y,
    (x.isNaN = false → x.isInf = false → number? (write (.float x)) = some (.float y)) ∧
      ∀ {strict}, (strict = true → x.isNaN = false ∧ x.isInf = false) → Reads strict (.float x) (.float y) := by
  obtain ⟨y, number, reads⟩ := exists_wordOrNumber?_render x
  refine ⟨y, ?_, fun plain => reads_of_wordOrNumber? fun _ ends => ?_⟩
  · rw [write]
    exact number
  · rw [write]
    exact reads plain ends

theorem reads_text (content : String) : Reads strict (.text content) (.text content) := by
  intro steps rest enough _
  obtain ⟨steps, rfl⟩ : ∃ fewer, steps = fewer + 1 := ⟨steps - 1, by omega⟩
  obtain ⟨behind, same, reads⟩ := string?_of_quoted content.toList rest
  rw [write, same, value?, List.dropWhile_cons_of_neg (by decide)]
  simp only [reads, Option.map_some, String.ofList_toList]

/-- No value begins with a blank or with the end of a list. -/
theorem exists_write_eq_cons (value : Value) : ∃ c tail, write value = c :: tail ∧ isSpace c = false ∧ c ≠ ']' := by
  have scalar {found : Value} (reads : wordOrNumber? false (write value ++ []) = some (found, [])) :
      ∃ c tail, write value = c :: tail ∧ isSpace c = false ∧ c ≠ ']' := by
    rw [List.append_nil] at reads
    obtain ⟨c, tail, same, other⟩ := front_of_wordOrNumber? reads
    exact ⟨c, tail, same, isSpace_of_not_mark other, fun close => other (by simp [marks, close])⟩
  cases value with
  | int number =>
    rw [write] at scalar ⊢
    exact scalar (wordOrNumber?_int _ number nofun)
  | float x =>
    obtain ⟨y, _, reads⟩ := exists_wordOrNumber?_render x
    rw [write] at scalar ⊢
    exact scalar (reads nofun nofun)
  | flag value => cases value <;> exact scalar rfl
  | null | bytes | moment | group | circle => exact scalar rfl
  | text content => exact ⟨'"', _, rfl, by decide, by decide⟩
  | list items => exact ⟨'[', _, rfl, by decide, by decide⟩
  | mapping entries => exact ⟨'\x7b', _, rfl, by decide, by decide⟩

/-! ### Lists and mappings -/

theorem writeItems_cons_cons (item next : Value) (items : List Value) :
    writeItems (item :: next :: items) = write item ++ ',' :: ' ' :: writeItems (next :: items) := by
  rw [writeItems]
  exact List.cons_ne_nil next items

theorem items?_blank (steps : Nat) (text : List Char) :
    items? strict steps (' ' :: text) = items? strict steps text := by
  cases steps with
  | zero => rfl
  | succ steps => rw [items?, items?, value?_blank]

theorem ends_of_mark {c : Char} (mark : isNumberCharacter c = false) (rest : List Char) :
    Ends isNumberCharacter (c :: rest) := by
  rintro _ ⟨⟩
  exact mark

theorem items?_writeItems {item found : Value} {items others : List Value} (reads : Reads strict item found)
    (each : List.Forall₂ (Reads strict) items others) (rest : List Char)
    (enough : (writeItems (item :: items)).length + 1 < steps) :
    items? strict steps (writeItems (item :: items) ++ ']' :: rest) = some (found :: others, rest) := by
  obtain ⟨steps, rfl⟩ : ∃ fewer, steps = fewer + 1 := ⟨steps - 1, by omega⟩
  induction each generalizing item found steps with
  | nil =>
    rw [writeItems] at enough ⊢
    rw [items?, reads steps _ (by omega) (ends_of_mark rfl rest)]
    rfl
  | @cons next foundNext items others readsNext each ih =>
    rw [writeItems_cons_cons, List.length_append, List.length_cons, List.length_cons] at enough
    rw [writeItems_cons_cons, List.append_assoc, List.cons_append, List.cons_append, items?,
      reads steps _ (by omega) (ends_of_mark rfl _)]
    -- The comma is read, and then the blank in front of the next item.
    change (items? strict steps (' ' :: (writeItems (next :: items) ++ ']' :: rest))).map _ = _
    obtain ⟨steps, rfl⟩ : ∃ fewer, steps = fewer + 1 := ⟨steps - 1, by omega⟩
    rw [items?_blank, ih readsNext steps (by omega)]
    rfl

theorem reads_list {items others : List Value} (each : List.Forall₂ (Reads strict) items others) :
    Reads strict (.list items) (.list others) := by
  intro steps rest enough _
  obtain ⟨steps, rfl⟩ : ∃ fewer, steps = fewer + 1 := ⟨steps - 1, by omega⟩
  cases each with
  | nil => rfl
  | @cons item found items others reads each =>
    obtain ⟨c, tail, same, visible, other⟩ := exists_write_eq_cons item
    have front : ∃ tail, writeItems (item :: items) ++ ']' :: rest = c :: tail := by
      cases items with
      | nil => exact ⟨tail ++ ']' :: rest, by rw [writeItems, same, List.cons_append]⟩
      | cons next items =>
        rw [writeItems_cons_cons, same, List.append_assoc, List.cons_append]
        exact ⟨_, rfl⟩
    obtain ⟨tail, front⟩ := front
    -- The brackets are two characters, so there are steps left for the items.
    rw [write, List.length_append, List.length_cons, List.length_singleton] at enough
    have opened : write (.list (item :: items)) ++ rest = '[' :: (writeItems (item :: items) ++ ']' :: rest) := by
      simp [write]
    have read := items?_writeItems reads each rest (by omega : _ < steps)
    rw [opened, value?, List.dropWhile_cons_of_neg (by decide)]
    rw [front] at read ⊢
    simp only [List.dropWhile_cons_of_neg (by simp [visible] : ¬ isSpace c = true)]
    split
    next close => exact absurd (List.cons.inj close).1 other
    next => rw [read]; rfl

/-- The reader finds an entry under the same name. -/
inductive EntryReads (strict : Bool) : Value × Value → Value × Value → Prop where
  | named (name : String) {value found : Value} (reads : Reads strict value found) :
    EntryReads strict (.text name, value) (.text name, found)

theorem writeEntries_cons_cons (name value : Value) (next : Value × Value) (entries : List (Value × Value)) :
    writeEntries ((name, value) :: next :: entries) =
      quoted (nameText name) ++ ':' :: ' ' :: write value ++ ',' :: ' ' :: writeEntries (next :: entries) := by
  rw [writeEntries]
  exact List.cons_ne_nil next entries

theorem entries?_blank (steps : Nat) (text : List Char) :
    entries? strict steps (' ' :: text) = entries? strict steps text := by
  cases steps <;> rfl

section

variable {name : String} {value found : Value} (reads : Reads strict value found)
  (enough : (write value).length < steps)
include reads enough

theorem entries?_last (rest : List Char) :
    entries? strict (steps + 1) (quoted name.toList ++ ':' :: ' ' :: (write value ++ '\x7d' :: rest)) =
      some ([(.text name, found)], rest) := by
  obtain ⟨behind, same, string⟩ := string?_of_quoted name.toList (':' :: ' ' :: (write value ++ '\x7d' :: rest))
  have read := reads steps _ enough (@ends_of_mark '\x7d' rfl rest)
  rw [same, entries?, List.dropWhile_cons_of_neg (by decide)]
  simp only [string, List.dropWhile_cons_of_neg (by decide : ¬ isSpace ':' = true), value?_blank, read,
    List.dropWhile_cons_of_neg (by decide : ¬ isSpace '\x7d' = true), String.ofList_toList]

theorem entries?_more (rest : List Char) :
    entries? strict (steps + 1) (quoted name.toList ++ ':' :: ' ' :: (write value ++ ',' :: rest)) =
      (entries? strict steps rest).map fun others => ((.text name, found) :: others.1, others.2) := by
  obtain ⟨behind, same, string⟩ := string?_of_quoted name.toList (':' :: ' ' :: (write value ++ ',' :: rest))
  have read := reads steps _ enough (@ends_of_mark ',' rfl rest)
  rw [same, entries?, List.dropWhile_cons_of_neg (by decide)]
  simp only [string, List.dropWhile_cons_of_neg (by decide : ¬ isSpace ':' = true), value?_blank, read,
    List.dropWhile_cons_of_neg (by decide : ¬ isSpace ',' = true), String.ofList_toList]

end

theorem entries?_writeEntries {entry found : Value × Value} {entries others : List (Value × Value)}
    (reads : EntryReads strict entry found) (each : List.Forall₂ (EntryReads strict) entries others) (rest : List Char)
    (enough : (writeEntries (entry :: entries)).length + 1 < steps) :
    entries? strict steps (writeEntries (entry :: entries) ++ '\x7d' :: rest) = some (found :: others, rest) := by
  obtain ⟨steps, rfl⟩ : ∃ fewer, steps = fewer + 1 := ⟨steps - 1, by omega⟩
  induction each generalizing entry found steps with
  | nil =>
    obtain ⟨name, reads⟩ := reads
    rw [writeEntries, List.length_append, List.length_cons, List.length_cons] at enough
    rw [writeEntries, List.append_assoc, List.cons_append, List.cons_append, nameText,
      entries?_last reads (by omega) rest]
  | @cons next foundNext entries others readsNext each ih =>
    obtain ⟨name, reads⟩ := reads
    rw [writeEntries_cons_cons] at enough ⊢
    simp only [List.length_append, List.length_cons, List.append_assoc, List.cons_append] at enough ⊢
    obtain ⟨fewer, rfl⟩ : ∃ fewer, steps = fewer + 1 := ⟨steps - 1, by omega⟩
    rw [nameText, entries?_more reads (by omega), entries?_blank, ih readsNext fewer (by omega), Option.map_some]

theorem reads_mapping {entries others : List (Value × Value)} (each : List.Forall₂ (EntryReads strict) entries others) :
    Reads strict (.mapping entries) (.mapping others) := by
  intro steps rest enough _
  obtain ⟨steps, rfl⟩ : ∃ fewer, steps = fewer + 1 := ⟨steps - 1, by omega⟩
  cases each with
  | nil => rfl
  | @cons entry found entries others reads each =>
    have front : ∃ tail, writeEntries (entry :: entries) ++ '\x7d' :: rest = '"' :: tail := by
      cases reads
      cases entries with
      | nil => exact ⟨_, rfl⟩
      | cons next entries =>
        rw [writeEntries_cons_cons]
        exact ⟨_, rfl⟩
    obtain ⟨tail, front⟩ := front
    rw [write, List.length_append, List.length_cons, List.length_singleton] at enough
    have opened : write (.mapping (entry :: entries)) ++ rest =
        '\x7b' :: (writeEntries (entry :: entries) ++ '\x7d' :: rest) := by
      simp [write]
    have read := entries?_writeEntries reads each rest (by omega : _ < steps)
    rw [front] at read
    rw [opened, front, value?, List.dropWhile_cons_of_neg (by decide)]
    change (entries? strict steps ('"' :: tail)).map _ = _
    rw [read]
    rfl

/-! ### Whole texts -/

theorem reads_of_plain {value : Value} (plain : value.Plain) : Reads strict value value := by
  induction plain with
  | null => exact reads_null
  | flag value => exact reads_flag value
  | int number => exact reads_int number
  | text content => exact reads_text content
  | list _ ih => exact reads_list (List.forall₂_same.2 ih)
  | mapping named _ ih =>
    refine reads_mapping (List.forall₂_same.2 fun entry member => ?_)
    obtain ⟨name, value⟩ := entry
    obtain ⟨content, rfl⟩ : ∃ content, name = .text content := named _ member
    exact .named content (ih _ member)

theorem readText?_render {value found : Value} (reads : Reads strict value found) :
    readText? strict (render value).toList = some found := by
  have whole := reads ((write value).length + 1) [] (Nat.lt_succ_self _) nofun
  rw [List.append_nil] at whole
  rw [render, String.toList_ofList, readText?, whole]
  rfl

theorem entriesAreWritable_iff {entries : List (Value × Value)} : entriesAreWritable entries = true ↔
    ∀ entry ∈ entries, isWritable entry.1 = true ∧ isWritable entry.2 = true := by
  induction entries with
  | nil => simp [entriesAreWritable]
  | cons entry rest ih => simp [entriesAreWritable, ih]

mutual

theorem isAscii_write : ∀ value, IsAscii (write value)
  | .int number => by
    rw [write]
    exact isAscii_int number
  | .float x => by
    rw [write]
    exact isAscii_float x
  | .text content => isAscii_quoted content.toList
  | .list items => isAscii_cons (by decide) (isAscii_append (isAscii_writeItems items) (by decide))
  | .mapping entries => isAscii_cons (by decide) (isAscii_append (isAscii_writeEntries entries) (by decide))
  | .flag true | .flag false | .null | .bytes _ | .moment | .group | .circle => by
    rw [write]
    decide

theorem isAscii_writeItems : ∀ items, IsAscii (writeItems items)
  | [] => nofun
  | [item] => by
    rw [writeItems]
    exact isAscii_write item
  | item :: next :: items => by
    rw [writeItems_cons_cons]
    exact isAscii_append (isAscii_write item) <| isAscii_cons (by decide) <| isAscii_cons (by decide) <|
      isAscii_writeItems (next :: items)

theorem isAscii_writeEntries : ∀ entries, IsAscii (writeEntries entries)
  | [] => nofun
  | [(name, value)] => by
    rw [writeEntries]
    exact isAscii_append (isAscii_quoted _) <| isAscii_cons (by decide) <| isAscii_cons (by decide) <|
      isAscii_write value
  | (name, value) :: next :: entries => by
    rw [writeEntries_cons_cons]
    exact isAscii_append (isAscii_append (isAscii_quoted _) <| isAscii_cons (by decide) <| isAscii_cons (by decide) <|
      isAscii_write value) <| isAscii_cons (by decide) <| isAscii_cons (by decide) <|
      isAscii_writeEntries (next :: entries)

end

end Json

end DiagramWeave
