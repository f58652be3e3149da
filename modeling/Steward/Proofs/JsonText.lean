/-
This file says which texts a JSON value can be written as, and shows that each of them is read.
A text is a row of tokens with blanks between them, and each character of a string has several
forms. All texts of a value are read as that value, with its members in order.
-/

import Steward.Json.Reader
import Steward.Json.Writer
import Steward.Proofs.Digits

namespace Steward.Json

open Text

section Forms

/-- Nothing but characters that may stand between two tokens. -/
def AreBlanks (gap : List Char) : Prop :=
  ∀ character ∈ gap, character ∈ [' ', '\n', '\t', '\r']

instance (gap : List Char) : Decidable (AreBlanks gap) :=
  List.decidableBAll (· ∈ [' ', '\n', '\t', '\r']) gap

/-- A hexadecimal digit, in lower or in upper case. -/
def IsHexDigit (value : Nat) (digit : Char) : Prop :=
  value < 16 ∧ (digit = Nat.digitChar value ∨ digit = (Nat.digitChar value).toUpper)

/-- The four hexadecimal digits of a code. -/
inductive IsCode : Nat → List Char → Prop
  | digits {a b c d : Nat} {first second third fourth : Char} (highest : IsHexDigit a first)
      (high : IsHexDigit b second) (low : IsHexDigit c third) (lowest : IsHexDigit d fourth) :
      IsCode (((a * 16 + b) * 16 + c) * 16 + d) [first, second, third, fourth]

/-- The letters that stand for one character each after a backslash. -/
def escapeLetters : List (Char × Char) :=
  [('"', '"'), ('\\', '\\'), ('/', '/'), ('b', '\x08'), ('f', '\x0c'), ('n', '\n'), ('r', '\r'),
    ('t', '\t')]

/-- The forms that a character can have in a string: itself, a letter, the code of it, or the two
codes of a surrogate pair. -/
inductive Spells : Char → List Char → Prop
  | plain {character : Char} (quote : character ≠ '"') (backslash : character ≠ '\\')
      (visible : 0x20 ≤ character.toNat) : Spells character [character]
  | letter {letter character : Char} (known : (letter, character) ∈ escapeLetters) :
      Spells character ['\\', letter]
  | code {character : Char} {digits : List Char} (code : IsCode character.toNat digits) :
      Spells character ('\\' :: 'u' :: digits)
  | pair {character : Char} {first second : Nat} {digits others : List Char}
      (high : 0xD800 ≤ first ∧ first ≤ 0xDBFF) (low : 0xDC00 ≤ second ∧ second ≤ 0xDFFF)
      (value : character.toNat = 0x10000 + (first - 0xD800) * 0x400 + (second - 0xDC00))
      (code : IsCode first digits) (next : IsCode second others) :
      Spells character ('\\' :: 'u' :: (digits ++ '\\' :: 'u' :: others))

/-- The forms that several characters can have in a string. -/
inductive SpellsAll : List Char → List Char → Prop
  | nil : SpellsAll [] []
  | cons {character : Char} {characters form text : List Char} (first : Spells character form)
      (rest : SpellsAll characters text) : SpellsAll (character :: characters) (form ++ text)

/-- The parts of a text that blanks may stand between. -/
inductive Token where
  | sign (character : Char)
  | word (letters : List Char)
  | number (value : Number)
  | string (text : String)

/-- The forms of a token. Only that of a string is not determined. -/
def Token.IsForm : Token → List Char → Prop
  | .sign character, form => form = [character]
  | .word letters, form => form = letters
  | .number value, form => form = numberText value
  | .string text, form => ∃ inner, SpellsAll text.toList inner ∧ form = '"' :: (inner ++ ['"'])

/-- Tokens in a row, with blanks before, between and after them. -/
inductive Lays : List Token → List Char → Prop
  | nil {gap : List Char} (blank : AreBlanks gap) : Lays [] gap
  | cons {token : Token} {tokens : List Token} {gap form text : List Char} (blank : AreBlanks gap)
      (isForm : token.IsForm form) (rest : Lays tokens text) :
      Lays (token :: tokens) (gap ++ (form ++ text))

mutual

/-- The tokens of a value, with the members of its objects in the order in which they are given. -/
def tokens : Value → List Token
  | .null => [.word ['n', 'u', 'l', 'l']]
  | .bool true => [.word ['t', 'r', 'u', 'e']]
  | .bool false => [.word ['f', 'a', 'l', 's', 'e']]
  | .number number => [.number number]
  | .string text => [.string text]
  | .array items => .sign '[' :: (itemTokens items ++ [.sign ']'])
  | .object members => .sign '\x7b' :: (memberTokens members ++ [.sign '\x7d'])

def itemTokens : List Value → List Token
  | [] => []
  | [last] => tokens last
  | first :: rest => tokens first ++ .sign ',' :: itemTokens rest

def memberTokens : List (String × Value) → List Token
  | [] => []
  | [(name, last)] => .string name :: .sign ':' :: tokens last
  | (name, first) :: rest =>
      .string name :: .sign ':' :: (tokens first ++ .sign ',' :: memberTokens rest)

end

mutual

/-- A value that has a text that can be read where `depth` containers may be nested, less one: its
numbers are whole and of at most 64 bits, and the members of an object have names of their own. -/
def IsLegible (depth : Nat) : Value → Prop
  | .null | .bool _ | .string _ => True
  | .number (.integer value) => -Word.signedBound ≤ value ∧ value ≤ Word.max
  | .number (.real _) => False
  | .array items => 1 < depth ∧ AreLegible (depth - 1) items
  | .object members =>
      1 < depth ∧ (members.map Prod.fst).Nodup ∧ AreLegibleMembers (depth - 1) members

def AreLegible (depth : Nat) : List Value → Prop
  | [] => True
  | item :: rest => IsLegible depth item ∧ AreLegible depth rest

def AreLegibleMembers (depth : Nat) : List (String × Value) → Prop
  | [] => True
  | (_, value) :: rest => IsLegible depth value ∧ AreLegibleMembers depth rest

end

mutual

/-- The value with the members of its objects in the order of their names, as they are read. -/
def arranged : Value → Value
  | .array items => .array (arrangedItems items)
  | .object members => .ofMembers (arrangedMembers members)
  | .null => .null
  | .bool value => .bool value
  | .number number => .number number
  | .string text => .string text

def arrangedItems : List Value → List Value
  | [] => []
  | item :: rest => arranged item :: arrangedItems rest

def arrangedMembers : List (String × Value) → List (String × Value)
  | [] => []
  | (name, value) :: rest => (name, arranged value) :: arrangedMembers rest

end

end Forms

section Blanks

theorem isBlankChar_iff {character : Char} :
    isBlankChar character = true ↔ character ∈ [' ', '\n', '\t', '\r'] := by
  simp only [isBlankChar, Bool.or_eq_true, beq_iff_eq, List.mem_cons, List.not_mem_nil, or_false,
    or_assoc]

theorem skipBlanks_of_head {first : Char} (visible : isBlankChar first = false) (rest : List Char) :
    skipBlanks (first :: rest) = first :: rest := by
  simp [skipBlanks, visible]

theorem skipBlanks_append {gap : List Char} (blank : AreBlanks gap) (text : List Char) :
    skipBlanks (gap ++ text) = skipBlanks text :=
  List.dropWhile_append_of_pos fun character inside =>
    isBlankChar_iff.2 (blank character inside)

theorem skipBlanks_eq_nil {gap : List Char} (blank : AreBlanks gap) : skipBlanks gap = [] := by
  have whole := skipBlanks_append blank []
  rwa [List.append_nil] at whole

end Blanks

section Strings

variable {steps : Nat} {rest : List Char}

/-- A hexadecimal digit is read as its value, in either case. -/
theorem hexDigit?_of_isHexDigit {value : Nat} {digit : Char} (is : IsHexDigit value digit) :
    hexDigit? digit = some value := by
  have lower : ∀ value < 16, hexDigit? (Nat.digitChar value) = some value := by decide
  have upper : ∀ value < 16, hexDigit? (Nat.digitChar value).toUpper = some value := by decide
  obtain ⟨small, rfl | rfl⟩ := is
  · exact lower value small
  · exact upper value small

/-- Four hexadecimal digits are read as their code. -/
theorem readHex4_of_isCode {code : Nat} {digits : List Char} (is : IsCode code digits)
    (rest : List Char) : readHex4 (digits ++ rest) = .ok (code, rest) := by
  obtain ⟨highest, high, low, lowest⟩ := is
  simp only [List.cons_append, List.nil_append, readHex4, hexDigit?_of_isHexDigit highest,
    hexDigit?_of_isHexDigit high, hexDigit?_of_isHexDigit low, hexDigit?_of_isHexDigit lowest]

/-- No character has the code of half a surrogate pair. -/
theorem toNat_not_surrogate (character : Char) :
    ¬ (0xD800 ≤ character.toNat ∧ character.toNat ≤ 0xDFFF) := by
  have valid : character.toNat < 0xD800 ∨ 0xDFFF < character.toNat ∧ character.toNat < 0x110000 :=
    character.valid
  omega

/-- A character may be written by its code, if the code is no half of a pair. -/
theorem readCodeEscape_of_isCode {character : Char} {digits : List Char}
    (is : IsCode character.toNat digits) (rest : List Char) :
    readCodeEscape (digits ++ rest) = .ok (character, rest) := by
  have apart := toNat_not_surrogate character
  have noSecond : ¬ (0xDC00 ≤ character.toNat ∧ character.toNat ≤ 0xDFFF) := by omega
  have noFirst : ¬ (0xD800 ≤ character.toNat ∧ character.toNat ≤ 0xDBFF) := by omega
  rw [readCodeEscape, readHex4_of_isCode is]
  simp only [bind, Except.bind, noSecond, noFirst, if_false, Char.ofNat_toNat]

/-- A character beyond the codes of four digits may be written by a pair of codes. -/
theorem readCodeEscape_of_pair {character : Char} {first second : Nat} {digits others : List Char}
    (high : 0xD800 ≤ first ∧ first ≤ 0xDBFF) (low : 0xDC00 ≤ second ∧ second ≤ 0xDFFF)
    (value : character.toNat = 0x10000 + (first - 0xD800) * 0x400 + (second - 0xDC00))
    (code : IsCode first digits) (next : IsCode second others) (rest : List Char) :
    readCodeEscape (digits ++ '\\' :: 'u' :: (others ++ rest)) = .ok (character, rest) := by
  have noSecond : ¬ (0xDC00 ≤ first ∧ first ≤ 0xDFFF) := by omega
  rw [readCodeEscape, readHex4_of_isCode code]
  simp only [bind, Except.bind, noSecond, if_false, high, and_self, if_true,
    readHex4_of_isCode next, low, ← value, Char.ofNat_toNat]

/-- A character may be written by the letter that is kept for it. -/
theorem readEscape_of_letter {letter character : Char}
    (known : (letter, character) ∈ escapeLetters) (rest : List Char) :
    readEscape (letter :: rest) = .ok (character, rest) := by
  simp only [escapeLetters, List.mem_cons, Prod.mk.injEq, List.not_mem_nil, or_false] at known
  rcases known with ⟨rfl, rfl⟩ | ⟨rfl, rfl⟩ | ⟨rfl, rfl⟩ | ⟨rfl, rfl⟩ | ⟨rfl, rfl⟩ | ⟨rfl, rfl⟩ |
    ⟨rfl, rfl⟩ | ⟨rfl, rfl⟩
  all_goals rfl

/-- An escape stands for the one character that it is read as. -/
theorem readStringChars_escape {text : List Char} {character : Char}
    (escaped : readEscape text = .ok (character, rest)) :
    readStringChars (steps + 1) ('\\' :: text) =
      (readStringChars steps rest).map fun read => (character :: read.1, read.2) := by
  simp only [readStringChars, escaped, bind, Except.bind]
  cases readStringChars steps rest
  · rfl
  · rfl

/-- A character that needs no escape may stand for itself. -/
theorem readStringChars_plain {character : Char} (quote : character ≠ '"')
    (backslash : character ≠ '\\') (visible : ¬ character.toNat < 0x20) :
    readStringChars (steps + 1) (character :: rest) =
      (readStringChars steps rest).map fun read => (character :: read.1, read.2) := by
  rw [readStringChars.eq_def]
  dsimp only
  split
  · rename_i empty
    cases empty
  · rename_i same
    cases same
    exact absurd rfl quote
  · rename_i same
    cases same
    exact absurd rfl backslash
  · rename_i same
    cases same
    rw [if_neg visible]
    cases readStringChars steps rest
    · rfl
    · rfl

/-- A character is read back from any of its forms. -/
theorem readStringChars_of_spells {character : Char} {form : List Char}
    (spells : Spells character form) :
    readStringChars (steps + 1) (form ++ rest) =
      (readStringChars steps rest).map fun read => (character :: read.1, read.2) := by
  cases spells with
  | plain quote backslash visible =>
      exact readStringChars_plain quote backslash (Nat.not_lt.2 visible)
  | letter known => exact readStringChars_escape (readEscape_of_letter known rest)
  | code code => exact readStringChars_escape (readCodeEscape_of_isCode code rest)
  | pair high low value code next =>
      simp only [List.cons_append, List.append_assoc]
      exact readStringChars_escape (readCodeEscape_of_pair high low value code next rest)

theorem Spells.length_pos {character : Char} {form : List Char} (spells : Spells character form) :
    0 < form.length := by
  cases spells <;> simp

/-- A text is no shorter than the characters that it spells. -/
theorem SpellsAll.length_le {characters text : List Char} (spells : SpellsAll characters text) :
    characters.length ≤ text.length := by
  induction spells with
  | nil => exact Nat.le_refl 0
  | cons first _ inductionHypothesis =>
      have one := first.length_pos
      rw [List.length_cons, List.length_append]
      omega

/-- A string is read up to its closing quote, whatever the forms of its characters. -/
theorem readStringChars_of_spellsAll {characters text : List Char}
    (spells : SpellsAll characters text) (enough : characters.length < steps) :
    readStringChars steps (text ++ '"' :: rest) = .ok (characters, rest) := by
  induction spells generalizing steps with
  | nil =>
      cases steps with
      | zero => cases enough
      | succ steps => rfl
  | cons first _ inductionHypothesis =>
      cases steps with
      | zero => cases enough
      | succ steps =>
          have later := inductionHypothesis (Nat.lt_of_succ_lt_succ enough)
          rw [List.append_assoc, readStringChars_of_spells first, later]
          rfl

end Strings

section Numbers

variable {rest : List Char}

/-- What may follow a value: the end of the text, a blank, or the next part of a container. -/
def IsEnd (rest : List Char) : Prop :=
  ∀ next ∈ rest.head?, isBlankChar next = true ∨ next ∈ [',', ']', '\x7d']

theorem isEnd_cons {first : Char} (rest : List Char) (ends : first ∈ [',', ']', '\x7d']) :
    IsEnd (first :: rest) := by
  intro next same
  cases same
  exact .inr ends

/-- Before an end neither digits nor the other parts of a number go on. -/
theorem IsEnd.eq_of_head {next : Char} (ends : IsEnd (next :: rest)) :
    next ∈ [' ', '\n', '\t', '\r', ',', ']', '\x7d'] := by
  rcases ends next rfl with blank | part
  · exact List.mem_append_left [',', ']', '\x7d'] (isBlankChar_iff.1 blank)
  · exact List.mem_append_right [' ', '\n', '\t', '\r'] part

/-- No digit follows where a number ends. -/
theorem isDigit_of_isEnd (ends : IsEnd rest) : ∀ next ∈ rest.head?, isDigit next = false := by
  cases rest with
  | nil => nofun
  | cons next rest =>
      rintro _ ⟨⟩
      have apart : [' ', '\n', '\t', '\r', ',', ']', '\x7d'].all (!isDigit ·) = true := rfl
      simpa using List.all_eq_true.1 apart next ends.eq_of_head

/-- A number of more than one digit does not begin with a zero. -/
theorem decimal_ne_zero_cons (number : Nat) (next : Char) (digits : List Char) :
    decimal number ≠ '0' :: next :: digits := by
  intro same
  unfold decimal at same
  induction number using Nat.strongRecOn generalizing next digits with
  | ind number inductionHypothesis =>
      rw [Nat.toDigits_eq_if (by decide)] at same
      split at same
      · have none := (List.cons.inj same).2
        cases none
      · rename_i large
        cases front : Nat.toDigits 10 (number / 10) with
        | nil => exact Nat.toDigits_ne_nil front
        | cons first others =>
            rw [front] at same
            have zero : first = '0' := (List.cons.inj same).1
            cases others with
            | nil =>
                have value := digitsValue_decimal (number / 10)
                rw [decimal, front, zero] at value
                have empty : number / 10 = 0 := value.symm
                omega
            | cons second others =>
                rw [zero] at front
                exact inductionHypothesis (number / 10) (by omega) second others front

/-- A run of digits is read up to the first character that is none. -/
theorem readDigits_of_digits {digits : List Char} (all : ∀ digit ∈ digits, isDigit digit = true)
    (present : digits ≠ []) (ends : ∀ next ∈ rest.head?, isDigit next = false) :
    readDigits (digits ++ rest) = .ok (digits, rest) := by
  rw [readDigits, spanDigits_of_digits all ends]
  cases digits with
  | nil => exact absurd rfl present
  | cons digit digits => rfl

/-- Digits that something ends are read as a whole number. -/
theorem readUnsigned_decimal {negative : Bool} {number : Nat} {value : Number}
    (whole : Number.ofWhole negative (decimal number) = .ok value) (ends : IsEnd rest) :
    readUnsigned negative (decimal number ++ rest) = .ok (value, rest) := by
  have digits : readDigits (decimal number ++ rest) = .ok (decimal number, rest) :=
    readDigits_of_digits (fun _ => isDigit_of_mem_decimal) Nat.toDigits_ne_nil
      (isDigit_of_isEnd ends)
  have plain : ¬ ((decimal number).head? = some '0' ∧ 1 < (decimal number).length) := by
    rintro ⟨zero, long⟩
    match shape : decimal number with
    | [] => exact Nat.toDigits_ne_nil shape
    | [digit] => simp [shape] at long
    | digit :: next :: others =>
        rw [shape] at zero
        cases zero
        exact decimal_ne_zero_cons _ _ _ shape
  simp only [readUnsigned, digits, bind, Except.bind, if_neg plain, whole]
  cases rest with
  | nil => rfl
  | cons next rest =>
      have part := ends.eq_of_head
      simp only [List.mem_cons, List.not_mem_nil, or_false] at part
      rcases part with rfl | rfl | rfl | rfl | rfl | rfl | rfl
      all_goals rfl

/-- A number is read back from its text. -/
theorem readNumber_integerText {value : Int} (low : -Word.signedBound ≤ value)
    (high : value ≤ Word.max) (ends : IsEnd rest) :
    readNumber (integerText value ++ rest) = .ok (.integer value, rest) := by
  unfold integerText
  split
  · rename_i negative
    have whole : Number.ofWhole true (decimal value.natAbs) = .ok (.integer value) := by
      have nonzero : value.natAbs ≠ 0 := by omega
      have small : value.natAbs ≤ Word.signedBound := by omega
      have same : -(value.natAbs : Int) = value := by omega
      rw [Number.ofWhole, digitsValue_decimal, if_pos rfl, if_pos ⟨nonzero, small⟩, same]
    exact readUnsigned_decimal whole ends
  · rename_i negative
    have whole : Number.ofWhole false (decimal value.natAbs) = .ok (.integer value) := by
      have small : value.natAbs ≤ Word.max := by omega
      have same : (value.natAbs : Int) = value := by omega
      rw [Number.ofWhole, digitsValue_decimal, if_neg Bool.false_ne_true, if_pos small, same]
    unfold readNumber
    split
    · rename_i same
      have member : '-' ∈ decimal value.natAbs := by
        cases digits : decimal value.natAbs with
        | nil => exact absurd digits Nat.toDigits_ne_nil
        | cons digit others =>
            rw [digits] at same
            simp [(List.cons.inj same).1]
      cases isDigit_of_mem_decimal member
    · exact readUnsigned_decimal whole ends

/-- A minus sign or a digit: what numbers begin with. -/
def BeginsNumber (first : Char) : Prop :=
  first = '-' ∨ isDigit first = true

/-- The text of a whole number begins with a digit or a minus sign. -/
theorem integerText_eq_cons (value : Int) :
    ∃ first tail, integerText value = first :: tail ∧ BeginsNumber first := by
  unfold integerText
  split
  · exact ⟨'-', _, rfl, .inl rfl⟩
  · cases digits : decimal value.natAbs with
    | nil => exact absurd digits Nat.toDigits_ne_nil
    | cons digit others =>
        have member : digit ∈ decimal value.natAbs := by simp [digits]
        exact ⟨digit, others, rfl, .inr (isDigit_of_mem_decimal member)⟩

/-- What begins a number is no other sign. -/
theorem BeginsNumber.ne {first other : Char} (begins : BeginsNumber first)
    (sign : other ≠ '-') (digit : isDigit other = false) : first ≠ other := by
  rintro rfl
  rcases begins with same | holds
  · exact sign same
  · exact Bool.false_ne_true (digit.symm.trans holds)

theorem BeginsNumber.isBlankChar {first : Char} (begins : BeginsNumber first) :
    isBlankChar first = false := by
  have space := begins.ne (show ' ' ≠ '-' by decide) rfl
  have newline := begins.ne (show '\n' ≠ '-' by decide) rfl
  have tab := begins.ne (show '\t' ≠ '-' by decide) rfl
  have line := begins.ne (show '\r' ≠ '-' by decide) rfl
  simp [Json.isBlankChar, space, newline, tab, line]

/-- A value that begins as a number does is read as that number. -/
theorem readValue_of_number {steps depth : Nat} {characters rest : List Char} {number : Number}
    (read : readNumber characters = .ok (number, rest))
    (begins : ∃ first tail, characters = first :: tail ∧ BeginsNumber first) :
    readValue (steps + 1) depth characters = .ok (.number number, rest) := by
  obtain ⟨first, tail, rfl, begins⟩ := begins
  rw [readValue.eq_def]
  dsimp only
  split
  · rename_i empty
    cases empty
  iterate 6
    rename_i same
    exact absurd (List.cons.inj same).1 (begins.ne (by decide) rfl)
  · rename_i same
    cases same
    have sign : first = '-' ∨ isDigit first = true := begins
    rw [if_pos sign, read]
    rfl

end Numbers

section Tokens

variable {steps depth : Nat} {more : List Token} {text rest after : List Char}

/-- The first token of a text stands after some blanks, in one of its forms. -/
theorem exists_of_lays_cons {token : Token} (lays : Lays (token :: more) text) :
    ∃ gap form rest, text = gap ++ (form ++ rest) ∧ AreBlanks gap ∧ token.IsForm form ∧
      Lays more rest := by
  obtain _ | ⟨blank, isForm, rest⟩ := lays
  exact ⟨_, _, _, rfl, blank, isForm, rest⟩

/-- After the blanks before it a sign stands for itself. -/
theorem Lays.sign {sign : Char} (lays : Lays (.sign sign :: more) text)
    (visible : isBlankChar sign = false) :
    ∃ rest, skipBlanks text = sign :: rest ∧ Lays more rest ∧ rest.length < text.length := by
  obtain ⟨gap, _, rest, rfl, blank, rfl, later⟩ := exists_of_lays_cons lays
  refine ⟨rest, ?_, later, ?_⟩
  · rw [skipBlanks_append blank]
    exact skipBlanks_of_head visible rest
  · simp only [List.length_append, List.length_singleton]
    omega

/-- Of a text that begins with a word, the word is read and the rest is shorter. -/
theorem Lays.word {first : Char} {letters : List Char}
    (lays : Lays (.word (first :: letters) :: more) text) (visible : isBlankChar first = false) :
    ∃ rest, skipBlanks text = first :: letters ++ rest ∧ Lays more rest ∧
      rest.length < text.length := by
  obtain ⟨gap, _, rest, rfl, blank, rfl, later⟩ := exists_of_lays_cons lays
  refine ⟨rest, ?_, later, ?_⟩
  · rw [skipBlanks_append blank]
    exact skipBlanks_of_head visible (letters ++ rest)
  · simp only [List.length_append, List.length_cons]
    omega

/-- Of a text that begins with a whole number, its digits stand first and the rest is shorter. -/
theorem Lays.integer {value : Int} (lays : Lays (.number (.integer value) :: more) text) :
    ∃ rest, skipBlanks text = integerText value ++ rest ∧ Lays more rest ∧
      rest.length < text.length := by
  obtain ⟨gap, form, rest, rfl, blank, isForm, later⟩ := exists_of_lays_cons lays
  obtain rfl : form = integerText value := isForm
  obtain ⟨first, tail, same, begins⟩ := integerText_eq_cons value
  refine ⟨rest, ?_, later, ?_⟩
  · rw [skipBlanks_append blank, same]
    exact skipBlanks_of_head begins.isBlankChar (tail ++ rest)
  · simp only [same, List.length_append, List.length_cons]
    omega

/-- Of a text that begins with a string, the string is read and the rest is shorter. -/
theorem Lays.string {content : String} (lays : Lays (.string content :: more) text) :
    ∃ after rest, skipBlanks text = '"' :: after ∧ Lays more rest ∧ rest.length < text.length ∧
      ∀ steps, text.length ≤ steps → readString steps after = .ok (content, rest) := by
  obtain ⟨gap, _, rest, rfl, blank, ⟨inner, spells, rfl⟩, later⟩ := exists_of_lays_cons lays
  have long := spells.length_le
  refine ⟨inner ++ '"' :: rest, rest, ?_, later, ?_, fun steps enough => ?_⟩
  · rw [skipBlanks_append blank]
    simp [skipBlanks_of_head (show isBlankChar '"' = false from rfl)]
  · simp only [List.length_append, List.length_cons, List.length_nil]
    omega
  · simp only [List.length_append, List.length_cons, List.length_nil] at enough
    rw [readString, readStringChars_of_spellsAll spells (by omega)]
    simp only [bind, Except.bind, String.ofList_toList]
    rfl

/-- The tokens after a value: none, or one with which its container goes on or ends. -/
def MayFollow (more : List Token) : Prop :=
  ∀ token ∈ more.head?, ∃ sign ∈ [',', ']', '\x7d'], token = .sign sign

theorem mayFollow_nil : MayFollow [] := by
  rintro _ ⟨⟩

theorem mayFollow_cons {sign : Char} (more : List Token) (part : sign ∈ [',', ']', '\x7d']) :
    MayFollow (.sign sign :: more) := by
  rintro _ ⟨⟩
  exact ⟨sign, part, rfl⟩

/-- Before a comma or a closing bracket a number ends. -/
theorem isEnd_of_lays (lays : Lays more text) (follows : MayFollow more) : IsEnd text := by
  cases more with
  | nil =>
      obtain ⟨blank⟩ := lays
      intro next first
      exact .inl (isBlankChar_iff.2 (blank next (List.mem_of_head? first)))
  | cons token more =>
      obtain ⟨sign, part, rfl⟩ := follows token rfl
      obtain ⟨gap, _, rest, rfl, blank, rfl, -⟩ := exists_of_lays_cons lays
      cases gap with
      | nil => exact isEnd_cons rest part
      | cons first gap =>
          rintro _ ⟨⟩
          exact .inl (isBlankChar_iff.2 (blank first (by simp)))

end Tokens

section Values

variable {steps depth : Nat} {text rest after : List Char}

theorem readValue_array_nil (nested : 1 < depth) (closed : skipBlanks text = ']' :: rest) :
    readValue (steps + 1) depth ('[' :: text) = .ok (.array [], rest) := by
  simp only [readValue, if_neg (Nat.not_le_of_lt nested), closed]

/-- No item begins with the end of an array. -/
theorem readItems_close (items : List Value) (text : List Char) :
    readItems steps depth (']' :: text) ≠ .ok (items, rest) := by
  match steps with
  | 0 => nofun
  | 1 => nofun
  | steps + 2 => nofun

/-- An array is read as its items are. -/
theorem readValue_array {items : List Value} (nested : 1 < depth)
    (read : readItems steps (depth - 1) (skipBlanks text) = .ok (items, rest)) :
    readValue (steps + 1) depth ('[' :: text) = .ok (.array items, rest) := by
  simp only [readValue, if_neg (Nat.not_le_of_lt nested)]
  split
  · rename_i closed
    rw [closed] at read
    exact absurd read (readItems_close items _)
  · rw [read]
    rfl

theorem readItems_last {item : Value} (read : readValue steps depth text = .ok (item, after))
    (closed : skipBlanks after = ']' :: rest) :
    readItems (steps + 1) depth text = .ok ([item], rest) := by
  simp only [readItems, read, bind, Except.bind, closed]

/-- After an item and a comma there are more items. -/
theorem readItems_more {item : Value} {items : List Value} {others : List Char}
    (read : readValue steps depth text = .ok (item, after))
    (goes : skipBlanks after = ',' :: others)
    (later : readItems steps depth (skipBlanks others) = .ok (items, rest)) :
    readItems (steps + 1) depth text = .ok (item :: items, rest) := by
  simp only [readItems, read, bind, Except.bind, goes, later]
  rfl

theorem readValue_object_nil (nested : 1 < depth) (closed : skipBlanks text = '\x7d' :: rest) :
    readValue (steps + 1) depth ('\x7b' :: text) = .ok (.object [], rest) := by
  simp only [readValue, if_neg (Nat.not_le_of_lt nested), closed]

/-- No member begins with the end of an object. -/
theorem readMembers_close (members : List (String × Value)) (text : List Char) :
    readMembers steps depth ('\x7d' :: text) ≠ .ok (members, rest) := by
  cases steps with
  | zero => nofun
  | succ steps => nofun

/-- An object is read as its members are. -/
theorem readValue_object {members : List (String × Value)} (nested : 1 < depth)
    (read : readMembers steps (depth - 1) (skipBlanks text) = .ok (members, rest)) :
    readValue (steps + 1) depth ('\x7b' :: text) = .ok (.ofMembers members, rest) := by
  simp only [readValue, if_neg (Nat.not_le_of_lt nested)]
  split
  · rename_i closed
    rw [closed] at read
    exact absurd read (readMembers_close members _)
  · rw [read]
    rfl

section Members

variable {name : String} {value : Value} {colon content : List Char}

/-- A member before the closing brace is the last one. -/
theorem readMembers_last (named : readString steps text = .ok (name, colon))
    (goes : skipBlanks colon = ':' :: content)
    (read : readValue steps depth (skipBlanks content) = .ok (value, after))
    (closed : skipBlanks after = '\x7d' :: rest) :
    readMembers (steps + 1) depth ('"' :: text) = .ok ([(name, value)], rest) := by
  simp only [readMembers, named, bind, Except.bind, goes, read, closed]

/-- After a member and a comma there are more members. -/
theorem readMembers_more {members : List (String × Value)} {others : List Char}
    (named : readString steps text = .ok (name, colon))
    (goes : skipBlanks colon = ':' :: content)
    (read : readValue steps depth (skipBlanks content) = .ok (value, after))
    (comma : skipBlanks after = ',' :: others)
    (later : readMembers steps depth (skipBlanks others) = .ok (members, rest)) :
    readMembers (steps + 1) depth ('"' :: text) = .ok ((name, value) :: members, rest) := by
  simp only [readMembers, named, bind, Except.bind, goes, read, comma, later]
  rfl

end Members

mutual

/-- Whatever text the tokens of a value are laid out in, the value is read from it, and what is left
is laid out in what is left of the text. -/
theorem readValue_of_lays (value : Value) {steps depth : Nat} {more : List Token}
    {text : List Char} (legible : IsLegible depth value) (follows : MayFollow more)
    (lays : Lays (tokens value ++ more) text) (enough : 2 * text.length < steps) :
    ∃ rest, readValue steps depth (skipBlanks text) = .ok (arranged value, rest) ∧
      Lays more rest ∧ rest.length < text.length := by
  cases steps with
  | zero => cases enough
  | succ steps =>
      match value with
      | .null =>
          obtain ⟨rest, shown, later, shorter⟩ := Lays.word lays rfl
          rw [shown]
          exact ⟨rest, rfl, later, shorter⟩
      | .bool true =>
          obtain ⟨rest, shown, later, shorter⟩ := Lays.word lays rfl
          rw [shown]
          exact ⟨rest, rfl, later, shorter⟩
      | .bool false =>
          obtain ⟨rest, shown, later, shorter⟩ := Lays.word lays rfl
          rw [shown]
          exact ⟨rest, rfl, later, shorter⟩
      | .number (.integer value) =>
          obtain ⟨rest, shown, later, shorter⟩ := Lays.integer lays
          obtain ⟨low, high⟩ := legible
          obtain ⟨first, tail, same, begins⟩ := integerText_eq_cons value
          have read := readNumber_integerText low high (isEnd_of_lays later follows)
          rw [shown]
          refine ⟨rest, readValue_of_number read ⟨first, tail ++ rest, ?_, begins⟩, later, shorter⟩
          exact congrArg (· ++ rest) same
      | .number (.real bits) => exact legible.elim
      | .string content =>
          obtain ⟨after, rest, shown, later, shorter, read⟩ := Lays.string lays
          rw [shown]
          refine ⟨rest, ?_, later, shorter⟩
          simp only [readValue, read steps (by omega)]
          rfl
      | .array [] =>
          obtain ⟨inner, opened, lays, shorter⟩ := Lays.sign lays rfl
          obtain ⟨rest, closed, later, less⟩ := Lays.sign lays rfl
          rw [opened]
          exact ⟨rest, readValue_array_nil legible.1 closed, later, by omega⟩
      | .array (item :: items) =>
          obtain ⟨nested, items'⟩ := legible
          simp only [tokens, List.cons_append, List.append_assoc, List.nil_append] at lays
          obtain ⟨inner, opened, lays, shorter⟩ := lays.sign rfl
          obtain ⟨rest, read, later, less⟩ :=
            readItems_of_lays (item :: items) (by simp) items' lays
              (show 2 * inner.length + 1 < steps by omega)
          rw [opened]
          exact ⟨rest, readValue_array nested read, later, by omega⟩
      | .object [] =>
          obtain ⟨inner, opened, lays, shorter⟩ := Lays.sign lays rfl
          obtain ⟨rest, closed, later, less⟩ := Lays.sign lays rfl
          rw [opened]
          exact ⟨rest, readValue_object_nil legible.1 closed, later, by omega⟩
      | .object (member :: members) =>
          obtain ⟨nested, -, members'⟩ := legible
          simp only [tokens, List.cons_append, List.append_assoc, List.nil_append] at lays
          obtain ⟨inner, opened, lays, shorter⟩ := lays.sign rfl
          obtain ⟨rest, read, later, less⟩ :=
            readMembers_of_lays (member :: members) (by simp) members' lays
              (show 2 * inner.length + 1 < steps by omega)
          rw [opened]
          exact ⟨rest, readValue_object nested read, later, by omega⟩

/-- The items of an array are read one after the other, however they are laid out. -/
theorem readItems_of_lays (items : List Value) {steps depth : Nat} {more : List Token}
    {text : List Char} (present : items ≠ []) (legible : AreLegible depth items)
    (lays : Lays (itemTokens items ++ .sign ']' :: more) text)
    (enough : 2 * text.length + 1 < steps) :
    ∃ rest, readItems steps depth (skipBlanks text) = .ok (arrangedItems items, rest) ∧
      Lays more rest ∧ rest.length < text.length := by
  cases steps with
  | zero => cases enough
  | succ steps =>
      match items with
      | [] => exact absurd rfl present
      | [last] =>
          obtain ⟨after, read, lays, shorter⟩ :=
            readValue_of_lays last legible.1 (mayFollow_cons more (by simp)) lays
              (show 2 * text.length < steps by omega)
          obtain ⟨rest, closed, later, less⟩ := lays.sign rfl
          exact ⟨rest, readItems_last read closed, later, by omega⟩
      | first :: second :: items =>
          simp only [itemTokens, List.append_assoc, List.cons_append] at lays
          obtain ⟨after, read, lays, shorter⟩ :=
            readValue_of_lays first legible.1 (mayFollow_cons _ (by simp)) lays
              (show 2 * text.length < steps by omega)
          obtain ⟨others, goes, lays, less⟩ := lays.sign rfl
          obtain ⟨rest, items', later, least⟩ :=
            readItems_of_lays (second :: items) (by simp) legible.2 lays
              (show 2 * others.length + 1 < steps by omega)
          exact ⟨rest, readItems_more read goes items', later, by omega⟩

/-- The members of an object are read one after the other, however they are laid out. -/
theorem readMembers_of_lays (members : List (String × Value)) {steps depth : Nat}
    {more : List Token} {text : List Char} (present : members ≠ [])
    (legible : AreLegibleMembers depth members)
    (lays : Lays (memberTokens members ++ .sign '\x7d' :: more) text)
    (enough : 2 * text.length + 1 < steps) :
    ∃ rest, readMembers steps depth (skipBlanks text) = .ok (arrangedMembers members, rest) ∧
      Lays more rest ∧ rest.length < text.length := by
  cases steps with
  | zero => cases enough
  | succ steps =>
      match members with
      | [] => exact absurd rfl present
      | [(name, last)] =>
          obtain ⟨quoted, colon, opened, lays, shorter, named⟩ := Lays.string lays
          obtain ⟨content, goes, lays, less⟩ := lays.sign rfl
          obtain ⟨after, read, lays, least⟩ :=
            readValue_of_lays last legible.1 (mayFollow_cons more (by simp)) lays
              (show 2 * content.length < steps by omega)
          obtain ⟨rest, closed, later, last⟩ := lays.sign rfl
          rw [opened]
          exact ⟨rest, readMembers_last (named steps (by omega)) goes read closed, later, by omega⟩
      | (name, first) :: second :: members =>
          simp only [memberTokens, List.append_assoc, List.cons_append] at lays
          obtain ⟨quoted, colon, opened, lays, shorter, named⟩ := Lays.string lays
          obtain ⟨content, goes, lays, less⟩ := lays.sign rfl
          obtain ⟨after, read, lays, least⟩ :=
            readValue_of_lays first legible.1 (mayFollow_cons _ (by simp)) lays
              (show 2 * content.length < steps by omega)
          obtain ⟨others, comma, lays, last⟩ := lays.sign rfl
          obtain ⟨rest, members', later, end'⟩ :=
            readMembers_of_lays (second :: members) (by simp) legible.2 lays
              (show 2 * others.length + 1 < steps by omega)
          rw [opened]
          exact ⟨rest, readMembers_more (named steps (by omega)) goes read comma members', later,
            by omega⟩

end

/-- A value is read from any text in which its tokens are laid out. -/
theorem read_of_lays {value : Value} {text : String} (legible : IsLegible nestingLimit value)
    (lays : Lays (tokens value) text.toList) : read text = .ok (arranged value) := by
  rw [← List.append_nil (tokens value)] at lays
  obtain ⟨rest, whole, ⟨blank⟩, -⟩ := readValue_of_lays value legible mayFollow_nil lays
    (show 2 * text.toList.length < 2 * text.toList.length + 2 by omega)
  simp only [read, readChars, whole, bind, Except.bind, skipBlanks_eq_nil blank]
  rfl

end Values

end Steward.Json
