/-
This file shows that no text of a value is the start of another text, as long as the value is not a
number and the other text does not end in a blank.
What is read from a text is read from every longer text as well. Only a number at the very end of a
text could go on.
-/

import Mathlib.Data.List.TakeWhile
import Steward.Proofs.JsonText

namespace Steward.Json

open Text

variable {steps more depth : Nat} {text rest suffix : List Char}

/-- Of two readings in a row that succeed, each one succeeds. -/
theorem exists_of_bind {α β : Type} {reading : Except ReadError α} {next : α → Except ReadError β}
    {value : β} (read : reading >>= next = .ok value) :
    ∃ first, reading = .ok first ∧ next first = .ok value := by
  cases reading with
  | error error => cases read
  | ok first => exact ⟨first, rfl, read⟩

section Strings

/-- Four digits are read the same, whatever follows. -/
theorem readHex4_append {code : Nat} (read : readHex4 text = .ok (code, rest)) :
    readHex4 (text ++ suffix) = .ok (code, rest ++ suffix) := by
  unfold readHex4 at read
  split at read
  · split at read
    · rename_i first second third fourth
      cases read
      simp only [List.cons_append, readHex4, first, second, third, fourth]
    · cases read
  · cases read

/-- A character written by its code is read the same, whatever follows. -/
theorem readCodeEscape_append {character : Char}
    (read : readCodeEscape text = .ok (character, rest)) :
    readCodeEscape (text ++ suffix) = .ok (character, rest ++ suffix) := by
  obtain ⟨⟨code, after⟩, first, read⟩ := exists_of_bind read
  rw [readCodeEscape, readHex4_append first]
  dsimp only [bind, Except.bind] at read ⊢
  split at read
  · cases read
  rename_i noSecond
  rw [if_neg noSecond]
  split at read
  · rename_i high
    rw [if_pos high]
    split at read
    · rename_i others
      obtain ⟨⟨low, left⟩, second, read⟩ := exists_of_bind read
      simp only [List.cons_append, readHex4_append second]
      dsimp only at read
      split at read
      · rename_i isLow
        obtain ⟨rfl, rfl⟩ := Prod.mk.inj (Except.ok.inj read)
        rw [if_pos isLow]
      · cases read
    · cases read
  · rename_i plain
    rw [if_neg plain]
    cases read
    rfl

/-- An escape is read the same, whatever follows. -/
theorem readEscape_append {character : Char} (read : readEscape text = .ok (character, rest)) :
    readEscape (text ++ suffix) = .ok (character, rest ++ suffix) := by
  unfold readEscape at read
  split at read
  iterate 8
    cases read
    rfl
  · exact readCodeEscape_append read
  · cases read
  · cases read

/-- The characters of a string are read the same, whatever follows the closing quote. -/
theorem readStringChars_append {characters : List Char} (enough : steps ≤ more)
    (read : readStringChars steps text = .ok (characters, rest)) :
    readStringChars more (text ++ suffix) = .ok (characters, rest ++ suffix) := by
  induction steps generalizing more text characters with
  | zero => cases read
  | succ steps inductionHypothesis =>
      obtain ⟨more, rfl⟩ : ∃ less, more = less + 1 := ⟨more - 1, by omega⟩
      have longer := @inductionHypothesis more
      rw [readStringChars.eq_def] at read
      dsimp only at read
      split at read
      · cases read
      · cases read
        rfl
      · obtain ⟨⟨character, after⟩, escape, read⟩ := exists_of_bind read
        obtain ⟨⟨characters, left⟩, later, read⟩ := exists_of_bind read
        cases read
        rw [List.cons_append, readStringChars_escape (readEscape_append escape),
          longer (Nat.le_of_succ_le_succ enough) later]
        rfl
      · rename_i character others quote backslash
        split at read
        · cases read
        · rename_i visible
          obtain ⟨⟨characters, left⟩, later, read⟩ := exists_of_bind read
          cases read
          rw [List.cons_append, readStringChars_plain quote backslash visible,
            longer (Nat.le_of_succ_le_succ enough) later]
          rfl

/-- A string is read the same, whatever follows the closing quote. -/
theorem readString_append {content : String} (enough : steps ≤ more)
    (read : readString steps text = .ok (content, rest)) :
    readString more (text ++ suffix) = .ok (content, rest ++ suffix) := by
  obtain ⟨⟨characters, after⟩, inner, read⟩ := exists_of_bind read
  cases read
  rw [readString, readStringChars_append enough inner]
  rfl

end Strings

section Numbers

/-- A run of digits that something ends is the same in a longer text. -/
theorem spanDigits_append_of_left {digits : List Char} (spanned : spanDigits text = (digits, rest))
    (left : rest ≠ []) : spanDigits (text ++ suffix) = (digits, rest ++ suffix) := by
  induction text generalizing digits with
  | nil =>
      cases spanned
      exact absurd rfl left
  | cons first others inductionHypothesis =>
      obtain ⟨rfl, same⟩ := Prod.mk.inj spanned
      by_cases digit : isDigit first = true
      · rw [List.dropWhile_cons_of_pos digit] at same
        have later := inductionHypothesis (Prod.ext rfl same)
        obtain ⟨run, after⟩ := Prod.mk.inj later
        simp [spanDigits, digit, run, after]
      · rw [List.dropWhile_cons_of_neg digit] at same
        simp [spanDigits, digit, ← same]

/-- Digits that have come to an end are read the same, whatever follows. -/
theorem readDigits_append {digits : List Char} (read : readDigits text = .ok (digits, rest))
    (left : rest ≠ []) : readDigits (text ++ suffix) = .ok (digits, rest ++ suffix) := by
  unfold readDigits at read ⊢
  split at read
  · cases read
  · cases read
  · rename_i empty short
    have spanned : spanDigits text = (digits, rest) := Except.ok.inj read
    rw [spanDigits_append_of_left spanned left]
    cases digits with
    | nil =>
        cases rest with
        | nil => exact absurd rfl left
        | cons next rest => exact (short next rest spanned).elim
    | cons digit digits => rfl

/-- A sign is split off the same, whatever follows. -/
theorem splitSign_append (present : text ≠ []) :
    splitSign (text ++ suffix) = ((splitSign text).1, (splitSign text).2 ++ suffix) := by
  cases text with
  | nil => exact absurd rfl present
  | cons first others =>
      by_cases minus : first = '-'
      · subst minus
        rfl
      by_cases plus : first = '+'
      · subst plus
        rfl
      · simp [splitSign, minus, plus]

/-- An exponent that has come to an end is read the same, whatever follows. -/
theorem readExponent_append {exponent : Int} (read : readExponent text = .ok (exponent, rest))
    (left : rest ≠ []) : readExponent (text ++ suffix) = .ok (exponent, rest ++ suffix) := by
  have present : text ≠ [] := by
    rintro rfl
    cases read
  unfold readExponent at read
  cases sign : splitSign text with
  | mk negative characters =>
      simp only [sign] at read
      obtain ⟨⟨digits, after⟩, taken, read⟩ := exists_of_bind read
      cases read
      simp only [readExponent, splitSign_append present, sign, readDigits_append taken left]
      rfl

/-- A fraction with its exponent that has come to an end is read the same, whatever follows. -/
theorem readScale_append {negative : Bool} {whole fraction : List Char} {number : Number}
    (suffix : List Char) (read : readScale negative whole fraction text = .ok (number, rest))
    (left : rest ≠ []) :
    readScale negative whole fraction (text ++ suffix) = .ok (number, rest ++ suffix) := by
  unfold readScale at read
  split at read
  iterate 2
    obtain ⟨⟨exponent, after⟩, scale, read⟩ := exists_of_bind read
    obtain ⟨value, made, read⟩ := exists_of_bind read
    cases read
    simp only [readScale, List.cons_append, readExponent_append scale left, bind, Except.bind, made]
    rfl
  · rename_i small great
    obtain ⟨value, made, read⟩ := exists_of_bind read
    cases read
    cases text with
    | nil => exact absurd rfl left
    | cons next others =>
        have noSmall : next ≠ 'e' := fun same => small others (congrArg (· :: others) same)
        have noGreat : next ≠ 'E' := fun same => great others (congrArg (· :: others) same)
        simp [readScale, noSmall, noGreat, made, bind, Except.bind, pure, Except.pure]

/-- A number without a sign that has come to an end is read the same, whatever follows. -/
theorem readUnsigned_append {negative : Bool} {number : Number}
    (read : readUnsigned negative text = .ok (number, rest)) (left : rest ≠ []) :
    readUnsigned negative (text ++ suffix) = .ok (number, rest ++ suffix) := by
  obtain ⟨⟨whole, after⟩, digits, read⟩ := exists_of_bind read
  dsimp only at read
  split at read
  · cases read
  rename_i plain
  split at read
  · obtain ⟨⟨fraction, after⟩, places, read⟩ := exists_of_bind read
    have present : after ≠ [] := by
      rintro rfl
      obtain ⟨value, -, read⟩ := exists_of_bind read
      cases read
      exact left rfl
    have longer := readScale_append suffix read left
    simp only [readUnsigned, readDigits_append digits (List.cons_ne_nil _ _), bind, Except.bind,
      if_neg plain, List.cons_append, readDigits_append places present, longer]
  iterate 2
    have longer := readScale_append suffix read left
    simp only [readUnsigned, readDigits_append digits (List.cons_ne_nil _ _), bind, Except.bind,
      if_neg plain]
    exact longer
  · rename_i noPoint small great
    obtain ⟨value, made, read⟩ := exists_of_bind read
    cases read
    simp only [readUnsigned, readDigits_append digits left, bind, Except.bind, if_neg plain, made]
    cases rest with
    | nil => exact absurd rfl left
    | cons next others =>
        have point : next ≠ '.' := fun same => noPoint others (congrArg (· :: others) same)
        have noSmall : next ≠ 'e' := fun same => small others (congrArg (· :: others) same)
        have noGreat : next ≠ 'E' := fun same => great others (congrArg (· :: others) same)
        simp [point, noSmall, noGreat, pure, Except.pure]

/-- A number that has come to an end is read the same, whatever follows. -/
theorem readNumber_append {number : Number} (read : readNumber text = .ok (number, rest))
    (left : rest ≠ []) : readNumber (text ++ suffix) = .ok (number, rest ++ suffix) := by
  unfold readNumber at read
  split at read
  · exact readUnsigned_append read left
  · rename_i noMinus
    cases text with
    | nil => cases read
    | cons first others =>
        have minus : first ≠ '-' := fun same => noMinus others (congrArg (· :: others) same)
        rw [List.cons_append, readNumber]
        · exact readUnsigned_append read left
        · rintro _ same
          exact minus (List.cons.inj same).1

end Numbers

section Values

/-- Blanks are skipped the same, whatever follows what is visible. -/
theorem skipBlanks_append_of_present (present : skipBlanks text ≠ []) :
    skipBlanks (text ++ suffix) = skipBlanks text ++ suffix := by
  unfold skipBlanks at present ⊢
  rw [List.dropWhile_append, if_neg]
  simpa using present

/-- What follows blanks in a text follows them in a longer one. -/
theorem skipBlanks_append_of_cons {first : Char} {after : List Char}
    (shown : skipBlanks text = first :: after) :
    skipBlanks (text ++ suffix) = first :: (after ++ suffix) := by
  rw [skipBlanks_append_of_present (by simp [shown]), shown, List.cons_append]

/-- No value is read from nothing. -/
theorem present_of_readValue {value : Value}
    (read : readValue steps depth text = .ok (value, rest)) : text ≠ [] := by
  rintro rfl
  cases steps with
  | zero => cases read
  | succ steps => cases read

theorem present_of_readItems {items : List Value}
    (read : readItems steps depth text = .ok (items, rest)) : text ≠ [] := by
  cases steps with
  | zero => cases read
  | succ steps =>
      obtain ⟨⟨item, after⟩, first, -⟩ := exists_of_bind read
      exact present_of_readValue first

theorem present_of_readMembers {members : List (String × Value)}
    (read : readMembers steps depth text = .ok (members, rest)) : text ≠ [] := by
  rintro rfl
  cases steps with
  | zero => cases read
  | succ steps => cases read

mutual

/-- A value is read from a longer text as well, unless it is a number that ends with its text. -/
theorem readValue_append (steps : Nat) {more depth : Nat} {text rest : List Char}
    {value : Value} (suffix : List Char) (enough : steps ≤ more)
    (read : readValue steps depth text = .ok (value, rest))
    (ended : ∀ number, value = .number number → rest ≠ []) :
    readValue more depth (text ++ suffix) = .ok (value, rest ++ suffix) := by
  match steps with
  | 0 => cases read
  | steps + 1 =>
      obtain ⟨more, rfl⟩ : ∃ less, more = less + 1 := ⟨more - 1, by omega⟩
      have less : steps ≤ more := Nat.le_of_succ_le_succ enough
      rw [readValue.eq_def] at read
      dsimp only at read
      split at read
      · cases read
      iterate 3
        cases read
        rfl
      · obtain ⟨⟨content, after⟩, inner, read⟩ := exists_of_bind read
        cases read
        simp only [List.cons_append, readValue, readString_append less inner]
        rfl
      · split at read
        · cases read
        rename_i nested
        have nested : 1 < depth := Nat.lt_of_not_le nested
        split at read
        · rename_i closed
          cases read
          exact readValue_array_nil nested (skipBlanks_append_of_cons closed)
        · obtain ⟨⟨items, after⟩, inner, read⟩ := exists_of_bind read
          cases read
          have longer := readItems_append steps suffix less inner
          rw [← skipBlanks_append_of_present (present_of_readItems inner)] at longer
          exact readValue_array nested longer
      · split at read
        · cases read
        rename_i nested
        have nested : 1 < depth := Nat.lt_of_not_le nested
        split at read
        · rename_i closed
          cases read
          exact readValue_object_nil nested (skipBlanks_append_of_cons closed)
        · obtain ⟨⟨members, after⟩, inner, read⟩ := exists_of_bind read
          cases read
          have longer := readMembers_append steps suffix less inner
          rw [← skipBlanks_append_of_present (present_of_readMembers inner)] at longer
          exact readValue_object nested longer
      · rename_i first others _ _ _ _ _ _
        split at read
        · rename_i begins
          obtain ⟨⟨number, after⟩, inner, read⟩ := exists_of_bind read
          cases read
          exact readValue_of_number (readNumber_append inner (ended number rfl))
            ⟨first, others ++ suffix, rfl, begins⟩
        · cases read

/-- The items of an array are read the same, whatever follows the closing bracket. -/
theorem readItems_append (steps : Nat) {more depth : Nat} {text rest : List Char}
    {items : List Value} (suffix : List Char) (enough : steps ≤ more)
    (read : readItems steps depth text = .ok (items, rest)) :
    readItems more depth (text ++ suffix) = .ok (items, rest ++ suffix) := by
  match steps with
  | 0 => cases read
  | steps + 1 =>
      obtain ⟨more, rfl⟩ : ∃ less, more = less + 1 := ⟨more - 1, by omega⟩
      have less : steps ≤ more := Nat.le_of_succ_le_succ enough
      obtain ⟨⟨item, after⟩, first, read⟩ := exists_of_bind read
      dsimp only at read
      have ended : skipBlanks after ≠ [] → ∀ number, item = .number number → after ≠ [] := by
        rintro present number - rfl
        exact present rfl
      split at read
      · rename_i closed
        cases read
        exact readItems_last (readValue_append steps suffix less first (ended (by simp [closed])))
          (skipBlanks_append_of_cons closed)
      · rename_i goes
        obtain ⟨⟨items, after⟩, later, read⟩ := exists_of_bind read
        cases read
        have longer := readItems_append steps suffix less later
        rw [← skipBlanks_append_of_present (present_of_readItems later)] at longer
        exact readItems_more (readValue_append steps suffix less first (ended (by simp [goes])))
          (skipBlanks_append_of_cons goes) longer
      · cases read
      · cases read

/-- The members of an object are read the same, whatever follows the closing brace. -/
theorem readMembers_append (steps : Nat) {more depth : Nat} {text rest : List Char}
    {members : List (String × Value)} (suffix : List Char) (enough : steps ≤ more)
    (read : readMembers steps depth text = .ok (members, rest)) :
    readMembers more depth (text ++ suffix) = .ok (members, rest ++ suffix) := by
  match steps with
  | 0 => cases read
  | steps + 1 =>
      obtain ⟨more, rfl⟩ : ∃ less, more = less + 1 := ⟨more - 1, by omega⟩
      have less : steps ≤ more := Nat.le_of_succ_le_succ enough
      rw [readMembers.eq_def] at read
      dsimp only at read
      split at read
      · obtain ⟨⟨name, colon⟩, named, read⟩ := exists_of_bind read
        dsimp only at read
        split at read
        · rename_i goes
          obtain ⟨⟨value, after⟩, first, read⟩ := exists_of_bind read
          dsimp only at read
          have ended : skipBlanks after ≠ [] → ∀ number, value = .number number → after ≠ [] := by
            rintro present number - rfl
            exact present rfl
          have longer (present : skipBlanks after ≠ []) :=
            readValue_append steps suffix less first (ended present)
          rw [← skipBlanks_append_of_present (present_of_readValue first)] at longer
          split at read
          · rename_i closed
            cases read
            exact readMembers_last (readString_append less named) (skipBlanks_append_of_cons goes)
              (longer (by simp [closed])) (skipBlanks_append_of_cons closed)
          · rename_i comma
            obtain ⟨⟨members, last⟩, later, read⟩ := exists_of_bind read
            cases read
            have others := readMembers_append steps suffix less later
            rw [← skipBlanks_append_of_present (present_of_readMembers later)] at others
            exact readMembers_more (readString_append less named) (skipBlanks_append_of_cons goes)
              (longer (by simp [comma])) (skipBlanks_append_of_cons comma) others
          · cases read
          · cases read
        · cases read
        · cases read
      · cases read
      · cases read

end

/-- Just the values that are numbers begin as numbers do. -/
theorem beginsNumber_iff_of_readValue {first : Char} {others : List Char} {value : Value}
    (read : readValue steps depth (first :: others) = .ok (value, rest)) :
    BeginsNumber first ↔ ∃ number, value = .number number := by
  cases steps with
  | zero => cases read
  | succ steps =>
      rw [readValue.eq_def] at read
      dsimp only at read
      split at read
      · rename_i empty
        cases empty
      iterate 3
        rename_i same
        cases same
        cases read
        exact ⟨fun begins => absurd rfl (begins.ne (by decide) rfl), nofun⟩
      · rename_i same
        cases same
        obtain ⟨⟨content, after⟩, -, read⟩ := exists_of_bind read
        cases read
        exact ⟨fun begins => absurd rfl (begins.ne (by decide) rfl), nofun⟩
      iterate 2
        rename_i same
        cases same
        split at read
        · cases read
        split at read
        · cases read
          exact ⟨fun begins => absurd rfl (begins.ne (by decide) rfl), nofun⟩
        · obtain ⟨⟨content, after⟩, -, read⟩ := exists_of_bind read
          cases read
          exact ⟨fun begins => absurd rfl (begins.ne (by decide) rfl), nofun⟩
      · rename_i same
        cases same
        split at read
        · rename_i begins
          obtain ⟨⟨number, after⟩, -, read⟩ := exists_of_bind read
          cases read
          exact ⟨fun _ => ⟨number, rfl⟩, fun _ => begins⟩
        · cases read

/-- After the one value of a text nothing but blanks follows. -/
theorem exists_of_readChars {value : Value} (read : readChars text = .ok value) :
    ∃ rest, readValue (2 * text.length + 2) nestingLimit (skipBlanks text) = .ok (value, rest) ∧
      skipBlanks rest = [] := by
  obtain ⟨⟨value, rest⟩, whole, read⟩ := exists_of_bind read
  dsimp only at read
  split at read
  · rename_i blank
    cases read
    exact ⟨rest, whole, blank⟩
  · cases read

/-- Nothing is read from a proper prefix of a text that does not end in a blank, unless the text
is a number. -/
theorem read_of_proper_prefix {text part : String} {value : Value}
    (read : Json.read text = .ok value) (compound : ∀ number, value ≠ .number number)
    (ends : ∀ last ∈ text.toList.getLast?, isBlankChar last = false)
    (starts : part.toList <+: text.toList) (proper : part ≠ text) :
    ∃ error, Json.read part = .error error := by
  cases early : Json.read part with
  | error error => exact ⟨error, rfl⟩
  | ok other =>
      exfalso
      obtain ⟨suffix, split⟩ := starts
      obtain ⟨rest, whole, -⟩ := exists_of_readChars early
      obtain ⟨after, longer, blank⟩ := exists_of_readChars read
      have notNumber : ∀ number, other ≠ .number number := by
        rintro number rfl
        have present : skipBlanks part.toList ≠ [] := present_of_readValue whole
        rw [← split, skipBlanks_append_of_present present] at longer
        obtain ⟨first, others, shown⟩ := List.exists_cons_of_ne_nil present
        rw [shown] at whole longer
        have begins := (beginsNumber_iff_of_readValue whole).2 ⟨number, rfl⟩
        obtain ⟨number, same⟩ := (beginsNumber_iff_of_readValue longer).1 begins
        exact compound number same
      have shorter : part.toList.length ≤ text.toList.length := by
        rw [← split, List.length_append]
        exact Nat.le_add_right _ _
      have extended := readValue_append _ suffix
        (show _ ≤ 2 * text.toList.length + 2 by omega) whole
        fun number same => absurd same (notNumber number)
      rw [← skipBlanks_append_of_present (present_of_readValue whole), split, longer] at extended
      cases extended
      have blanks := List.dropWhile_eq_nil_iff.1 blank
      cases shape : suffix.getLast? with
      | none =>
          rw [List.getLast?_eq_none_iff.1 shape, List.append_nil] at split
          exact proper (String.toList_inj.1 split)
      | some last =>
          have visible := ends last (by rw [← split, List.getLast?_append, shape]; rfl)
          have inside : last ∈ rest ++ suffix :=
            List.mem_append_right _ (List.mem_of_getLast? shape)
          exact Bool.false_ne_true (visible.symm.trans (blanks last inside))

end Values

end Steward.Json
