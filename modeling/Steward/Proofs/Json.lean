/-
This file shows that JSON is read back as it was written.
A value is written as one of the texts that its tokens can be laid out in, without blanks.
-/

import Steward.Proofs.JsonText

namespace Steward.Json

open Text Value

section Values

mutual

/-- A value has a text that can be read where `depth` containers may be nested, less one: its
numbers are whole and of at most 64 bits, and members stand in the order of their names. -/
def Fits (depth : Nat) : Value → Prop
  | .null | .bool _ | .string _ => True
  | .number (.integer value) => -Word.signedBound ≤ value ∧ value ≤ Word.max
  | .number (.real _) => False
  | .array items => 1 < depth ∧ FitItems (depth - 1) items
  | .object members =>
      1 < depth ∧ Value.ofMembers members = .object members ∧ FitMembers (depth - 1) members

def FitItems (depth : Nat) : List Value → Prop
  | [] => True
  | item :: rest => Fits depth item ∧ FitItems depth rest

def FitMembers (depth : Nat) : List (String × Value) → Prop
  | [] => True
  | (_, value) :: rest => Fits depth value ∧ FitMembers depth rest

end

/-- Items fit when each of them does. -/
theorem fitItems_iff {depth : Nat} {items : List Value} :
    FitItems depth items ↔ ∀ item ∈ items, Fits depth item := by
  induction items with
  | nil => simp [FitItems]
  | cons item items inductionHypothesis => simp [FitItems, inductionHypothesis]

/-- Members fit when the value of each does. -/
theorem fitMembers_iff {depth : Nat} {members : List (String × Value)} :
    FitMembers depth members ↔ ∀ member ∈ members, Fits depth member.2 := by
  induction members with
  | nil => simp [FitMembers]
  | cons member members inductionHypothesis => simp [FitMembers, inductionHypothesis]

/-- A list of entries in the order of their keys. -/
abbrev Ascending {α : Type} (entries : List (String × α)) : Prop :=
  entries.Pairwise fun earlier later => compare earlier.1 later.1 = .lt

/-- A name after all others is put at the end. -/
theorem insertEntries_of_above {α : Type} {name : String} {value : α} {kept : List (String × α)}
    (above : ∀ member ∈ kept, compare member.1 name = .lt) :
    Table.insertEntries name value kept = kept ++ [(name, value)] := by
  induction kept with
  | nil => rfl
  | cons first rest inductionHypothesis =>
      have after : compare name first.1 = .gt := Std.OrientedCmp.gt_of_lt (above first (by simp))
      have later := inductionHypothesis fun member inside => above member (by simp [inside])
      simp only [Table.insertEntries, after, later, List.cons_append]

/-- Members in the order of their names keep that order when they are put in one by one. -/
theorem foldl_insertEntries_of_ascending {α : Type} {kept members : List (String × α)}
    (ascending : Ascending (kept ++ members)) :
    members.foldl (fun kept member => Table.insertEntries member.1 member.2 kept) kept =
      kept ++ members := by
  induction members generalizing kept with
  | nil => simp
  | cons member members inductionHypothesis =>
      obtain ⟨-, -, across⟩ := List.pairwise_append.1 ascending
      have above : ∀ earlier ∈ kept, compare earlier.1 member.1 = .lt :=
        fun earlier inside => across earlier inside member (by simp)
      rw [List.foldl_cons, insertEntries_of_above above]
      rw [List.append_cons kept member members]
      exact inductionHypothesis (by simpa using ascending)

/-- Members that are put in one by one stand in the order of their names. -/
theorem ascending_foldl_insertEntries {kept members : List (String × Value)}
    (ascending : Ascending kept) : Ascending
      (members.foldl (fun kept member => Table.insertEntries member.1 member.2 kept) kept) := by
  induction members generalizing kept with
  | nil => exact ascending
  | cons member members inductionHypothesis =>
      exact inductionHypothesis (Table.sorted_insertEntries ascending)

/-- Nothing stands among the members that was not put in. -/
theorem mem_foldl_insertEntries {kept members : List (String × Value)} {entry : String × Value}
    (inside : entry ∈ members.foldl
      (fun kept member => Table.insertEntries member.1 member.2 kept) kept) :
    entry ∈ kept ∨ entry ∈ members := by
  induction members generalizing kept with
  | nil => exact .inl inside
  | cons member members inductionHypothesis =>
      rcases inductionHypothesis inside with early | late
      · rcases Table.mem_insertEntries early with same | old
        · exact .inr (by simp [same])
        · exact .inl old
      · exact .inr (by simp [late])

/-- An object of values that can be read can be read one level further up. -/
theorem fits_ofMembers {depth : Nat} {members : List (String × Value)} (nested : 1 < depth)
    (fits : ∀ member ∈ members, Fits (depth - 1) member.2) : Fits depth (.ofMembers members) := by
  have ascending : Ascending (members.foldl
      (fun kept member => Table.insertEntries member.1 member.2 kept) []) :=
    ascending_foldl_insertEntries List.Pairwise.nil
  refine ⟨nested, ?_, fitMembers_iff.2 fun member inside => ?_⟩
  · exact congrArg Value.object (foldl_insertEntries_of_ascending ascending)
  · rcases mem_foldl_insertEntries inside with old | given
    · cases old
    · exact fits member given

theorem fits_array {depth : Nat} {items : List Value} (nested : 1 < depth)
    (fits : ∀ item ∈ items, Fits (depth - 1) item) : Fits depth (.array items) :=
  ⟨nested, fitItems_iff.2 fits⟩

theorem fits_ofStrings {depth : Nat} {texts : List String} (nested : 1 < depth) :
    Fits depth (.ofStrings texts) := by
  apply fits_array nested
  intro item inside
  obtain ⟨text, -, rfl⟩ := List.mem_map.1 inside
  trivial

end Values

section Written

/-- The code of a control character begins with two zeros. -/
theorem controlCode_eq {code : Nat} (small : code < 0x20) :
    List.replicate (4 - (Nat.toDigits 16 code).length) '0' ++ Nat.toDigits 16 code =
      ['0', '0', Nat.digitChar (code / 16), Nat.digitChar (code % 16)] := by
  by_cases single : code < 16
  · have zero : code / 16 = 0 := by omega
    have same : code % 16 = code := by omega
    rw [Nat.toDigits_of_lt_base single, zero, same]
    rfl
  · have high : code / 16 < 16 := by omega
    rw [Nat.toDigits_of_base_le (by decide) (by omega), Nat.toDigits_of_lt_base high]
    rfl

/-- A character is written in one of its forms. -/
theorem spells_escapedChar (character : Char) : Spells character (escapedChar character) := by
  unfold escapedChar
  split
  · rename_i same
    exact .letter (by simp [same, escapeLetters])
  rename_i quote
  split
  · rename_i same
    exact .letter (by simp [same, escapeLetters])
  rename_i backslash
  iterate 5
    split
    · rename_i same
      exact .letter (by simp [same, escapeLetters])
  split
  · rename_i small
    have digits := controlCode_eq small
    have zero : IsHexDigit 0 '0' := ⟨by decide, .inl rfl⟩
    have code : IsCode (((0 * 16 + 0) * 16 + character.toNat / 16) * 16 + character.toNat % 16)
        ['0', '0', Nat.digitChar (character.toNat / 16), Nat.digitChar (character.toNat % 16)] :=
      .digits zero zero ⟨by omega, .inl rfl⟩ ⟨by omega, .inl rfl⟩
    have whole : ((0 * 16 + 0) * 16 + character.toNat / 16) * 16 + character.toNat % 16 =
        character.toNat := by omega
    rw [whole] at code
    simp only [List.append_assoc, digits]
    exact .code code
  · rename_i visible
    exact .plain quote backslash (Nat.not_lt.1 visible)

/-- The escaped form of a text spells it. -/
theorem spellsAll_escaped (characters : List Char) :
    SpellsAll characters (characters.flatMap escapedChar) := by
  induction characters with
  | nil => exact .nil
  | cons character characters inductionHypothesis =>
      rw [List.flatMap_cons]
      exact .cons (spells_escapedChar character) inductionHypothesis

variable {more : List Token} {rest : List Char}

/-- A token needs no blanks before it. -/
theorem Lays.token {form : List Char} (later : Lays more rest) (token : Token)
    (isForm : token.IsForm form) : Lays (token :: more) (form ++ rest) :=
  .cons (show AreBlanks [] from nofun) isForm later

theorem Lays.stringText (later : Lays more rest) (text : String) :
    Lays (.string text :: more) (stringText text ++ rest) :=
  later.token (.string text) ⟨_, spellsAll_escaped text.toList, rfl⟩

mutual

/-- The characters of a value lay out its tokens. -/
theorem lays_chars (value : Value) {more : List Token} {rest : List Char}
    (later : Lays more rest) : Lays (tokens value ++ more) (chars value ++ rest) := by
  match value with
  | .null => exact later.token (.word _) rfl
  | .bool true => exact later.token (.word _) rfl
  | .bool false => exact later.token (.word _) rfl
  | .number content => exact later.token (.number content) rfl
  | .string text => exact later.stringText text
  | .array items =>
      have closed : Lays (.sign ']' :: more) (']' :: rest) := later.token (.sign ']') rfl
      have inner := lays_itemChars items closed
      simp only [tokens, chars, List.cons_append, List.append_assoc, List.nil_append]
      exact inner.token (.sign '[') rfl
  | .object members =>
      have closed : Lays (.sign '\x7d' :: more) ('\x7d' :: rest) :=
        later.token (.sign '\x7d') rfl
      have inner := lays_memberChars members closed
      simp only [tokens, chars, List.cons_append, List.append_assoc, List.nil_append]
      exact inner.token (.sign '\x7b') rfl

/-- The characters of the items lay out their tokens. -/
theorem lays_itemChars (items : List Value) {more : List Token} {rest : List Char}
    (later : Lays more rest) : Lays (itemTokens items ++ more) (itemChars items ++ rest) := by
  match items with
  | [] => exact later
  | [last] => exact lays_chars last later
  | first :: second :: items =>
      have others := lays_itemChars (second :: items) later
      simp only [itemTokens, itemChars, List.cons_append, List.append_assoc]
      exact lays_chars first (others.token (.sign ',') rfl)

/-- The characters of the members lay out their tokens. -/
theorem lays_memberChars (members : List (String × Value)) {more : List Token} {rest : List Char}
    (later : Lays more rest) :
    Lays (memberTokens members ++ more) (memberChars members ++ rest) := by
  match members with
  | [] => exact later
  | [(name, last)] =>
      have value := (lays_chars last later).token (.sign ':') rfl
      simp only [memberTokens, memberChars, List.cons_append, List.append_assoc]
      exact value.stringText name
  | (name, first) :: second :: members =>
      have others := (lays_memberChars (second :: members) later).token (.sign ',') rfl
      have value := (lays_chars first others).token (.sign ':') rfl
      simp only [memberTokens, memberChars, List.cons_append, List.append_assoc]
      exact value.stringText name

end

/-- Members that stand in the order of their names have names of their own. -/
theorem nodup_of_ofMembers_eq {members : List (String × Value)}
    (ordered : Value.ofMembers members = .object members) : (members.map Prod.fst).Nodup := by
  have ascending : Ascending (members.foldl
      (fun kept member => Table.insertEntries member.1 member.2 kept) []) :=
    ascending_foldl_insertEntries List.Pairwise.nil
  rw [Value.object.inj ordered] at ascending
  exact Table.nodup_of_sorted ascending

mutual

/-- A value whose members stand in order can be read, and is not changed by that. -/
theorem legible_of_fits (value : Value) {depth : Nat} (fits : Fits depth value) :
    IsLegible depth value ∧ arranged value = value := by
  match value with
  | .null | .bool _ | .string _ => exact ⟨trivial, rfl⟩
  | .number (.integer _) => exact ⟨fits, rfl⟩
  | .number (.real _) => exact fits.elim
  | .array items =>
      obtain ⟨nested, inner⟩ := fits
      obtain ⟨legible, same⟩ := legible_of_fitItems items inner
      exact ⟨⟨nested, legible⟩, congrArg Value.array same⟩
  | .object members =>
      obtain ⟨nested, ordered, inner⟩ := fits
      obtain ⟨legible, same⟩ := legible_of_fitMembers members inner
      refine ⟨⟨nested, nodup_of_ofMembers_eq ordered, legible⟩, ?_⟩
      rw [arranged, same, ordered]

/-- Items that fit can be read, and stand in order already. -/
theorem legible_of_fitItems (items : List Value) {depth : Nat} (fits : FitItems depth items) :
    AreLegible depth items ∧ arrangedItems items = items := by
  match items with
  | [] => exact ⟨trivial, rfl⟩
  | item :: items =>
      obtain ⟨first, same⟩ := legible_of_fits item fits.1
      obtain ⟨rest, others⟩ := legible_of_fitItems items fits.2
      exact ⟨⟨first, rest⟩, by rw [arrangedItems, same, others]⟩

/-- Members that fit can be read, and stand in order already. -/
theorem legible_of_fitMembers (members : List (String × Value)) {depth : Nat}
    (fits : FitMembers depth members) :
    AreLegibleMembers depth members ∧ arrangedMembers members = members := by
  match members with
  | [] => exact ⟨trivial, rfl⟩
  | (name, value) :: members =>
      obtain ⟨first, same⟩ := legible_of_fits value fits.1
      obtain ⟨rest, others⟩ := legible_of_fitMembers members fits.2
      exact ⟨⟨first, rest⟩, by rw [arrangedMembers, same, others]⟩

end

/-- A value is written as one of its texts. -/
theorem lays_render (value : Value) : Lays (tokens value) value.render.toList := by
  rw [render, String.toList_ofList, ← List.append_nil (tokens value), ← List.append_nil (chars _)]
  exact lays_chars value (.nil (show AreBlanks [] from nofun))

/-- A value is read back from its text. -/
theorem read_render {value : Value} (fits : Fits nestingLimit value) :
    read value.render = .ok value := by
  obtain ⟨legible, same⟩ := legible_of_fits value fits
  rw [read_of_lays legible (lays_render value), same]

end Written

end Steward.Json
