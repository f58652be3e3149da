/-
This file says which characters are blank, cuts them from the ends of a text, and looks for one
text inside another.
-/

namespace Steward.Text

/-- The characters with the Unicode property White_Space. -/
def isBlankChar (character : Char) : Bool :=
  let code := character.toNat
  (0x09 ≤ code && code ≤ 0x0D) || code == 0x20 || code == 0x85 || code == 0xA0 ||
    code == 0x1680 || (0x2000 ≤ code && code ≤ 0x200A) || code == 0x2028 ||
    code == 0x2029 || code == 0x202F || code == 0x205F || code == 0x3000

/-- A text is blank when it holds nothing but blank characters. -/
def isBlank (text : String) : Bool :=
  text.toList.all isBlankChar

def trimStartChars (characters : List Char) : List Char :=
  characters.dropWhile isBlankChar

def trimEndChars (characters : List Char) : List Char :=
  (characters.reverse.dropWhile isBlankChar).reverse

/-- Cuts the blank characters from both ends. -/
def trim (text : String) : String :=
  String.ofList (trimEndChars (trimStartChars text.toList))

def hasPartChars (part : List Char) : List Char → Bool
  | [] => part.isEmpty
  | first :: rest => part.isPrefixOf (first :: rest) || hasPartChars part rest

/-- Whether a text stands somewhere within another. -/
def hasPart (text part : String) : Bool :=
  hasPartChars part.toList text.toList

theorem hasPartChars_iff (part characters : List Char) :
    hasPartChars part characters = true ↔ part <:+: characters := by
  induction characters with
  | nil => simp [hasPartChars]
  | cons first rest inductionHypothesis =>
      rw [hasPartChars, Bool.or_eq_true, inductionHypothesis, List.isPrefixOf_iff_prefix,
        List.infix_cons_iff]

end Steward.Text
