/-
This file brings domain names to the one form in which they are compared: letters in lower
case, and labels beyond ASCII in their ASCII form.
-/

import Steward.Url.Punycode

namespace Steward.Url

/-- The characters that no domain name holds: controls, the space and the marks that end or
divide the parts of an address. -/
def isForbiddenInDomain (character : Char) : Bool :=
  character.toNat ≤ 0x20 || character.toNat = 0x7F ||
    character ∈ ['%', '#', '/', ':', '<', '>', '?', '@', '[', '\\', ']', '^', '|']

/-- The lower-case form of a letter of the scripts of Europe; wide forms of ASCII become
narrow ones, and the full stops of other scripts become dots. -/
def foldedChar (character : Char) : List Char :=
  let code := character.toNat
  let shifted := fun (distance : Nat) => [Char.ofNat (code + distance)]
  let next := if code % 2 = 0 then [Char.ofNat (code + 1)] else [character]
  let nextOdd := if code % 2 = 1 then [Char.ofNat (code + 1)] else [character]
  if code < 0x80 then [character.toLower]
  else if code = 0xAD ∨ code = 0x200B ∨ code = 0x2060 ∨ code = 0xFEFF then []
  else if 0xC0 ≤ code ∧ code ≤ 0xDE ∧ code ≠ 0xD7 then shifted 0x20
  else if 0x100 ≤ code ∧ code ≤ 0x12F then next
  else if 0x132 ≤ code ∧ code ≤ 0x137 then next
  else if 0x139 ≤ code ∧ code ≤ 0x148 then nextOdd
  else if 0x14A ≤ code ∧ code ≤ 0x177 then next
  else if code = 0x178 then ['\u00ff']
  else if 0x179 ≤ code ∧ code ≤ 0x17E then nextOdd
  else if 0x391 ≤ code ∧ code ≤ 0x3A9 then shifted 0x20
  else if 0x400 ≤ code ∧ code ≤ 0x40F then shifted 0x50
  else if 0x410 ≤ code ∧ code ≤ 0x42F then shifted 0x20
  else if 0x460 ≤ code ∧ code ≤ 0x481 then next
  else if 0x1E00 ≤ code ∧ code ≤ 0x1E95 then next
  else if 0x1EA0 ≤ code ∧ code ≤ 0x1EFF then next
  else if code = 0x3002 ∨ code = 0xFF0E ∨ code = 0xFF61 then ['.']
  else if 0xFF01 ≤ code ∧ code ≤ 0xFF5E then [(Char.ofNat (code - 0xFEE0)).toLower]
  else [character]

/-- Characters that have no place in a name: controls, separators, private characters and the
mark of a lost character. -/
def isUnassignable (character : Char) : Bool :=
  let code := character.toNat
  (0x80 ≤ code && code ≤ 0xA0) || (0x2000 ≤ code && code ≤ 0x200A) ||
    (0x200E ≤ code && code ≤ 0x200F) || (0x2028 ≤ code && code ≤ 0x202F) || code = 0x205F ||
    code = 0x3000 || (0xE000 ≤ code && code ≤ 0xF8FF) || (0xFFF9 ≤ code && code ≤ 0xFFFF) ||
    0xE0000 ≤ code

def isAscii (label : List Char) : Bool :=
  label.all fun character => character.toNat < 0x80

/-- The ASCII form of one label, whose letters are in lower case already. -/
def asciiLabel? (label : List Char) : Option (List Char) :=
  match label with
  | 'x' :: 'n' :: '-' :: '-' :: encoded => do
      let decoded ← Punycode.decode? encoded
      if isAscii decoded ∨ decoded.flatMap foldedChar ≠ decoded ∨ decoded.any isUnassignable then
        none
      else some label
  | _ =>
      if isAscii label then some label
      else if label.any isUnassignable then none
      else some (['x', 'n', '-', '-'] ++ Punycode.encode label)

def splitOn (mark : Char) (characters : List Char) : List (List Char) :=
  characters.foldr
    (fun character parts =>
      if character = mark then [] :: parts
      else
        match parts with
        | [] => [[character]]
        | first :: rest => (character :: first) :: rest)
    [[]]

/-- The domain name in its ASCII form, if it is a domain name. -/
def asciiDomain? (characters : List Char) : Option (List Char) := do
  let folded := characters.flatMap foldedChar
  if folded.any isForbiddenInDomain then none
  let labels ← (splitOn '.' folded).mapM asciiLabel?
  return ['.'].intercalate labels

end Steward.Url
