/-
This file reads the hosts of addresses: domain names and the addresses of both versions of the
internet protocol.
-/

import Steward.Url.Domain
import Steward.Url.Percent

namespace Steward.Url

open Text

/-- Why a text is not an address. -/
inductive UrlError where
  | emptyHost
  | invalidDomainName
  | invalidPort
  | invalidAddress4
  | invalidAddress6
  | invalidDomainCharacter
  | noScheme
  deriving DecidableEq, Repr

def UrlError.message : UrlError → String
  | .emptyHost => "empty host"
  | .invalidDomainName => "invalid international domain name"
  | .invalidPort => "invalid port number"
  | .invalidAddress4 => "invalid IPv4 address"
  | .invalidAddress6 => "invalid IPv6 address"
  | .invalidDomainCharacter => "invalid domain character"
  | .noScheme => "relative URL without a base"

inductive Host where
  | domain (name : String)
  | address4 (number : Nat)
  | address6 (pieces : List Nat)
  deriving DecidableEq, Repr

section Address4

/-- The number that a part of an address stands for, in base sixteen after a mark, in base
eight after a zero, and else in base ten. -/
def partNumber? (part : List Char) : Option Nat :=
  let inBase := fun (base : Nat) (digits : List Char) =>
    digits.foldl
      (fun value character => do
        let value ← value
        let digit ← hexDigit? character
        if digit < base then some (base * value + digit) else none)
      (some 0)
  match part with
  | [] => none
  | '0' :: 'x' :: digits | '0' :: 'X' :: digits => inBase 16 digits
  | '0' :: digit :: digits => inBase 8 (digit :: digits)
  | digits => inBase 10 digits

/-- A name whose last part is a number is an address. -/
def endsInNumber (name : List Char) : Bool :=
  let last := match (splitOn '.' name).reverse with
    | [] :: last :: _ => last
    | [] :: [] => []
    | last :: _ => last
    | [] => []
  (last ≠ [] && last.all isDigit) || (partNumber? last).isSome

def readAddress4 (name : List Char) : Except UrlError Nat :=
  let parts := splitOn '.' name
  let parts := if parts.getLast? = some [] then parts.dropLast else parts
  match parts.mapM partNumber? with
  | none => .error .invalidAddress4
  | some numbers =>
      let leading := numbers.dropLast
      let last := numbers.getLast?.getD 0
      if 4 < parts.length ∨ Nat.pow 256 (4 - leading.length) ≤ last ∨ leading.any (255 < ·) then
        .error .invalidAddress4
      else
        .ok (leading.foldl (fun value number => value * 256 + number) 0 *
          Nat.pow 256 (4 - leading.length) + last)

def address4Text (number : Nat) : List Char :=
  decimal (number / 0x1000000 % 0x100) ++ '.' :: decimal (number / 0x10000 % 0x100) ++
    '.' :: decimal (number / 0x100 % 0x100) ++ '.' :: decimal (number % 0x100)

end Address4

section Address6

/-- Four decimal parts of at most 255 each, without leading zeros, as two pieces. -/
def readTail4 (characters : List Char) : Option (List Nat) :=
  let part? := fun (digits : List Char) =>
    if digits = [] ∨ ¬ digits.all isDigit ∨ (1 < digits.length ∧ digits.head? = some '0') ∨
        255 < digitsValue digits then none
    else some (digitsValue digits)
  match (splitOn '.' characters).mapM part? with
  | some [first, second, third, fourth] => some [first * 256 + second, third * 256 + fourth]
  | _ => none

/-- A piece of one to four hexadecimal digits. -/
def readPiece (digits : List Char) : Option Nat :=
  if digits = [] ∨ 4 < digits.length then none
  else
    digits.foldl
      (fun value character => do
        let value ← value
        let digit ← hexDigit? character
        some (16 * value + digit))
      (some 0)

/-- Pieces between colons; an address of the older version may stand in place of the last two. -/
def readPieces (characters : List Char) : Option (List Nat) :=
  if characters = [] then some []
  else
    let parts := splitOn ':' characters
    let last := parts.getLast?.getD []
    if '.' ∈ last then do
      let leading ← parts.dropLast.mapM readPiece
      let tail ← readTail4 last
      return leading ++ tail
    else parts.mapM readPiece

/-- The two sides of the first double colon, if there is one. -/
def splitDoubleColon : List Char → Option (List Char × List Char)
  | ':' :: ':' :: rest => some ([], rest)
  | first :: rest => (splitDoubleColon rest).map fun (left, right) => (first :: left, right)
  | [] => none

/-- The eight pieces of an address; a double colon stands for one or more zeros. -/
def readAddress6 (characters : List Char) : Except UrlError (List Nat) :=
  let pieces := match splitDoubleColon characters with
    | none => readPieces characters
    | some (left, right) => do
        if '.' ∈ left then none
        let left ← readPieces left
        let right ← readPieces right
        let given := left.length + right.length
        if given ≤ 7 then some (left ++ List.replicate (8 - given) 0 ++ right) else none
  match pieces with
  | some pieces => if pieces.length = 8 then .ok pieces else .error .invalidAddress6
  | none => .error .invalidAddress6

/-- The start and length of the longest run of at least two zeros, the first of equal ones. -/
def longestZeros (pieces : List Nat) : Option (Nat × Nat) :=
  let runs := (List.range pieces.length).map fun start =>
    (start, ((pieces.drop start).takeWhile (· = 0)).length)
  let longest := runs.foldl
    (fun (best : Nat × Nat) run => if best.2 < run.2 then run else best) (0, 1)
  if longest.2 < 2 then none else some longest

def piecesText (pieces : List Nat) : List Char :=
  [':'].intercalate (pieces.map (Nat.toDigits 16))

def address6Text (pieces : List Nat) : List Char :=
  match longestZeros pieces with
  | none => piecesText pieces
  | some (start, length) =>
      piecesText (pieces.take start) ++ [':', ':'] ++ piecesText (pieces.drop (start + length))

end Address6

namespace Host

def text : Host → String
  | .domain name => name
  | .address4 number => String.ofList (address4Text number)
  | .address6 pieces => String.ofList ('[' :: (address6Text pieces ++ [']']))

/-- An address in square brackets. -/
def readBracketed (characters : List Char) : Except UrlError Host :=
  if characters.getLast? = some ']' then
    (readAddress6 (characters.drop 1).dropLast).map .address6
  else .error .invalidAddress6

/-- The host of a scheme whose hosts are names on the internet. -/
def read (characters : List Char) : Except UrlError Host :=
  if characters.head? = some '[' then readBracketed characters
  else
    match (decode? characters).bind asciiDomain? with
    | none => .error .invalidDomainName
    | some [] => .error .emptyHost
    | some name =>
        if endsInNumber name then (readAddress4 name).map .address4
        else .ok (.domain (String.ofList name))

/-- The host of any other scheme, which is kept as it is. -/
def readOpaque (characters : List Char) : Except UrlError Host :=
  if characters.head? = some '[' then readBracketed characters
  else if characters.any fun character =>
      character ∈ ['\x00', '\t', '\n', '\r', ' ', '#', '/', ':', '<', '>', '?', '@', '[', '\\',
        ']', '^', '|'] then
    .error .invalidDomainCharacter
  else .ok (.domain (String.ofList (encode isControl characters)))

end Host

end Steward.Url
