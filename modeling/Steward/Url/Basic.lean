/-
This file reads web addresses into their parts and writes them in their normal form.
-/

import Steward.Text.Basic
import Steward.Url.Host

namespace Steward

open Text

namespace Url

/-- Schemes with a host on the internet and a default port, the scheme of local files, and all
others. -/
inductive SchemeClass where
  | web
  | file
  | other
  deriving DecidableEq, Repr

def schemeClass (scheme : String) : SchemeClass :=
  if scheme ∈ ["http", "https", "ws", "wss", "ftp"] then .web
  else if scheme = "file" then .file
  else .other

def defaultPort? (scheme : String) : Option Nat :=
  if scheme = "http" ∨ scheme = "ws" then some 80
  else if scheme = "https" ∨ scheme = "wss" then some 443
  else if scheme = "ftp" then some 21
  else none

end Url

/-- An address in parts. The path and what follows it are kept in their written form. -/
structure Url where
  scheme : String
  userInfo : String
  host : Option Url.Host
  /-- The port, unless it is the one that the scheme implies. -/
  port : Option Nat
  path : String
  deriving DecidableEq, Repr

namespace Url

/-- The address in its normal form. -/
def render (url : Url) : String :=
  url.scheme ++ "://" ++ url.userInfo ++ (url.host.map Host.text).getD "" ++
    (url.port.map fun port => ":" ++ toString port).getD "" ++ url.path

def hostText? (url : Url) : Option String :=
  url.host.map Host.text

/-- Drops what surrounds an address or breaks its lines. -/
def cleaned (text : String) : List Char :=
  let outside := fun (character : Char) => decide (character.toNat ≤ 0x20)
  let start := text.toList.dropWhile outside
  let inner := (start.reverse.dropWhile outside).reverse
  inner.filter fun character => character ≠ '\t' ∧ character ≠ '\n' ∧ character ≠ '\r'

/-- The scheme in lower case, with what follows its colon. -/
def readScheme (characters : List Char) : Option (String × List Char) :=
  let inScheme := fun (character : Char) =>
    character.isAlphanum || character = '+' || character = '-' || character = '.'
  match characters with
  | [] => none
  | first :: _ =>
      if first.isAlpha then
        match characters.dropWhile inScheme with
        | ':' :: rest =>
            some (String.ofList ((characters.takeWhile inScheme).map Char.toLower), rest)
        | _ => none
      else none

def endsAuthority (special : Bool) (character : Char) : Bool :=
  character = '/' || character = '?' || character = '#' || (special && character = '\\')

/-- The part before the last at sign of the authority, if there is one, and what follows it. -/
def splitUserInfo (special : Bool) (characters : List Char) : Option (List Char × List Char) :=
  let authority := characters.takeWhile fun character => !endsAuthority special character
  if '@' ∈ authority then
    let hostPart := (authority.reverse.takeWhile (· ≠ '@')).reverse
    let before := authority.length - hostPart.length
    some (authority.take (before - 1), characters.drop before)
  else none

/-- The user and password with the at sign, without what is empty. -/
def userInfoText (characters : List Char) : List Char :=
  let user := encode inUserInfo (characters.takeWhile (· ≠ ':'))
  let password := encode inUserInfo ((characters.dropWhile (· ≠ ':')).drop 1)
  if user = [] ∧ password = [] then []
  else if password = [] then user ++ ['@']
  else user ++ ':' :: password ++ ['@']

/-- The characters of the host, up to a colon outside of brackets or the end of the authority. -/
def hostLength (special : Bool) (inBrackets : Bool) : List Char → Nat
  | [] => 0
  | character :: rest =>
      if endsAuthority special character ∨ (character = ':' ∧ ¬ inBrackets) then 0
      else
        let inBrackets := if character = '[' then true else if character = ']' then false
          else inBrackets
        hostLength special inBrackets rest + 1

/-- The port after its colon, with what follows it; no digits at all stand for no port. -/
def readPort (scheme : String) (characters : List Char) :
    Except UrlError (Option Nat × List Char) :=
  let (digits, rest) := spanDigits characters
  let port := digitsValue digits
  let ended : Bool := match rest with
    | [] => true
    | character :: _ => endsAuthority true character
  if 65535 < port ∨ ¬ ended then .error .invalidPort
  else
    .ok (if digits = [] ∨ defaultPort? scheme = some port then none else some port, rest)

def isSingleDot (segment : List Char) : Bool :=
  String.ofList (segment.map Char.toLower) ∈ [".", "%2e"]

def isDoubleDot (segment : List Char) : Bool :=
  String.ofList (segment.map Char.toLower) ∈ ["..", ".%2e", "%2e.", "%2e%2e"]

/-- The segments of a path with those of one or two dots worked off; `kept` holds the ones
before, last first. -/
def normalSegments (kept : List (List Char)) : List (List Char) → List (List Char)
  | [] => kept.reverse
  | segment :: rest =>
      let ending := if rest.isEmpty then [[]] else []
      if isDoubleDot segment then normalSegments (ending ++ kept.drop 1) rest
      else if isSingleDot segment then normalSegments (ending ++ kept) rest
      else normalSegments (encode inPath segment :: kept) rest

/-- The path of a web address, always with a slash at the start. -/
def pathText (characters : List Char) : List Char :=
  let slashed := characters.map fun character => if character = '\\' then '/' else character
  let relative := match slashed with
    | '/' :: rest => rest
    | _ => slashed
  '/' :: ['/'].intercalate (normalSegments [] (splitOn '/' relative))

/-- The path, query and fragment of a web address. -/
def tailText (characters : List Char) : List Char :=
  let inPathPart := fun (character : Char) => character ≠ '?' && character ≠ '#'
  let afterPath := characters.dropWhile inPathPart
  let path := pathText (characters.takeWhile inPathPart)
  let fragmentText := fun (marked : List Char) =>
    match marked with
    | [] => []
    | mark :: fragment => mark :: encode inFragment fragment
  match afterPath with
  | '?' :: query =>
      path ++ '?' :: encode inQuery (query.takeWhile (· ≠ '#')) ++
        fragmentText (query.dropWhile (· ≠ '#'))
  | fragment => path ++ fragmentText fragment

/-- An address whose scheme and double slash have been read. -/
def readAuthority (scheme : String) (characters : List Char) : Except UrlError Url := do
  let special := schemeClass scheme = .web
  let (userInfo, characters) ← match splitUserInfo special characters with
    | none => pure ([], characters)
    | some ([], after@(character :: _)) =>
        if endsAuthority special character then .error .emptyHost else pure ([], after)
    | some (userInfo, after) => pure (userInfoText userInfo, after)
  let length := hostLength special false characters
  let hostText := characters.take length
  let characters := characters.drop length
  if hostText = [] ∧ (special ∨ characters.head? = some ':') then .error .emptyHost
  let host ← if special then Host.read hostText else Host.readOpaque hostText
  let (port, characters) ← match characters with
    | ':' :: rest => readPort scheme rest
    | _ => pure (none, characters)
  if hostText = [] ∧ userInfo ≠ [] then .error .emptyHost
  return {
    scheme
    userInfo := String.ofList userInfo
    host := if hostText = [] then none else some host
    port
    path := String.ofList (tailText characters) }

def isDriveLetter : List Char → Bool
  | [letter, mark] => letter.isAlpha && (mark = ':' || mark = '|')
  | _ => false

/-- The address of a local file; only its host is of use here. -/
def readFile (characters : List Char) : Except UrlError Url := do
  let isSlash := fun (character : Char) => character = '/' || character = '\\'
  let without : Url := ⟨"file", "", none, none, String.ofList characters⟩
  match characters with
  | first :: second :: rest =>
      if isSlash first && isSlash second then
        let hostText := rest.takeWhile fun character => !endsAuthority true character
        if hostText = [] ∨ isDriveLetter hostText then return without
        let host ← Host.read hostText
        if host = .domain "localhost" then return without
        return { without with host := some host }
      else return without
  | _ => return without

/-- The address that a text denotes. -/
def read (text : String) : Except UrlError Url :=
  match readScheme (cleaned text) with
  | none => .error .noScheme
  | some (scheme, rest) =>
      match schemeClass scheme with
      | .web =>
          readAuthority scheme (rest.dropWhile fun mark => mark = '/' || mark = '\\')
      | .file => readFile rest
      | .other =>
          match rest with
          | '/' :: '/' :: rest => readAuthority scheme rest
          | _ => .ok ⟨scheme, "", none, none, String.ofList rest⟩

end Url

end Steward
