/-
This file puts the tokens of a YAML text together to a document.
An alias stands for the node of its anchor. A node that is left out counts as null.
-/

import Steward.Document
import Steward.Yaml.Token

namespace Steward

namespace Yaml

/-- The tokens that are still to be read, and the nodes that aliases can stand for. -/
structure NodeReader where
  tokens : List Token
  /-- The number of the node that each name stands for, the latest one first. -/
  anchors : List (String × Nat) := []
  /-- The nodes that have been read to their end, by number. -/
  nodes : List (Nat × Document) := []
  anchorCount : Nat := 0

namespace NodeReader

def drop (reader : NodeReader) : NodeReader :=
  { reader with tokens := reader.tokens.drop 1 }

def next? (reader : NodeReader) : Option Token :=
  reader.tokens.head?

/-- A node that is left out. -/
def missing : Document :=
  .plain "~"

/-- Gives a name to the node that follows. -/
def nameNode (reader : NodeReader) (name : String) : NodeReader :=
  { reader with
    anchors := (name, reader.anchorCount) :: reader.anchors
    anchorCount := reader.anchorCount + 1 }

/-- The properties of a node. -/
structure Properties where
  anchor : Option Nat := none
  tag : Option (String × String) := none

/-- Reads an anchor and a tag, in either order. -/
def readProperties (reader : NodeReader) : Properties × NodeReader :=
  match reader.tokens with
  | .anchor name :: .tag handle suffix :: rest
  | .tag handle suffix :: .anchor name :: rest =>
      (⟨some reader.anchorCount, some (handle, suffix)⟩,
        { reader.nameNode name with tokens := rest })
  | .anchor name :: rest =>
      (⟨some reader.anchorCount, none⟩, { reader.nameNode name with tokens := rest })
  | .tag handle suffix :: rest => (⟨none, some (handle, suffix)⟩, { reader with tokens := rest })
  | _ => ({}, reader)

/-- The kinds that the tags of the standard ask for. -/
def standardTags : List (String × ScalarTag) :=
  [("bool", .bool), ("int", .integer), ("float", .real), ("null", .null)]

/-- A scalar under a tag. A tag that is neither of the standard nor of the document's own makes
it text, and so do quotes without a tag. -/
def scalar (tag : Option (String × String)) (isQuoted : Bool) (words : String) : Document :=
  match tag with
  | none => if isQuoted then .text words else .plain words
  | some ("!!", suffix) =>
      match standardTags.lookup suffix with
      | some tag => .tagged tag isQuoted words
      | none => .text words
  | some ("!", suffix) => .tagged (.named suffix) isQuoted words
  | some _ => .text words

/-- Remembers a node under the number of its anchor. -/
def remember (anchor : Option Nat) (result : Document × NodeReader) : Document × NodeReader :=
  match anchor with
  | some number =>
      (result.1, { result.2 with nodes := (number, result.1) :: result.2.nodes })
  | none => result

/-- The node that a name stands for; a node that would hold itself is no value. -/
def resolve? (reader : NodeReader) (name : String) : Option Document :=
  (reader.anchors.lookup name).map fun number =>
    (reader.nodes.lookup number).getD .invalid

/-- The place at which a node stands, which says how the collection around it goes on. -/
inductive Place where
  | blockEntry
  | compactEntry
  | blockKey
  | flow
  deriving DecidableEq, Repr

/-- Whether a node is left out before a token. -/
def Place.isMissingBefore : Place → Option Token → Bool
  | .blockEntry, some .blockEntry | .blockEntry, some .blockEnd => true
  | .compactEntry, some .blockEntry | .compactEntry, some .key | .compactEntry, some .value
  | .compactEntry, some .blockEnd => true
  | .blockKey, some .key | .blockKey, some .value | .blockKey, some .blockEnd => true
  | _, _ => false

/-- A node of which only the properties are written. -/
def emptyNode (properties : Properties) (reader : NodeReader) :
    Option (Document × NodeReader) :=
  if properties.anchor.isSome || properties.tag.isSome then
    some (scalar properties.tag false "", reader)
  else none

mutual

/-- Reads a node, or takes it for left out if its place allows that. -/
def readOptional (place : Place) (fuel : Nat) (reader : NodeReader) :
    Option (Document × NodeReader) :=
  match fuel with
  | 0 => none
  | fuel + 1 =>
      if place.isMissingBefore reader.next? then some (missing, reader)
      else readNode place fuel reader

/-- Reads a node with its properties. -/
def readNode (place : Place) (fuel : Nat) (reader : NodeReader) :
    Option (Document × NodeReader) :=
  match fuel with
  | 0 => none
  | fuel + 1 =>
      match reader.tokens with
      | .alias name :: _ => (reader.resolve? name).map fun node => (node, reader.drop)
      | _ =>
          let (properties, reader) := reader.readProperties
          let result := match reader.tokens with
            | .plain words :: _ => some (scalar properties.tag false words, reader.drop)
            | .text words :: _ => some (scalar properties.tag true words, reader.drop)
            | .flowSequenceStart :: _ =>
                (readFlowList true fuel reader.drop).map fun (items, reader) =>
                  (.list items, reader)
            | .flowMappingStart :: _ =>
                (readFlowTable true fuel reader.drop).map fun (entries, reader) =>
                  (.table entries, reader)
            | .blockSequenceStart :: _ =>
                if place = Place.flow then emptyNode properties reader
                else
                  (readBlockList fuel reader.drop).map fun (items, reader) =>
                    (.list items, reader)
            | .blockMappingStart :: _ =>
                if place = Place.flow then emptyNode properties reader
                else
                  (readBlockTable fuel reader.drop).map fun (entries, reader) =>
                    (.table entries, reader)
            | .blockEntry :: _ =>
                if place = Place.blockKey then
                  (readCompactList fuel reader).map fun (items, reader) =>
                    (.list items, reader)
                else emptyNode properties reader
            | _ => emptyNode properties reader
          result.map (remember properties.anchor)

/-- Reads the entries of a block sequence up to its end. -/
def readBlockList (fuel : Nat) (reader : NodeReader) : Option (List Document × NodeReader) :=
  match fuel with
  | 0 => none
  | fuel + 1 =>
      match reader.tokens with
      | .blockEnd :: _ => some ([], reader.drop)
      | .blockEntry :: _ => do
          let (item, reader) ← readOptional .blockEntry fuel reader.drop
          let (items, reader) ← readBlockList fuel reader
          return (item :: items, reader)
      | _ => none

/-- Reads the entries of a sequence that stands in a mapping without being further in. -/
def readCompactList (fuel : Nat) (reader : NodeReader) : Option (List Document × NodeReader) :=
  match fuel with
  | 0 => none
  | fuel + 1 =>
      match reader.tokens with
      | .blockEntry :: _ => do
          let (item, reader) ← readOptional .compactEntry fuel reader.drop
          let (items, reader) ← readCompactList fuel reader
          return (item :: items, reader)
      | _ => some ([], reader)

/-- Reads the entries of a block mapping up to its end. -/
def readBlockTable (fuel : Nat) (reader : NodeReader) :
    Option (List (Document × Document) × NodeReader) :=
  match fuel with
  | 0 => none
  | fuel + 1 =>
      match reader.tokens with
      | .blockEnd :: _ => some ([], reader.drop)
      | .key :: _ | .value :: _ => do
          let (key, reader) ←
            if reader.next? = some .key then readOptional .blockKey fuel reader.drop
            else some (missing, reader)
          let (value, reader) ←
            if reader.next? = some .value then readOptional .blockKey fuel reader.drop
            else some (missing, reader)
          let (entries, reader) ← readBlockTable fuel reader
          return ((key, value) :: entries, reader)
      | _ => none

/-- Reads the entries of a flow sequence up to its end. An entry of a single key and value is a
mapping of its own. -/
def readFlowList (isFirst : Bool) (fuel : Nat) (reader : NodeReader) :
    Option (List Document × NodeReader) :=
  match fuel with
  | 0 => none
  | fuel + 1 =>
      match reader.tokens with
      | .flowSequenceEnd :: _ => some ([], reader.drop)
      | first :: _ =>
          if ¬ isFirst ∧ first ≠ .flowEntry then none
          else
            let reader := if isFirst then reader else reader.drop
            match reader.tokens with
            | .flowSequenceEnd :: _ => some ([], reader.drop)
            | .key :: _ => do
                let (entry, reader) ← readPair fuel reader.drop
                let (items, reader) ← readFlowList false fuel reader
                return (.table [entry] :: items, reader)
            | _ => do
                let (item, reader) ← readNode .flow fuel reader
                let (items, reader) ← readFlowList false fuel reader
                return (item :: items, reader)
      | [] => none

/-- Reads the key and the value of a single entry in a flow sequence. A token in the place of
the key is passed over. -/
def readPair (fuel : Nat) (reader : NodeReader) :
    Option ((Document × Document) × NodeReader) :=
  match fuel with
  | 0 => none
  | fuel + 1 => do
      let (key, reader) ←
        if reader.next? ∈ [some .value, some .flowEntry, some .flowSequenceEnd] then
          some (missing, reader.drop)
        else readNode .flow fuel reader
      if reader.next? ≠ some .value then return ((key, missing), reader)
      let reader := reader.drop
      if reader.next? ∈ [some .flowEntry, some .flowSequenceEnd] then
        return ((key, missing), reader)
      let (value, reader) ← readNode .flow fuel reader
      return ((key, value), reader)

/-- Reads the entries of a flow mapping up to its end. -/
def readFlowTable (isFirst : Bool) (fuel : Nat) (reader : NodeReader) :
    Option (List (Document × Document) × NodeReader) :=
  match fuel with
  | 0 => none
  | fuel + 1 =>
      match reader.tokens with
      | .flowMappingEnd :: _ => some ([], reader.drop)
      | first :: _ =>
          if ¬ isFirst ∧ first ≠ .flowEntry then none
          else
            let reader := if isFirst then reader else reader.drop
            match reader.tokens with
            | .flowMappingEnd :: _ => some ([], reader.drop)
            | .key :: _ | .value :: _ => do
                let (key, reader) ← readFlowKey fuel reader
                let (value, reader) ← readFlowValue fuel reader
                let (entries, reader) ← readFlowTable false fuel reader
                return ((key, value) :: entries, reader)
            | _ => do
                let (key, reader) ← readNode .flow fuel reader
                let (entries, reader) ← readFlowTable false fuel reader
                return ((key, missing) :: entries, reader)
      | [] => none

/-- Reads the key of an entry in a flow mapping, which may be left out. -/
def readFlowKey (fuel : Nat) (reader : NodeReader) : Option (Document × NodeReader) :=
  match fuel with
  | 0 => none
  | fuel + 1 =>
      match reader.tokens with
      | .key :: rest =>
          if rest.head? ∈ [some .value, some .flowEntry, some .flowMappingEnd] then
            some (missing, reader.drop)
          else readNode .flow fuel reader.drop
      | _ => some (missing, reader)

/-- Reads the value of an entry in a flow mapping, which may be left out. -/
def readFlowValue (fuel : Nat) (reader : NodeReader) : Option (Document × NodeReader) :=
  match fuel with
  | 0 => none
  | fuel + 1 =>
      match reader.tokens with
      | .value :: rest =>
          if rest.head? ∈ [some .flowEntry, some .flowMappingEnd] then
            some (missing, reader.drop)
          else readNode .flow fuel reader.drop
      | _ => some (missing, reader)

end

def skipDirectives (reader : NodeReader) : NodeReader :=
  { reader with tokens := reader.tokens.dropWhile (· = .directive) }

/-- Reads the only document of a text. Its start has to be marked if directives precede it. -/
def readDocument (reader : NodeReader) : Option Document := do
  let fuel := 4 * reader.tokens.length + 8
  let (document, reader) ←
    match reader.tokens with
    | [] => none
    | .directive :: _ | .documentStart :: _ =>
        match reader.skipDirectives.tokens with
        | .documentStart :: rest =>
            match rest with
            | [] | .directive :: _ | .documentStart :: _ | .documentEnd :: _ =>
                some (missing, { reader with tokens := rest })
            | _ => readNode .blockEntry fuel { reader with tokens := rest }
        | _ => none
    | _ => readNode .blockEntry fuel reader
  if reader.tokens.all (· = .documentEnd) then return document else none

end NodeReader

mutual

/-- Whether no collection lies deeper than the given number of levels. -/
def depthWithin (levels : Nat) : Document → Bool
  | .list items => levels ≠ 0 && itemsWithin (levels - 1) items
  | .table entries => levels ≠ 0 && entriesWithin (levels - 1) entries
  | _ => true

def itemsWithin (levels : Nat) : List Document → Bool
  | [] => true
  | first :: rest => depthWithin levels first && itemsWithin levels rest

def entriesWithin (levels : Nat) : List (Document × Document) → Bool
  | [] => true
  | (key, value) :: rest =>
      depthWithin levels key && depthWithin levels value && entriesWithin levels rest

end

/-- The most levels of collections in a document. -/
def depthLimit : Nat :=
  128

end Yaml

/-- The document that a YAML text holds. -/
def Document.ofYaml? (text : String) : Option Document := do
  let document ← Yaml.NodeReader.readDocument { tokens := ← Yaml.Token.scan? text }
  if Yaml.depthWithin Yaml.depthLimit document then return document else none

end Steward
