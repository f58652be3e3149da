/-
This file reads manifests: lists of declared resources.
A declaration counts for what it asks for. Whatever it says about markers and status is left
out, since only the engine knows of these.
-/

import Steward.Record.Codec
import Steward.Text.Basic
import Steward.Yaml.Node

namespace Steward

/-- Why a manifest is not accepted. -/
inductive ManifestError where
  | unreadable
  | duplicate (id : RecordId)
  | invalid (id : RecordId) (error : RecordError)
  deriving DecidableEq, Repr

def ManifestError.message : ManifestError → String
  | .unreadable => "cannot parse manifest"
  | .duplicate id => "resource " ++ id.text ++ " is declared more than once"
  | .invalid id error => "resource " ++ id.text ++ " is invalid: " ++ error.message

/-- A fresh record with the identity, the spec and the profile of a declaration. -/
def Record.declared (record : Record) : Record :=
  { id := record.id, credentialsRef := record.credentialsRef, spec := record.spec }

namespace Manifest

/-- Checks one declaration after others; that it is a repetition is said first. -/
def check (earlier : List RecordId) (record : Record) : Except ManifestError Unit :=
  if record.id ∈ earlier then .error (.duplicate record.id)
  else record.validate.mapError (.invalid record.id)

/-- Checks declarations in order, of which some have been seen before. -/
def acceptAfter (earlier : List RecordId) : List Record → Except ManifestError (List Record)
  | [] => .ok []
  | record :: rest => do
      check earlier record
      let accepted ← acceptAfter (record.id :: earlier) rest
      return record.declared :: accepted

/-- Accepts declarations that are valid and have identities of their own. -/
def accept (records : List Record) : Except ManifestError (List Record) :=
  acceptAfter [] records

/-- The declarations of a text, or nothing if it is no list of records. A blank text has none. -/
def declarations? (text : String) : Option (List Record) :=
  if Text.isBlank text then some []
  else (Document.ofYaml? text).bind (Document.list? Record.ofDocument?)

/-- Reads a manifest. -/
def read (text : String) : Except ManifestError (List Record) :=
  match declarations? text with
  | some records => accept records
  | none => .error .unreadable

end Manifest

end Steward
