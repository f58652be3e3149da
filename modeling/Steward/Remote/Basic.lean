/-
This file holds the remote side as far as it can be seen through its interface: buckets with
their objects, users, access policies and service accounts.
Faults can be armed on it. Every call that may change something is counted, also when it
fails, and a fault armed for a call is used up by the next such call.
-/

import Steward.Json.Reader
import Steward.Table
import Steward.Text.Quoted
import Steward.Timestamp

namespace Steward

/-- How a remote call fails. -/
inductive RemoteError where
  | notFound (resource : String)
  | forbidden (reason : String)
  | wrongRegion (region : String)
  | alreadyExists (resource : String)
  | unavailable (reason : String)
  | rejected (reason : String)
  deriving DecidableEq, Repr

def RemoteError.message : RemoteError → String
  | .notFound resource => resource ++ " not found"
  | .forbidden reason => "access denied: " ++ reason
  | .wrongRegion region => "resource lives in region '" ++ region ++ "'"
  | .alreadyExists resource => resource ++ " already exists"
  | .unavailable reason => "service unavailable: " ++ reason
  | .rejected reason => reason

structure Bucket where
  region : String
  policy : Option String := none
  objectLock : Bool := false
  /-- The sizes of the objects by key. -/
  objects : Table String Nat := ∅
  deriving DecidableEq, Repr, Inhabited

structure User where
  policies : List String := []
  status : String := "enabled"
  secret : String := ""
  deriving DecidableEq, Repr, Inhabited

structure ServiceAccount where
  parentUser : String
  name : Option String
  description : Option String
  expiry : Option Timestamp
  policy : Option String
  status : String := "on"
  deriving DecidableEq, Repr, Inhabited

/-- An object as a listing shows it. -/
structure ObjectInfo where
  key : String
  size : Nat
  deriving DecidableEq, Repr

/-- An object that a removal has left behind. -/
structure RemovalFailure where
  key : String
  error : RemoteError
  deriving DecidableEq, Repr

structure UserInfo where
  policies : List String
  status : String
  deriving DecidableEq, Repr

/-- New values for a service account; those left open stay as they are. -/
structure ServiceAccountUpdate where
  description : Option String := none
  expiry : Option Timestamp := none
  policy : Option String := none
  deriving DecidableEq, Repr

def ServiceAccountUpdate.isEmpty (update : ServiceAccountUpdate) : Bool :=
  update.description.isNone && update.expiry.isNone && update.policy.isNone

/-- The keys of a service account. -/
structure Credentials where
  accessKey : String
  secretKey : String
  deriving DecidableEq, Repr

/-- The keys in their written form, without the secret. -/
def Credentials.describe (credentials : Credentials) : String :=
  "Credentials \x7b access_key: " ++ Text.quoted credentials.accessKey ++ ", secret_key: " ++
    Text.redacted ++ " \x7d"

/-- The faults that are armed. -/
structure Faults where
  /-- Failures of the next call, by the name of the call. -/
  next : Table String RemoteError := ∅
  /-- Objects that no removal removes. -/
  removal : Table String RemoteError := ∅
  /-- Objects that no listing shows. -/
  listing : Table String Unit := ∅
  lockQuery : Option RemoteError := none
  /-- Buckets to which access is denied. -/
  denied : Table String Unit := ∅
  /-- Buckets that live in another region. -/
  redirects : Table String String := ∅
  deriving DecidableEq, Repr, Inhabited

/-- The remote side. -/
structure Plane where
  buckets : Table String Bucket := ∅
  users : Table String User := ∅
  policies : Table String String := ∅
  accounts : Table String ServiceAccount := ∅
  faults : Faults := {}
  /-- The number of calls that may have changed something. -/
  mutations : Nat := 0
  /-- The sizes of the removal requests. -/
  removalBatches : List Nat := []
  /-- The number of the last service account. -/
  lastKey : Nat := 0
  deriving DecidableEq, Repr, Inhabited

end Steward
