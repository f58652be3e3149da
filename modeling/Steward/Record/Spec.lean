/-
This file says what a user may ask for: a bucket, a user, an access policy or a service
account, each with the settings it may carry.
-/

import Steward.Timestamp

namespace Steward

/-- The kinds of resource that can be kept. -/
inductive Kind where
  | bucket
  | user
  | policy
  | serviceAccount
  deriving DecidableEq, Repr, Inhabited

namespace Kind

/-- Every kind, in the order of registration. -/
def all : List Kind :=
  [.bucket, .user, .policy, .serviceAccount]

def text : Kind → String
  | .bucket => "bucket"
  | .user => "user"
  | .policy => "policy"
  | .serviceAccount => "serviceaccount"

def ofText? (text : String) : Option Kind :=
  all.find? fun kind => kind.text == text

end Kind

/-- What becomes of a bucket's objects when its record is deleted. -/
inductive DeletionPolicy where
  | deleteIfEmpty
  | deleteAll
  deriving DecidableEq, Repr, Inhabited

structure BucketSpec where
  bucketName : Option String
  region : Option String
  deletionPolicy : DeletionPolicy
  policy : Option String
  deriving DecidableEq, Repr, Inhabited

namespace BucketSpec

def defaultRegion : String := "us-east-1"

/-- The region the bucket is made in. -/
def regionOrDefault (spec : BucketSpec) : String :=
  spec.region.getD defaultRegion

end BucketSpec

structure UserSpec where
  userName : Option String
  policies : List String
  deriving DecidableEq, Repr, Inhabited

/-- A policy that allows all of one bucket, or one written out in full. -/
structure PolicySpec where
  policyName : Option String
  allowBucket : Option String
  rawPolicy : Option String
  deriving DecidableEq, Repr, Inhabited

structure ServiceAccountSpec where
  parentUser : String
  name : Option String
  description : Option String
  expiry : Option Timestamp
  policy : Option String
  deriving DecidableEq, Repr, Inhabited

/-- The desired state of one resource. -/
inductive Spec where
  | bucket (spec : BucketSpec)
  | user (spec : UserSpec)
  | policy (spec : PolicySpec)
  | serviceAccount (spec : ServiceAccountSpec)
  deriving DecidableEq, Repr, Inhabited

namespace Spec

def kind : Spec → Kind
  | .bucket _ => .bucket
  | .user _ => .user
  | .policy _ => .policy
  | .serviceAccount _ => .serviceAccount

/-- The remote name that the spec asks for, if it asks for one. -/
def explicitName : Spec → Option String
  | .bucket spec => spec.bucketName
  | .user spec => spec.userName
  | .policy spec => spec.policyName
  | .serviceAccount spec => spec.name

end Spec

end Steward
