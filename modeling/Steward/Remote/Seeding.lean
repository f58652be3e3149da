/-
This file changes the remote side from outside its interface: it puts resources there and arms
faults. No call is counted.
-/

import Steward.Remote.Call

namespace Steward.Plane

/-- A bucket, unless there is one of the name. -/
def seedBucket (plane : Plane) (bucket : String) : Plane :=
  if plane.buckets.contains bucket then plane
  else plane.putBucket bucket { region := BucketSpec.defaultRegion }

/-- Changes a bucket, which is made if there is none. -/
def changeBucket (plane : Plane) (bucket : String) (change : Bucket → Bucket) : Plane :=
  let seeded := plane.seedBucket bucket
  { seeded with buckets := seeded.buckets.modify bucket change }

def putObject (plane : Plane) (bucket key : String) : Plane :=
  plane.changeBucket bucket fun found => { found with objects := found.objects.insert key 0 }

def enableObjectLock (plane : Plane) (bucket : String) : Plane :=
  plane.changeBucket bucket fun found => { found with objectLock := true }

def insertUser (plane : Plane) (user : String) (policies : List String) : Plane :=
  plane.putUser user { policies }

def insertPolicy (plane : Plane) (name document : String) : Plane :=
  { plane with policies := plane.policies.insert name document }

def changeFaults (plane : Plane) (change : Faults → Faults) : Plane :=
  { plane with faults := change plane.faults }

def failNext (plane : Plane) (operation : String) (error : RemoteError) : Plane :=
  plane.changeFaults fun faults => { faults with next := faults.next.insert operation error }

def failRemovalOf (plane : Plane) (key : String) (error : RemoteError) : Plane :=
  plane.changeFaults fun faults => { faults with removal := faults.removal.insert key error }

def clearRemovalFailures (plane : Plane) : Plane :=
  plane.changeFaults fun faults => { faults with removal := ∅ }

def failListingOf (plane : Plane) (key : String) : Plane :=
  plane.changeFaults fun faults => { faults with listing := faults.listing.insert key () }

def failLockQuery (plane : Plane) (error : RemoteError) : Plane :=
  plane.changeFaults fun faults => { faults with lockQuery := some error }

def denyAccess (plane : Plane) (bucket : String) : Plane :=
  plane.changeFaults fun faults => { faults with denied := faults.denied.insert bucket () }

def redirect (plane : Plane) (bucket region : String) : Plane :=
  plane.changeFaults fun faults =>
    { faults with redirects := faults.redirects.insert bucket region }

end Steward.Plane
