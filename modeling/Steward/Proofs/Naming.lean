/-
This file shows that the policy made for a bucket names that bucket and its objects, and no others.
No character of a bucket's name can close the string that it stands in, so the texts for two buckets
say the same only if the names are the same.
-/

import Steward.Proofs.Resource.Policy
import Steward.Proofs.Sameness

namespace Steward.Policy

/-- What a policy says with one statement, which allows everything on some resources. -/
def allowing (resources : List String) : Json.Value :=
  .object
    [("Statement", .array
      [.object
        [("Action", .array [.string "s3:*"]), ("Effect", .string "Allow"),
          ("Resource", .array (resources.map .string))]]),
      ("Version", .string "2012-10-17")]

/-- Policies that allow the same resources are those with the same list of them. -/
theorem allowing_inj {first second : List String} :
    allowing first = allowing second ↔ first = second := by
  constructor
  · intro same
    simp only [allowing, Json.Value.object.injEq, List.cons.injEq, Prod.mk.injEq,
      Json.Value.array.injEq, true_and, and_true] at same
    exact List.map_injective_iff.2 (fun _ _ => Json.Value.string.inj) same
  · intro same
    rw [same]

/-- The policy for a bucket allows the bucket and all that is in it. -/
theorem allowBucketValue_eq (bucket : String) :
    allowBucketValue bucket =
      allowing ["arn:aws:s3:::" ++ bucket, "arn:aws:s3:::" ++ bucket ++ "/*"] := by
  have statementFirst : compare "Statement" "Version" = .lt := by decide
  have actionFirst : compare "Action" "Effect" = .lt := by decide
  have resourceAfterAction : compare "Resource" "Action" = .gt := by decide
  have resourceLast : compare "Resource" "Effect" = .gt := by decide
  simp only [allowBucketValue, allowing, Json.Value.ofMembers, Json.Value.ofStrings,
    List.foldl_cons, List.foldl_nil, List.map_cons, List.map_nil, Table.insertEntries,
    statementFirst, actionFirst, resourceAfterAction, resourceLast]

/-- The text of the policy for a bucket is read as the value that it stands for, whatever the
name. -/
theorem read_allowBucketPolicy_eq (bucket : String) :
    Json.read (allowBucketPolicy bucket) =
      .ok (allowing ["arn:aws:s3:::" ++ bucket, "arn:aws:s3:::" ++ bucket ++ "/*"]) := by
  rw [read_allowBucketPolicy, allowBucketValue_eq]

/-- Whatever a bucket is called, the policy made for it is read as one statement that allows
everything on the bucket and its objects. Two such policies are the same just when their buckets
are. -/
theorem policy_names_its_bucket :
    (∀ bucket, Json.read (allowBucketPolicy bucket) =
      .ok (allowing ["arn:aws:s3:::" ++ bucket, "arn:aws:s3:::" ++ bucket ++ "/*"])) ∧
    ∀ bucket other, Drift.sameObject (allowBucketPolicy bucket) (allowBucketPolicy other) =
      .ok (decide (bucket = other)) := by
  refine ⟨read_allowBucketPolicy_eq, fun bucket other => ?_⟩
  have same : allowing ["arn:aws:s3:::" ++ bucket, "arn:aws:s3:::" ++ bucket ++ "/*"] =
      allowing ["arn:aws:s3:::" ++ other, "arn:aws:s3:::" ++ other ++ "/*"] ↔ bucket = other := by
    rw [allowing_inj]
    simp
  rw [Drift.sameObject_of_read (read_allowBucketPolicy_eq bucket) (read_allowBucketPolicy_eq other)]
  simp only [same]

end Steward.Policy
