import CompletionRing.Setup.Document

/-!
# Limits

How patient a session is: how often it submits a unit again, and how often it asks for one.
-/

namespace CompletionRing

/-- How many times a kick that failed for the moment is tried again. -/
structure RetryLimit where
  resubmits : UInt32
  deriving DecidableEq

namespace RetryLimit

def standard : RetryLimit := ⟨2⟩

/-- The first failure is the last. -/
def never : RetryLimit := ⟨0⟩

def read? (document : Document) : Option RetryLimit := do
  match ← document.fields? ["max_resubmits"] with
  | [resubmits] =>
    return ⟨← Document.withDefault standard.resubmits Document.uint32? resubmits⟩
  | _ => none

def write (limit : RetryLimit) : Document :=
  .object [("max_resubmits", .integer limit.resubmits.toNat)]

end RetryLimit

/-- How many incomplete answers for a unit are taken before it is given up. -/
structure PollLimit where
  queries : UInt32
  deriving DecidableEq

namespace PollLimit

def standard : PollLimit := ⟨64⟩

def read? (document : Document) : Option PollLimit := do
  match ← document.fields? ["max_queries"] with
  | [queries] => return ⟨← Document.withDefault standard.queries Document.uint32? queries⟩
  | _ => none

def write (limit : PollLimit) : Document :=
  .object [("max_queries", .integer limit.queries.toNat)]

end PollLimit

end CompletionRing
