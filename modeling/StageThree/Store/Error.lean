import StageThree.Native.Display

/-!
Why a store does not answer. A failure of the store itself may pass when the request is repeated;
a rejection is the request's own fault.
-/

namespace StageThree

inductive Rejection where
  | filterTooDeep
  | branchesKind (combinator : String)
  | noBranches (combinator : String)
  | branchKind (combinator : String)
  | unknownCombinator (combinator : String)
  | optionsKind (path : String)
  | setKind (op path : String)
  | patternKind (path : String)
  | unknownFlag (flag : Char) (path : String)
  | invalidPattern (path : String)
  | optionsAlone (path : String)
  | unknownOperator (op path : String)
  | stageFields
  | stageKind (stage : String)
  | unknownStage (stage : String)
  | groupWithoutKey
  | accumulatorKind (output : String)
  | accumulatorFields (output : String)
  | unknownAccumulator (op : String)
  | duplicateKey (collection key : String) (id : Native)
  | stated (reason : String)

namespace Rejection

/-- The deepest nesting of combinators in a native filter. -/
def maxDepth : Nat := 64

def message : Rejection → String
  | filterTooDeep => "filter nesting exceeds " ++ toString maxDepth ++ " levels"
  | branchesKind combinator => combinator ++ " must be an array"
  | noBranches combinator => combinator ++ " must be a nonempty array"
  | branchKind combinator => combinator ++ " entries need to be full objects"
  | unknownCombinator combinator => "unknown top level operator: " ++ combinator
  | optionsKind path => "$options on `" ++ path ++ "` must be a string"
  | setKind op path => op ++ " on `" ++ path ++ "` needs an array"
  | patternKind path => "$regex on `" ++ path ++ "` has to be a string"
  | unknownFlag flag path =>
    "invalid regex flag `" ++ String.singleton flag ++ "` on `" ++ path ++ "`"
  | invalidPattern path => "invalid $regex on `" ++ path ++ "`"
  | optionsAlone path => "$options on `" ++ path ++ "` needs a $regex"
  | unknownOperator op path => "unknown operator " ++ op ++ " on `" ++ path ++ "`"
  | stageFields => "a pipeline stage specification object must contain exactly one field"
  | stageKind stage => "the " ++ stage ++ " stage specification must be an object"
  | unknownStage stage => "unrecognized pipeline stage name: " ++ stage
  | groupWithoutKey => "a group specification must include an _id"
  | accumulatorKind output => "the field '" ++ output ++ "' must be an accumulator object"
  | accumulatorFields output => "the field '" ++ output ++ "' must specify one accumulator"
  | unknownAccumulator op => "unknown group operator '" ++ op ++ "'"
  | duplicateKey collection key id =>
    "duplicate key error collection: " ++ collection ++ " dup key: \x7b " ++ key ++ ": " ++
      id.display ++ " \x7d"
  | stated reason => reason

end Rejection

inductive StoreError where
  | backend (reason : String)
  | rejected (cause : Rejection)

namespace StoreError

def message : StoreError → String
  | backend reason => "Store backend error: " ++ reason
  | rejected cause => "Store rejected request: " ++ cause.message

end StoreError

end StageThree
