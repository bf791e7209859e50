/-
Module: Shiliu.Assistant.Compaction
Purpose: Planning what a summary replaces. The entries are parsed into groups, protected groups are
  kept, and of the others the shortest tail whose request reaches the target; the proposal puts the
  checkpoint in the place of what is removed.
Trusted boundary: none
Main exports: nativeGroups, retainedSize, planCompaction, checkpointProposal
-/
import Shiliu.Assistant.WorkingContext

namespace Shiliu.Assistant.WorkingContext

open Shiliu.Library Shiliu.Storage

/-! ## Groups of entries -/

/-- The number of calls of an entry. -/
def callCount (projections : String → Option Projection) : Entry → Except ContextFailure Nat
  | .message messageId =>
      match projections messageId with
      | none => .error .keyError
      | some projection => .ok projection.message.toolCalls.length
  | .block _ => .ok 0

/-- The first loop of `plan_compaction`: an entry with as many behind it as it has calls. -/
def nativeGroups (projections : String → Option Projection) :
    List Entry → Except ContextFailure (List (List Entry))
  | [] => .ok []
  | entry :: rest => do
      let calls ← callCount projections entry
      ensure (calls ≤ rest.length) .indexError
      let groups ← nativeGroups projections (rest.drop calls)
      return (entry :: rest.take calls) :: groups
termination_by entries => entries.length
decreasing_by
  simp only [List.length_drop, List.length_cons]
  omega

/-- The key of the last `task_focus` block. -/
def latestFocus (entries : List Entry) : Option String :=
  entries.reverse.findSome? fun
    | .block block => if block.blockType = "task_focus" then some block.key else none
    | .message _ => none

/-- `is_protected`. -/
def isProtected (candidate : WorkingContextCandidate) : Entry → Except ContextFailure Bool
  | .message messageId =>
      if messageId ∈ candidate.state.protectedMessageIds then .ok true
      else
        match candidate.projections messageId with
        | none => .error .keyError
        | some projection => .ok (!projection.confirmed)
  | .block block =>
      .ok (!block.confirmed ||
        block.sourceMessageIds.any (· ∈ candidate.state.protectedMessageIds) ||
        (block.blockType = "task_focus" ∧ some block.key = latestFocus candidate.state.entries))

/-- `any(is_protected(e) for e in g)`. -/
def anyProtected (candidate : WorkingContextCandidate) : List Entry → Except ContextFailure Bool
  | [] => .ok false
  | entry :: rest => do
      if ← isProtected candidate entry then return true
      else anyProtected candidate rest

/-! ## Plans -/

/-- The entries of the groups at chosen indices. -/
def pick (groups : List (List Entry)) (chosen : Nat → Bool) : List Entry :=
  ((groups.zipIdx.filter fun indexed => chosen indexed.2).map Prod.fst).flatten

/-- `i in protected`, by the flags of the groups. -/
def protectedAt (flags : List Bool) (index : Nat) : Bool :=
  flags.getD index false

/-- `optional`: the indices of the groups that are not protected. -/
def optionalGroups (flags : List Bool) : List Nat :=
  (List.range flags.length).filter fun index => !protectedAt flags index

/-- `protected | set(optional[len(optional)-count:])`. -/
def keptAt (flags : List Bool) (count index : Nat) : Bool :=
  protectedAt flags index ||
    decide (index ∈ (optionalGroups flags).drop ((optionalGroups flags).length - count))

/-- `{mid: p for mid, p in projections.items() if mid in ids}`. -/
def projectionsOf (entries : List Entry) (projections : String → Option Projection) :
    String → Option Projection := fun messageId =>
  if messageId ∈ messageIds entries then projections messageId else none

/-- `retained_size`. -/
def retainedSize (composer : Composer) (provider : Provider) (suffix : Option String)
    (candidate : WorkingContextCandidate) (groups : List (List Entry)) (flags : List Bool)
    (count : Nat) : Except ContextFailure Nat := do
  let selected := pick groups (keptAt flags count)
  let framed ← reframe composer provider suffix { candidate with
    state := { candidate.state with entries := selected }
    projections := projectionsOf selected candidate.projections }
  return framed.request.inputTokens

/-- An entry of `removed_complete_history`. -/
inductive RemovedRecord where
  | message (identity : MessageIdentity) (representation : ModelMessage)
  | block (key content : String)

/-- The data the summary is asked to be made of. -/
structure SummaryData where
  previousCheckpoint : Option CheckpointNote
  removedCompleteHistory : List RemovedRecord
  currentRequirementsBackground : List (String × ModelMessage)
  currentApplicationContextBackground : List String

structure CompactionPlan where
  removed : List Entry
  retained : List Entry
  summary : SummaryData
  frontier : Int
  background : List Entry

/-- `candidate.projections[mid]`. -/
def WorkingContextCandidate.projection (candidate : WorkingContextCandidate) (messageId : String) :
    Except ContextFailure Projection :=
  match candidate.projections messageId with
  | none => .error .keyError
  | some projection => .ok projection

/-- An entry of `serialized`. -/
def removedRecord (candidate : WorkingContextCandidate) :
    Entry → Except ContextFailure RemovedRecord
  | .message messageId => do
      let projection ← candidate.projection messageId
      return .message projection.identity projection.message
  | .block block => .ok (.block block.key block.content)

/-- The contents of the blocks among some entries. -/
def blockContents (entries : List Entry) : List String :=
  entries.filterMap fun
    | .block block => some block.content
    | .message _ => none

/-- The number of optional groups kept at the end. -/
def retainedCount (composer : Composer) (provider : Provider) (suffix : Option String)
    (candidate : WorkingContextCandidate) (groups : List (List Entry)) (flags : List Bool)
    (hard : Bool) (target : Int) : Except ContextFailure Nat := do
  if hard then return 0
  else
    let size := retainedSize composer provider suffix candidate groups flags
    let anchors ← size 0
    if (anchors : Int) < target then
      seekLeast (fun count => do
        let size ← size count
        return decide (target ≤ size)) 1 (optionalGroups flags).length
    else return 0

/-- `plan_compaction`. -/
def planCompaction (composer : Composer) (provider : Provider) (suffix : Option String)
    (hard : Bool) (softTarget : Int) (candidate : WorkingContextCandidate) :
    Except ContextFailure (Option CompactionPlan) := do
  let groups ← nativeGroups candidate.projections candidate.state.entries
  let flags ← groups.mapM (anyProtected candidate)
  let target := min softTarget candidate.budget.availableInputTokens
  let count ← retainedCount composer provider suffix candidate groups flags hard target
  let removed := pick groups fun index => !keptAt flags count index
  let seqs ← (messageIds removed).mapM fun messageId => do
    let projection ← candidate.projection messageId
    return projection.identity.seq
  match seqs with
  -- a checkpoint or application data alone are not summarized
  | [] => return none
  | first :: others =>
      let frontier := others.foldl max first
      let background := pick groups (protectedAt flags)
      if !hard && candidate.state.lastAttemptHistoryFrontier.any (frontier ≤ ·) then return none
      else do
        let serialized ← removed.mapM (removedRecord candidate)
        return some {
          removed := removed
          retained := pick groups (keptAt flags count)
          summary := {
            previousCheckpoint := candidate.checkpoint
            removedCompleteHistory := serialized
            currentRequirementsBackground :=
              candidate.state.protectedMessageIds.filterMap fun messageId =>
                (candidate.projections messageId).map fun projection =>
                  (messageId, projection.message)
            currentApplicationContextBackground := blockContents background }
          frontier := frontier
          background := background }

/-- `checkpoint_proposal`; `freshId` is the id a note without a predecessor gets. -/
def checkpointProposal (composer : Composer) (provider : Provider)
    (candidate : WorkingContextCandidate) (plan : CompactionPlan) (text freshId : String) :
    Except ContextFailure WorkingContextCandidate := do
  let inputs := plan.removed ++ plan.background
  let inputIds := messageIds inputs
  let inputBlocks := inputs.filterMap fun
    | .block block => some block
    | .message _ => none
  let removedBlocks := plan.removed.filterMap fun
    | .block block => some block
    | .message _ => none
  let projections ← inputIds.mapM candidate.projection
  let removedProjections ← (messageIds plan.removed).mapM candidate.projection
  let old := candidate.checkpoint
  let noteId := ((candidate.taskNote.map Prod.fst).filter (· ≠ "")).getD freshId
  let version := (candidate.taskNote.map Prod.snd).getD 0 + 1
  let note : CheckpointNote := {
    id := noteId
    noteVersion := version
    baseRevision := candidate.expectedRevision
    text := text
    replacedPrefixUntilSeq := plan.frontier
    replacedMessageIds := messageIds plan.removed
    protectedMessageIds := candidate.state.protectedMessageIds
    sourceMessageIds := distinct ((old.map CheckpointNote.sourceMessageIds).getD [] ++ inputIds ++
      inputBlocks.flatMap ApplicationBlock.sourceMessageIds ++
      projections.flatMap Projection.sourceMessageIds)
    materialIndex := (old.map CheckpointNote.materialIndex).getD [] ++
      removedProjections.flatMap Projection.materials ++
      removedBlocks.flatMap ApplicationBlock.materials
    dependencies := distinct ((old.map CheckpointNote.dependencies).getD [] ++
      projections.flatMap Projection.dependencyRefs ++
      inputBlocks.flatMap ApplicationBlock.dependencyRefs)
    sourceRunIds := distinct ((old.map CheckpointNote.sourceRunIds).getD [] ++
      projections.map fun projection => projection.identity.runId) }
  reframe composer provider none { candidate with
    checkpoint := some note
    state := { candidate.state with
      entries := plan.retained
      checkpoint := some (noteId, version) }
    projections := projectionsOf plan.retained candidate.projections }

end Shiliu.Assistant.WorkingContext
