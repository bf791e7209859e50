/-
Module: Shiliu.Drafts.Rows
Purpose: The revisions of a knowledge draft and the commands on it. A draft is never changed: every
  command appends a revision that carries its own command id, the payload it was given and the
  status it leaves the draft in. One user command is split into several derived ones, whose ids
  are cut to the length of the column.
Trusted boundary: none
Main exports: DraftStatus, DraftPayload, DraftRevision, DraftStore, commandReplay, expected, append
-/
import Shiliu.Knowledge.Publication

namespace Shiliu.Drafts

open Shiliu.Library Shiliu.Research Shiliu.Storage Shiliu.Knowledge

/-! ## Revisions -/

inductive DraftStatus where
  | saved
  | materializing
  | promotionReady
  | needsRevalidation
  | confirmed
  | failed
  | cancelled
deriving DecidableEq

/-- The statuses a draft can be prepared from. -/
def preparable : List DraftStatus := [.saved, .needsRevalidation, .failed]

inductive RevalidationState where
  | current
  | needsRevalidation
deriving DecidableEq

inductive EventKind where
  | saved
  | revalidationBlocked
  | materializationStarted
  | materializationFailed
  | materializationReady
  | promotionConfirmed
  | cancelled
deriving DecidableEq

/-- What a draft is made of: the answer with its evidence, scope and limitations, as canonical
texts. Every revision copies it from the one before. -/
structure DraftSource where
  originKind : String
  askRunId : Option String
  researchTaskId : Option String
  answerSnapshot : String
  answerHash : String
  evidenceRefs : String
  scope : String
  limitations : String
deriving DecidableEq

inductive SourceKind where
  | askRun
  | researchTask
deriving DecidableEq

/-- The dump of a request, which is hashed and compared when its command id is seen again. -/
inductive DraftPayload where
  | save (sourceKind : SourceKind) (sourceId : String) (expectedSourceHash : Option String)
      (commandId : String)
  | command (commandId : String) (expectedVersion : Nat)
  | confirm (commandId : String) (expectedVersion : Nat) (candidateIds : List Ident)
deriving DecidableEq

def DraftPayload.expectedVersion : DraftPayload → Option Nat
  | .save .. => none
  | .command _ expectedVersion | .confirm _ expectedVersion _ => some expectedVersion

inductive DraftReason where
  | draftOnly
  | none
  | errorCode (code : String)
  | error (code message : String)
  | prepared (preview : List Candidate)
  | confirmed (principalId : String)
deriving DecidableEq

/-- A row of `knowledge_draft_revisions`. -/
structure DraftRevision where
  revisionId : Ident
  draftId : Ident
  version : Nat
  parentRevisionId : Option Ident
  source : DraftSource
  revalidationState : RevalidationState
  status : DraftStatus
  materializationTaskId : Option Ident
  candidateIds : List Ident
  promotionOutput : Option PublishResult
  eventKind : EventKind
  commandId : String
  payload : DraftPayload
  reason : DraftReason
deriving DecidableEq

/-- `kdrev_` and the hash of the draft's id with a version. -/
def revisionIdOf (draftId : Ident) (version : Nat) : Ident :=
  .hashed "kdrev" [draftId, .number version]

/-! ## Failures -/

/-- `KnowledgeDraftError`. -/
structure DraftError where
  message : String
  code : String
  httpStatus : Nat := 409
deriving DecidableEq

inductive DraftFailure where
  | draft (error : DraftError)
  | research (failure : ResearchFailure)
  /-- A request that its model refuses. -/
  | invalidRequest
  /-- Any other exception, by the name of its type. -/
  | other (typeName : String)
deriving DecidableEq

/-- `getattr(exc, "code", type(exc).__name__)`. -/
def DraftFailure.code : DraftFailure → String
  | .draft error => error.code
  | .research (.conflict _) => "research_conflict"
  | .research (.forbidden _) => "research_forbidden"
  | .research (.notFound _) => "research_not_found"
  | .research (.unsafeState _) => "research_unsafe_state"
  | .research (.validation _) => "research_validation_error"
  | .research (.valueError _) => "ValueError"
  | .research .storageError => "StorageError"
  | .research .keyError => "KeyError"
  | .invalidRequest => "ValidationError"
  | .other typeName => typeName

def payloadMismatch : DraftError := ⟨"command payload mismatch", "draft_command_payload_mismatch", 409⟩

def versionConflict : DraftError := ⟨"Draft version conflict", "draft_version_conflict", 409⟩

def draftNotFound : DraftError := ⟨"Draft not found", "draft_not_found", 404⟩

def draftNotReady : DraftError := ⟨"Draft is not promotion ready", "draft_not_ready", 409⟩

def draftForbidden : DraftError := ⟨"principal does not match trusted context", "draft_forbidden", 403⟩

def candidateMissing : DraftError :=
  ⟨"materialization produced no pending Candidate", "draft_candidate_missing", 409⟩

def candidateSetMismatch : DraftError :=
  ⟨"confirmation must bind the exact preview Candidate set", "draft_candidate_set_mismatch", 409⟩

def previewStale : DraftError :=
  ⟨"Candidate preview changed and requires re-preparation", "draft_preview_stale", 409⟩

def draftConfirmed : DraftError :=
  ⟨"confirmed Knowledge cannot be cancelled", "draft_confirmed", 409⟩

def sourceHashMismatch : DraftError :=
  ⟨"source answer hash changed", "draft_source_hash_mismatch", 409⟩

/-! ## The store -/

/-- The revisions of one draft in the order of their insertion, and the research tasks it is
materialized in. -/
structure DraftStore where
  draftId : Ident
  userId : String
  revisions : List DraftRevision
  tasks : Ident → TaskKnowledge

def DraftStore.empty (draftId : Ident) (userId : String) : DraftStore :=
  ⟨draftId, userId, [], fun taskId => TaskKnowledge.empty taskId ""⟩

namespace DraftStore

variable (store : DraftStore)

/-- `ORDER BY version DESC LIMIT 1`, and the last row of `get`. -/
def current : Option DraftRevision := store.revisions.argmax DraftRevision.version

/-- The status the draft is in. -/
def status : Option DraftStatus := store.current.map DraftRevision.status

/-- The row a command id has left. -/
def commandRow (commandId : String) : Option DraftRevision :=
  store.revisions.find? fun revision => revision.commandId = commandId

def setTask (taskId : Ident) (task : TaskKnowledge) : DraftStore :=
  { store with tasks := Function.update store.tasks taskId task }

/-- `INSERT`. -/
def add (row : DraftRevision) : DraftStore :=
  { store with revisions := store.revisions ++ [row] }

@[simp] theorem tasks_setTask (taskId : Ident) (task : TaskKnowledge) :
    (store.setTask taskId task).tasks taskId = task :=
  Function.update_self _ _ _

end DraftStore

/-- A row that a command finds under its own id: its payload has to be the same. -/
def replayed (row : DraftRevision) (payload : DraftPayload) : Except DraftFailure DraftRevision :=
  if row.payload = payload then .ok row else .error (.draft payloadMismatch)

/-- `_command_replay`. -/
def commandReplay (store : DraftStore) (commandId : String) (payload : DraftPayload) :
    Except DraftFailure (Option DraftRevision) :=
  match store.commandRow commandId with
  | none => .ok none
  | some row => (replayed row payload).map some

/-- `_expected`. -/
def expected (store : DraftStore) (expectedVersion : Nat) : Except DraftFailure DraftRevision :=
  match store.current with
  | none => .error (.draft draftNotFound)
  | some current =>
      if current.version = expectedVersion then .ok current else .error (.draft versionConflict)

/-! ## Appending -/

/-- The arguments of `_append` that are not copied from the current revision. -/
structure NewRevision where
  status : DraftStatus
  eventKind : EventKind
  commandId : String
  payload : DraftPayload
  revalidationState : Option RevalidationState := Option.none
  materializationTaskId : Option Ident := Option.none
  candidateIds : Option (List Ident) := Option.none
  promotionOutput : Option PublishResult := Option.none
  reason : DraftReason := .none

/-- The row that continues a revision. -/
def NewRevision.row (new : NewRevision) (current : DraftRevision) : DraftRevision where
  revisionId := revisionIdOf current.draftId (current.version + 1)
  draftId := current.draftId
  version := current.version + 1
  parentRevisionId := some current.revisionId
  source := current.source
  revalidationState := new.revalidationState.getD current.revalidationState
  status := new.status
  materializationTaskId := new.materializationTaskId.or current.materializationTaskId
  candidateIds := new.candidateIds.getD current.candidateIds
  promotionOutput := new.promotionOutput.or current.promotionOutput
  eventKind := new.eventKind
  commandId := new.commandId
  payload := new.payload
  reason := new.reason

/-- `_append`, one transaction. -/
def append (store : DraftStore) (current : DraftRevision) (new : NewRevision) :
    Except DraftFailure (DraftStore × DraftRevision) :=
  match store.commandRow new.commandId with
  | some row => (replayed row new.payload).map fun row => (store, row)
  | none =>
      if store.current.map DraftRevision.version = some current.version then
        .ok (store.add (new.row current), new.row current)
      else .error (.draft versionConflict)

/-! ## Derived command ids -/

/-- What a command id of its own is derived for. -/
inductive Phase where
  | own
  | started
  | blocked
  | create
  | evidence
  | run
  | intake
deriving DecidableEq

def Phase.suffix : Phase → String
  | .own => ""
  | .started => ":started"
  | .blocked => ":blocked"
  | .create => ":create"
  | .evidence => ":evidence"
  | .run => ":run"
  | .intake => ":intake"

/-- The requests of the research services strip their command ids. -/
def Phase.stripped : Phase → Bool
  | .create | .run | .intake => true
  | .own | .started | .blocked | .evidence => false

/-- `f"{command_id}:{phase}"[:160]`, as the column has it that it is written to. -/
def derivedId (commandId : String) (phase : Phase) : String :=
  let cut := prefixOf (commandId ++ phase.suffix) 160
  if phase.stripped then strip cut else cut

/-- The command id of the publication. -/
def publicationId (commandId : String) : String :=
  strip (prefixOf commandId 96)

end Shiliu.Drafts
