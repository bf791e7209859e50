/-
Module: Shiliu.Memory.Rows
Purpose: The rows behind `MemoryService`: the memories of one principal, the suppressions left by
  corrections and forgets, the change log, the mutation receipts, the embeddings and the
  projection jobs. Every row belongs to the one workspace and principal of the service, so those
  two columns are left out.
Trusted boundary: none
Main exports: Scope, MemoryFacts, MemoryRow, Receipt, Embedding, MemoryJob, MemoryStore, TextRules
-/
import Shiliu.Library.FencedLease
import Shiliu.Library.Table
import Shiliu.Storage.Basic
import Shiliu.Storage.Scheduler

namespace Shiliu.Memory

open Shiliu.Library Shiliu.Storage

/-! ## Memories -/

inductive MemoryKind where
  | preference
  | constraint
  | decision
  | context
deriving DecidableEq

/-- The kind a text names, if it is one of `MEMORY_KINDS`. -/
def memoryKindOf : String → Option MemoryKind
  | "preference" => some .preference
  | "constraint" => some .constraint
  | "decision" => some .decision
  | "context" => some .context
  | _ => none

inductive MemoryOrigin where
  | explicit
  | extracted
deriving DecidableEq

inductive MemoryStatus where
  | active
  | needsReview
  | superseded
  | forgotten
deriving DecidableEq

/-- `scope_kind` and `scope_id`, which the table's check ties to each other. -/
inductive Scope where
  | user
  | space (id : Nat)
deriving DecidableEq

/-- An element of `time_context_json["events"]`. -/
structure TimeEvent where
  relation : String
  expression : String
  precision : String
  value : Option String
  endValue : Option String
  statedAt : Option String
  sourceMessageId : Option String
deriving DecidableEq

/-- A `time_context_json` that is not the empty object. -/
structure TimeContext where
  statedAt : String
  sourceMessageId : Option String
  timezone : String
  sourceExcerpt : String
  events : List TimeEvent
deriving DecidableEq

/-- `context.get("events", [])`, the empty object being `none`. -/
def eventsOf (context : Option TimeContext) : List TimeEvent :=
  context.elim [] TimeContext.events

/-- The columns of `assistant_memories` that callers see. -/
structure MemoryFacts where
  id : String
  scope : Scope
  kind : MemoryKind
  text : String
  subjectKey : String
  origin : MemoryOrigin
  sourceMessageIds : List String
  sourceExcerpt : String
  validFrom : Option IsoTime
  expiresAt : Option IsoTime
  validityNote : String
  validityTimezone : Option String
  timeContext : Option TimeContext
  status : MemoryStatus
  version : Nat
  pinned : Bool
  userEdited : Bool
  lastProjectedVersion : Option Nat
  changeEpoch : Nat
  createdAt : IsoTime
  updatedAt : IsoTime
deriving DecidableEq

/-- A row of `assistant_memories`. -/
structure MemoryRow extends MemoryFacts where
  tokenizedText : String
  searchVector : List String

/-- The primary key. -/
def MemoryRow.key (row : MemoryRow) : String := row.id

/-- `_public`. -/
def MemoryRow.public_ (row : MemoryRow) : MemoryFacts :=
  { row.toMemoryFacts with
    timeContext := if row.status = .forgotten then none else row.timeContext }

/-! ## What the writes leave behind -/

/-- The unique columns of `assistant_memory_suppressions`. -/
structure SuppressionKey where
  scope : Scope
  subjectKey : String
  contentHash : String
deriving DecidableEq

/-- A row of `assistant_memory_suppressions`. -/
structure Suppression where
  key : SuppressionKey
  sourceMessageIds : List String
  memoryEpoch : Nat
  createdAt : IsoTime

inductive MemoryOperation where
  | created
  | adopted
  | corrected
  | creationRetracted
  | forgotten
deriving DecidableEq

inductive Actor where
  | user
  | assistant

/-- A row of `assistant_memory_changes`. -/
structure MemoryChange where
  id : Nat
  memoryId : String
  version : Nat
  operation : MemoryOperation
  before : Option MemoryFacts
  after : Option MemoryFacts
  actor : Actor
  memoryEpoch : Nat
  createdAt : IsoTime

inductive ReceiptOperation where
  | memorySave
  | memoryCorrect
  | memoryForget
  | memoryCreationRetract
deriving DecidableEq

/-- A row of `assistant_mutation_receipts`. -/
structure Receipt where
  operationKey : String
  operation : ReceiptOperation
  result : MemoryFacts

/-- A row of `memory_embeddings`, the vector by its text. -/
structure Embedding where
  memoryId : String
  profileId : String
  memoryVersion : Nat
  changeEpoch : Nat
  textHash : String
  vector : String

/-- The primary key. -/
def Embedding.key (row : Embedding) : String × String := (row.memoryId, row.profileId)

inductive MemoryJobKind where
  | memoryIndex
  | memoryPurge
deriving DecidableEq

/-- `f"{kind}:{memory_id}:{version}"`. The version has no colon in it, so the text determines its
three parts. -/
structure DedupeKey where
  kind : MemoryJobKind
  memoryId : String
  version : Nat
deriving DecidableEq

/-- `payload_json`: an index job carries the scope key, a purge job the epoch. -/
structure MemoryJobPayload where
  memoryId : String
  version : Nat
  scopeKey : Option Scope
  memoryEpoch : Option Nat
deriving DecidableEq

/-- A row of `assistant_jobs` that `MemoryService` enqueued. The dedupe key is unique, as the id
is, and names the row here. -/
structure MemoryJob where
  dedupeKey : DedupeKey
  payload : MemoryJobPayload
  status : JobStatus
  lease : Lease String

/-- A row of `assistant_messages`, with the space of its thread. -/
structure SourceMessage where
  id : String
  spaceId : Nat

/-! ## The database -/

/-- The tables `MemoryService` reads and writes. `memoryEpoch`, `autoMemoryEnabled`,
`autoMemoryGeneration` and `activeProfile` are rows of `assistant_runtime_state`, an absent row
reading as its default; the change log is kept in the order of its identity column, and
`changeSequence` is the next value of that column. -/
structure MemoryStore where
  memoryEpoch : Nat
  autoMemoryEnabled : Bool
  autoMemoryGeneration : Int
  activeProfile : Option String
  memories : Table MemoryRow.key
  suppressions : Table Suppression.key
  changes : List MemoryChange
  changeSequence : Nat
  receipts : Table Receipt.operationKey
  embeddings : Table Embedding.key
  jobs : Table MemoryJob.dedupeKey
  enabledSpaces : List Nat
  messages : Table SourceMessage.id

def MemoryStore.empty : MemoryStore :=
  { memoryEpoch := 0
    autoMemoryEnabled := true
    autoMemoryGeneration := 0
    activeProfile := none
    memories := Table.empty MemoryRow.key
    suppressions := Table.empty Suppression.key
    changes := []
    changeSequence := 1
    receipts := Table.empty Receipt.operationKey
    embeddings := Table.empty Embedding.key
    jobs := Table.empty MemoryJob.dedupeKey
    enabledSpaces := []
    messages := Table.empty SourceMessage.id }

/-! ## Texts -/

/-- What `validity` reads in a statement that says something about applicability. -/
structure DerivedValidity where
  validFrom : Option String
  expiresAt : Option String
  note : String
  timezone : String

/-- How texts are hashed, tokenised and searched for expressions of time: the hash and Unicode
functions of the standard library, the segmenter and the text search of the database, and the
regular expressions of `memory_time` and `memory_policy`. Of all these only one thing is assumed,
that a text without words has no lexemes. -/
structure TextRules where
  lower : String → String
  contentHash : String → String
  nfkc : String → String
  /-- `F1Tokenizer.document`. -/
  document : String → String
  /-- `to_tsvector('simple', …)`. -/
  toTsvector : String → List String
  /-- `memory_time.time_context`. -/
  timeContext : (statement statedAt : String) → (sourceMessageId : Option String) →
    Except Failure TimeContext
  eventSignature : List TimeEvent → String
  /-- `memory_time.validity`, the empty answer being `none`. -/
  validity : (statement statedAt : String) → Except Failure (Option DerivedValidity)
  /-- `TOKEN.findall`. -/
  timeTokens : String → List String
  cancelsTime : (statement targetText : String) → Bool
  requestsTimeChange : String → Bool
  /-- `plausible_personal_excerpt(…, "decision")`. -/
  plausibleDecision : String → Bool
  /-- `ZoneInfo` knows the name. -/
  knownZone : String → Bool
  /-- `datetime.fromisoformat`, in UTC. -/
  parseTime : String → Except Failure IsoTime
  /-- `IsoTime` as `utc_now` prints it. -/
  printTime : IsoTime → String
  /-- `notifications.message_id` of the event of a change. -/
  changeMessageId : Nat → String
  tsvector_document_empty : toTsvector (document "") = []

end Shiliu.Memory
