/-
Module: Shiliu.Workspace.Records
Purpose: The rows of `research_workspace_records` and what is read out of one. A record is a list of
  revisions that are never changed; a revision stores a status, but what it counts for also depends
  on its expiry: the effective status, the actions a user may take and whether the record speaks for
  the user are computed at each reading.
Trusted boundary: `_hash` is a function of the value it is given; identifiers are the value they are
  the hash of; jsonb, `casefold`, `split` and `strip` are the rules' own
Main exports: PayloadValue, Payload, RecordKind, effectiveStatus, allowedActions, Projected, project
-/
import Mathlib.Data.List.MinMax
import Shiliu.Library.Table

namespace Shiliu.Workspace

open Shiliu.Library

/-! ## Payloads -/

/-- A JSON value of a payload. -/
inductive PayloadValue where
  | null
  | bool (value : Bool)
  /-- A number, as the text `json.dumps` gives it. -/
  | number (text : String)
  | string (text : String)
  /-- An array or an object: its canonical text, and the keys of the objects in it. -/
  | composite (text : String) (keys : List String)
deriving DecidableEq

/-- `str(value)`; for an array or an object only that it is no word and not blank matters. -/
def PayloadValue.str : PayloadValue → String
  | .null => "None"
  | .bool true => "True"
  | .bool false => "False"
  | .number text => text
  | .string text => text
  | .composite text _ => text

/-- `bool(value)`. -/
def PayloadValue.truthy : PayloadValue → Bool
  | .null => false
  | .bool value => value
  | .number text => text ∉ ["0", "0.0", "-0.0"]
  | .string text => text ≠ ""
  | .composite text _ => text ∉ ["[]", "\x7b\x7d"]

/-- A dictionary, in the order of its keys. -/
abbrev Payload := List (String × PayloadValue)

def Payload.get (payload : Payload) (key : String) : Option PayloadValue := payload.lookup key

/-- `payload[key] = value`. -/
def Payload.set (payload : Payload) (key : String) (value : PayloadValue) : Payload :=
  payload.filter (·.1 < key) ++ (key, value) :: payload.filter (key < ·.1)

/-- `set(payload) == keys`. -/
def Payload.hasKeys (payload : Payload) (keys : List String) : Bool :=
  payload.all (·.1 ∈ keys) && keys.all fun key => (payload.get key).isSome

/-- `str(payload.get(key) or "")`. -/
def Payload.text (payload : Payload) (key : String) : String :=
  match payload.get key with
  | none => ""
  | some value => if value.truthy then value.str else ""

/-! ## Rows -/

inductive RecordKind where
  | explicitMemory
  | inferredCandidate
  | focusState
  | progressObservation
  | corpusObservation
  | systemExperience
deriving DecidableEq

inductive AuthorityClass where
  | userAuthored
  | userConfirmed
  | behavioralCandidate
  | evidenceBackedObservation
  | corpusSoftPrior
  | experienceCandidate
deriving DecidableEq

inductive RecordStatus where
  | current
  | candidate
  | confirmed
  | rejected
  | expired
  | tombstoned
  | invalidated
  | observed
  | diagnosed
  | candidateSource
deriving DecidableEq

/-- `TERMINAL_STATUSES`. -/
def terminalStatuses : List RecordStatus := [.rejected, .expired, .tombstoned, .invalidated]

/-- `ACTIVE_EXPIRABLE_STATUSES`. -/
def activeExpirableStatuses : List RecordStatus :=
  [.current, .candidate, .confirmed, .observed, .diagnosed, .candidateSource]

inductive DecisionAction where
  | confirm
  | correct
  | reject
  | expire
  | tombstone
  | diagnose
  | candidateSource
  | invalidate
deriving DecidableEq

/-- `decision_action`. -/
inductive RecordedAction where
  | create
  | decided (action : DecisionAction)

inductive RefType where
  | researchTask
  | researchEvent
  | researchAttempt
  | researchTrace
  | researchResult
  | factRevision
  | artifactRevision
  | taxonomySnapshot
deriving DecidableEq

def RefType.name : RefType → String
  | .researchTask => "research_task"
  | .researchEvent => "research_event"
  | .researchAttempt => "research_attempt"
  | .researchTrace => "research_trace"
  | .researchResult => "research_result"
  | .factRevision => "fact_revision"
  | .artifactRevision => "artifact_revision"
  | .taxonomySnapshot => "taxonomy_snapshot"

/-- An entry of `source_refs_json`. -/
structure SourceRef (Hash : Type) where
  refType : RefType
  refId : String
  taskId : Option String
  boundaryHash : Hash
  href : String
deriving DecidableEq

/-- `record_id`: the hash of the kind and the key of a record, in the older form or with the
workspace and the principal. -/
inductive RecordId where
  | legacy (recordKind : RecordKind) (semanticKey : String)
  | scoped (recordKind : RecordKind) (semanticKey : String)
deriving DecidableEq

/-- `record_revision_id`, the hash of the record and the version. -/
structure RevisionId where
  recordId : RecordId
  version : Nat

/-- A row of `research_workspace_records`. Times are microseconds since the epoch. -/
structure Revision (Hash : Type) where
  recordRevisionId : RevisionId
  recordId : RecordId
  version : Nat
  parentRevisionId : Option RevisionId
  commandTaskId : String
  recordKind : RecordKind
  authorityClass : AuthorityClass
  status : RecordStatus
  semanticKey : String
  payload : Payload
  sourceRefs : List (SourceRef Hash)
  sourceBoundaryHash : Hash
  confidence : Option String
  expiresAt : Option Int
  decisionAction : RecordedAction
  reason : String
  principalId : String
  contentHash : Hash
  commandId : String
  createdAt : Int

/-! ## Times as texts -/

/-- The year, the month and the day of a day counted from 1970-01-01. -/
def civil (day : Int) : Int × Int × Int :=
  let shifted := day + 719468
  let era := shifted / 146097
  let dayOfEra := shifted % 146097
  let yearOfEra :=
    (dayOfEra - dayOfEra / 1460 + dayOfEra / 36524 - dayOfEra / 146096) / 365
  let dayOfYear := dayOfEra - (365 * yearOfEra + yearOfEra / 4 - yearOfEra / 100)
  let fromMarch := (5 * dayOfYear + 2) / 153
  let month := if fromMarch < 10 then fromMarch + 3 else fromMarch - 9
  let year := yearOfEra + era * 400 + if month ≤ 2 then 1 else 0
  (year, month, dayOfYear - (153 * fromMarch + 2) / 5 + 1)

/-- A number with leading zeros. -/
def padded (width : Nat) (number : Int) : String :=
  let digits := toString number
  String.ofList (List.replicate (width - digits.length) '0') ++ digits

/-- `time.isoformat(sep, timespec)` of a time in UTC: `timespec` is "microseconds", or "auto", which
leaves out microseconds that are zero. -/
def isoformat (separator : String) (always : Bool) (time : Int) : String :=
  let second := time / 1000000
  let microsecond := time % 1000000
  let (year, month, day) := civil (second / 86400)
  let clock := second % 86400
  padded 4 year ++ "-" ++ padded 2 month ++ "-" ++ padded 2 day ++ separator ++
    padded 2 (clock / 3600) ++ ":" ++ padded 2 (clock / 60 % 60) ++ ":" ++ padded 2 (clock % 60) ++
    (if always ∨ microsecond ≠ 0 then "." ++ padded 6 microsecond else "") ++ "+00:00"

/-- `_expires_value`. -/
def expiresValue (time : Int) : String := isoformat "T" true time

/-- `str(time)` of a time that was read from the database. -/
def timestampText (time : Int) : String := isoformat " " false time

/-! ## Hashed contents -/

/-- What `_content_hash` hashes, besides the constant policy version. -/
structure ContentText (Hash : Type) where
  recordKind : RecordKind
  authorityClass : AuthorityClass
  status : RecordStatus
  semanticKey : String
  payload : Payload
  sourceRefs : List (SourceRef Hash)
  confidence : Option String
  expiresAt : Option String
deriving DecidableEq

/-- What the service uses of Python and of the database. -/
structure WorkspaceRules (Hash : Type) where
  /-- `_hash` of a content. -/
  contentHash : ContentText Hash → Hash
  /-- `_hash` of the source references. -/
  refsHash : List (SourceRef Hash) → Hash
  casefold : String → String
  split : String → List String
  strip : String → String
  /-- What a value is when it is read back from a jsonb column; only numbers can differ. -/
  jsonb : PayloadValue → PayloadValue
  jsonb_bool : ∀ value, jsonb (.bool value) = .bool value
  /-- A dictionary as a value of another one. -/
  nested : Payload → PayloadValue
  /-- The length of the canonical text in UTF-8. -/
  encodedSize : Payload → Nat

variable {Hash : Type}

/-- `_normalized_key`. -/
def WorkspaceRules.normalizedKey (rules : WorkspaceRules Hash) (value : String) : String :=
  " ".intercalate (rules.split (rules.casefold value))

/-- What a payload is when it is read back. -/
def WorkspaceRules.stored (rules : WorkspaceRules Hash) (payload : Payload) : Payload :=
  payload.map fun field => (field.1, rules.jsonb field.2)

/-! ## Reading a record -/

/-- `effective_status` of `_project`, at a time. -/
def effectiveStatus (revision : Revision Hash) (now : Int) : RecordStatus :=
  match revision.expiresAt with
  | some expiry =>
      if revision.status ∈ activeExpirableStatuses ∧ expiry ≤ now then .expired
      else revision.status
  | none => revision.status

/-- `_allowed_actions`. -/
def allowedActions (recordKind : RecordKind) (status : RecordStatus) : List DecisionAction :=
  match recordKind with
  | .explicitMemory =>
      if status ∈ [.expired, .tombstoned] then [.correct] else [.correct, .expire, .tombstone]
  | .inferredCandidate | .focusState =>
      if status = .candidate then [.confirm, .correct, .reject, .expire, .tombstone]
      else if status ∈ [.rejected, .expired, .tombstoned] then [.confirm, .correct, .tombstone]
      else [.correct, .reject, .expire, .tombstone]
  | .progressObservation =>
      if status ∈ [.expired, .tombstoned] then [.correct] else [.correct, .expire, .tombstone]
  | .corpusObservation =>
      if status ∈ [.invalidated, .tombstoned] then [.correct]
      else [.correct, .invalidate, .tombstone]
  | .systemExperience =>
      match status with
      | .observed => [.diagnose, .invalidate, .tombstone]
      | .diagnosed => [.diagnose, .candidateSource, .invalidate, .tombstone]
      | .candidateSource => [.invalidate, .tombstone]
      | _ => []

/-- What `_project` returns: the row and what is computed from it. -/
structure Projected (Hash : Type) where
  revision : Revision Hash
  effectiveStatus : RecordStatus
  userStateAuthority : Bool
  candidateOnly : Bool
  softPriorOnly : Bool
  allowedActions : List DecisionAction

/-- `_project`, at a time. -/
def project (revision : Revision Hash) (now : Int) : Projected Hash where
  revision := revision
  effectiveStatus := effectiveStatus revision now
  userStateAuthority :=
    revision.authorityClass ∈ [.userAuthored, .userConfirmed] ∧
      effectiveStatus revision now ∈ [.current, .confirmed]
  candidateOnly := revision.authorityClass ∈ [.behavioralCandidate, .experienceCandidate]
  softPriorOnly := revision.authorityClass = .corpusSoftPrior
  allowedActions := allowedActions revision.recordKind (effectiveStatus revision now)

theorem effectiveStatus_of_no_expiry {revision : Revision Hash}
    (noExpiry : revision.expiresAt = none) (now : Int) :
    effectiveStatus revision now = revision.status := by
  rw [effectiveStatus, noExpiry]

theorem not_expired_of_effective {revision : Revision Hash} {now : Int}
    (live : effectiveStatus revision now ∈ [RecordStatus.current, .confirmed]) :
    revision.status ∈ [RecordStatus.current, .confirmed] ∧
      ∀ expiry ∈ revision.expiresAt, now < expiry := by
  unfold effectiveStatus at live
  cases isExpiry : revision.expiresAt with
  | none =>
      rw [isExpiry] at live
      refine ⟨live, ?_⟩
      intro expiry absurdity
      cases absurdity
  | some expiry =>
      rw [isExpiry] at live
      simp only at live
      split at live
      · simp at live
      · rename_i notPassed
        have active : revision.status ∈ activeExpirableStatuses := by
          simp only [List.mem_cons, List.not_mem_nil, or_false] at live
          rcases live with isStatus | isStatus
          · rw [isStatus]
            decide
          · rw [isStatus]
            decide
        refine ⟨live, ?_⟩
        intro other isOther
        cases isOther
        exact not_le.mp fun passed => notPassed ⟨active, passed⟩

end Shiliu.Workspace
