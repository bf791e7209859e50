/-
Module: Shiliu.Evidence.Source
Purpose: Source artifacts: the raw subtitle of a video as it is loaded and validated, with the ids
  of its segments and the timeline runs they fall into. The bytes are read and decoded elsewhere;
  loading starts from the decoded JSON.
Trusted boundary: none
Main exports: SourceArtifactReference, RawEvidenceSegment, assignTimelineRuns, loadSourceArtifact
-/
import Shiliu.Retrieval.Chunking

namespace Shiliu.Evidence

open Shiliu.Retrieval Shiliu.Storage

/-! ## Contracts -/

/-- `EvidenceContractError`. -/
structure EvidenceContractError where
  message : String
  code : String
deriving DecidableEq

inductive ValidationStatus where
  | validSingleRun
  | validMultipleRuns
  | invalidSegmentTime
  | sourceUnreadable
deriving DecidableEq

/-- `validation_status in {"valid_single_run", "valid_multiple_runs"}`. -/
def ValidationStatus.accepted : ValidationStatus → Bool
  | .validSingleRun | .validMultipleRuns => true
  | .invalidSegmentTime | .sourceUnreadable => false

/-- `SourceArtifactReference`, without the language and the path. -/
structure SourceArtifactReference where
  platform : String
  sourceId : String
  part : Int
  sourceType : String
  artifactRole : String
  sourceLineage : Option String

/-- `EvidenceWarning`. -/
structure EvidenceWarning where
  code : String
  message : String
  originalOrdinal : Option Nat

/-- `TimelineRun`. -/
structure TimelineRun (Time : Type) where
  timelineRunId : String
  runOrdinal : Nat
  firstOriginalOrdinal : Nat
  lastOriginalOrdinal : Nat
  startTime : Time
  endTime : Time
  segmentCount : Nat

/-- `RawEvidenceSegment`, without the columns copied from its source. The run ordinal of a segment
that is in no run yet is `-1`. -/
structure RawEvidenceSegment (Time : Type) where
  segmentId : String
  originalOrdinal : Nat
  startTime : Time
  endTime : Time
  sourceText : String
  segmentDigest : String
  timelineRunId : String
  runLocalOrdinal : Int

/-- `ParsedSourceArtifact`. -/
structure ParsedSourceArtifact (Time : Type) where
  reference : SourceArtifactReference
  sourceArtifactId : String
  sourceVersion : String
  validationStatus : ValidationStatus
  warnings : List EvidenceWarning
  invalidSegmentOrdinals : List Nat
  timelineRuns : List (TimelineRun Time)
  segments : List (RawEvidenceSegment Time)

/-! ## Identities -/

/-- The record a source artifact id is the hash of. -/
structure SourceIdentity where
  artifactRole : String
  part : Int
  platform : String
  sourceId : String
  sourceLineage : String

inductive MappingStatus where
  | exactMapped
  | chunkSegmentMappingFailed
  | invalidCrossTimelineChunk
deriving DecidableEq

/-- The record a mapping digest is the hash of. -/
structure MappingIdentity where
  mappingStatus : MappingStatus
  parentChunkId : String
  segmentIds : List String
  segmentOrdinals : List Nat
  sourceArtifactId : String
  sourceVersion : String
  timelineRunId : Option String

/-- The hashes of the evidence layer, any functions of what is hashed. -/
structure EvidenceDigests (Time : Type) extends ChunkDigests Time where
  sourceArtifactId : SourceIdentity → String
  segmentId : (sourceArtifactId sourceVersion : String) → (originalOrdinal : Nat) → String
  segmentDigest : (startTime endTime : Time) → (content : String) → String
  timelineRunId : (sourceVersion : String) → (runOrdinal : Nat) → String
  mappingDigest : MappingIdentity → String

variable {Time : Type}

/-- `make_source_artifact_id`. -/
def makeSourceArtifactId (digests : EvidenceDigests Time) (reference : SourceArtifactReference) :
    String :=
  let lineage :=
    if truthy reference.sourceLineage then reference.sourceLineage.getD ""
    else if reference.sourceType ≠ "" then reference.sourceType else "unknown"
  let lineage := lineage.toLower
  digests.sourceArtifactId
    { artifactRole := reference.artifactRole
      part := reference.part
      platform := reference.platform
      sourceId := reference.sourceId
      sourceLineage :=
        if lineage ∈ ["human", "ai", "asr", "unknown"] then lineage else "unknown" }

/-! ## Loading -/

/-- A value of a JSON object: a text, or anything else. -/
inductive JsonValue where
  | text (value : String)
  | other (rendering : String)

/-- An element of the top-level array. -/
inductive JsonItem where
  | object (fields : List (String × JsonValue))
  | other

/-- What the decoded bytes are. -/
inductive Payload where
  | undecodable (message : String)
  | notArray
  | array (items : List JsonItem)

/-- How `float` reads a JSON value, and which of its answers are finite. A value `float` raises
`TypeError` or `ValueError` on has no reading; an integer beyond the range of floats is left out. -/
structure SecondsReader (Time : Type) where
  float : JsonValue → Option Time
  isFinite : Time → Bool

/-- Why an element is no segment. -/
inductive Invalidity where
  | structural (message : String)
  | time (message : String)

/-- The code its warning carries. -/
def Invalidity.warning (invalidity : Invalidity) (ordinal : Nat) : EvidenceWarning :=
  match invalidity with
  | .structural message => ⟨"source_unreadable", message, some ordinal⟩
  | .time message => ⟨"segment_time_invalid", message, some ordinal⟩

variable [Sub Time] [LT Time] [DecidableLT Time] [Zero Time]

/-- The body of the loop over the elements: a segment that is in no run yet, or why there is
none. -/
def readSegment (digests : EvidenceDigests Time) (reader : SecondsReader Time)
    (artifactId version : String) (ordinal : Nat) (item : JsonItem) :
    Except Invalidity (RawEvidenceSegment Time) :=
  match item with
  | .other => .error (.structural "segment must be an object")
  | .object fields =>
      match fields.lookup "from", fields.lookup "to", fields.lookup "content" with
      | some rawStart, some rawStop, some (.text content) =>
          match reader.float rawStart, reader.float rawStop with
          | some start, some stop =>
              if !reader.isFinite start ∨ !reader.isFinite stop ∨ start < 0 ∨ stop < start then
                .error (.time "segment time is invalid")
              else
                .ok {
                  segmentId := digests.segmentId artifactId version ordinal
                  originalOrdinal := ordinal
                  startTime := start
                  endTime := stop
                  sourceText := content
                  segmentDigest := digests.segmentDigest start stop content
                  timelineRunId := ""
                  runLocalOrdinal := -1 }
          | _, _ => .error (.time "segment time is not numeric")
      | some _, some _, some _ => .error (.structural "segment content must be a string")
      | _, _, _ => .error (.structural "segment fields are missing")

/-- The places where a run starts, after the first. -/
def runBoundaries (epsilonSeconds : Time) (segments : List (RawEvidenceSegment Time)) : List Nat :=
  (List.range segments.length).filter fun index =>
    0 < index ∧ (segments[index]?.any fun segment =>
      segments[index - 1]?.any fun previous =>
        segment.startTime < previous.startTime - epsilonSeconds)

/-- `replace(segment, timeline_run_id=…, run_local_ordinal=…)`. -/
def RawEvidenceSegment.inRun (segment : RawEvidenceSegment Time) (runId : String)
    (ordinal : Nat) : RawEvidenceSegment Time :=
  { segment with timelineRunId := runId, runLocalOrdinal := ordinal }

/-- The row of a run; an empty run has none. -/
def timelineRun (runId : String) (runOrdinal : Nat) :
    List (RawEvidenceSegment Time) → Option (TimelineRun Time)
  | [] => none
  | first :: rest =>
      let last := rest.getLastD first
      some {
        timelineRunId := runId
        runOrdinal := runOrdinal
        firstOriginalOrdinal := first.originalOrdinal
        lastOriginalOrdinal := last.originalOrdinal
        startTime := first.startTime
        endTime := last.endTime
        segmentCount := (first :: rest).length }

/-- `_assign_timeline_runs`. -/
def assignTimelineRuns (digests : EvidenceDigests Time) (version : String) (epsilonSeconds : Time)
    (segments : List (RawEvidenceSegment Time)) :
    List (RawEvidenceSegment Time) × List (TimelineRun Time) :=
  let boundaries := 0 :: (runBoundaries epsilonSeconds segments ++ [segments.length])
  let runs := (boundaries.zip boundaries.tail).map fun bounds =>
    (segments.take bounds.2).drop bounds.1
  let assigned := runs.mapIdx fun runOrdinal values =>
    values.mapIdx fun ordinal segment =>
      segment.inRun (digests.timelineRunId version runOrdinal) ordinal
  (assigned.flatten,
    (runs.mapIdx fun runOrdinal values =>
      timelineRun (digests.timelineRunId version runOrdinal) runOrdinal values).reduceOption)

/-- `load_source_artifact`, from the version of the bytes and what they decode to. -/
def loadSourceArtifact (digests : EvidenceDigests Time) (reader : SecondsReader Time)
    (epsilonSeconds : Time) (reference : SourceArtifactReference) (version : String)
    (expectedSourceVersion : Option String) (payload : Payload) :
    Except EvidenceContractError (ParsedSourceArtifact Time) :=
  if expectedSourceVersion.any fun expected => version ≠ expected then
    .error ⟨"authoritative raw subtitle version does not match expected_source_version",
      "source_version_mismatch"⟩
  else
    let artifactId := makeSourceArtifactId digests reference
    match payload with
    | .undecodable message => .error ⟨message, "source_unreadable"⟩
    | .notArray =>
        .ok {
          reference := reference
          sourceArtifactId := artifactId
          sourceVersion := version
          validationStatus := .sourceUnreadable
          warnings := [⟨"source_unreadable", "top-level JSON must be an array", none⟩]
          invalidSegmentOrdinals := []
          timelineRuns := []
          segments := [] }
    | .array items =>
        let read := items.mapIdx fun ordinal item =>
          (ordinal, readSegment digests reader artifactId version ordinal item)
        let segments := read.filterMap fun entry => entry.2.toOption
        let invalid := read.filterMap fun entry =>
          match entry.2 with
          | .ok _ => none
          | .error invalidity => some (entry.1, invalidity)
        let structural := invalid.any fun entry =>
          match entry.2 with
          | .structural _ => true
          | .time _ => false
        let (assigned, runs) := assignTimelineRuns digests version epsilonSeconds segments
        let status : ValidationStatus :=
          if structural then .sourceUnreadable
          else if invalid ≠ [] then .invalidSegmentTime
          else if 1 < runs.length then .validMultipleRuns
          else .validSingleRun
        .ok {
          reference := reference
          sourceArtifactId := artifactId
          sourceVersion := version
          validationStatus := status
          warnings := (invalid.map fun entry => entry.2.warning entry.1) ++
            if status = .validMultipleRuns then
              [⟨"source_timeline_non_monotonic",
                "source contains " ++ toString runs.length ++ " monotonic timeline runs", none⟩]
            else []
          invalidSegmentOrdinals := invalid.map Prod.fst
          timelineRuns := if status.accepted then runs else []
          segments := if status.accepted then assigned else segments }

end Shiliu.Evidence
