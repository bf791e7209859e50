/-
Module: Shiliu.Evidence.Mapping
Purpose: The mapping of an indexed chunk back to the segments it was made of: the chunks are built
  once more from the artifact, a second loop written for segments selects what each is made of, and
  the chunk is found among them by its id.
Trusted boundary: none
Main exports: ReplayedChunk, fillSelection, selectionLoop, replaySourceChunks, mapChunkInArtifact
-/
import Mathlib.Data.List.Dedup
import Shiliu.Evidence.Source
import Shiliu.Library.Outcome

namespace Shiliu.Evidence

open Shiliu.Library Shiliu.Retrieval Shiliu.Storage

variable {Time : Type} [Sub Time] [LT Time] [DecidableLT Time]

/-! ## The selections -/

/-- The inner loop of `_frozen_chunk_selections`. -/
def fillSelection (config : ChunkingConfig Time) (usable : List (RawEvidenceSegment Time))
    (state : Filling (RawEvidenceSegment Time)) : Filling (RawEvidenceSegment Time) :=
  if inside : state.cursor < usable.length then
    let candidate := usable[state.cursor]
    let separator := if state.selected = [] then 0 else 1
    let nextCharacters := state.characters + separator + (strip candidate.sourceText).length
    let firstStart := state.selected.head?.elim candidate.startTime RawEvidenceSegment.startTime
    let exceedsBound := state.selected ≠ [] ∧
      (config.maximumCharacters < nextCharacters ∨
        config.maximumDurationSeconds < candidate.endTime - firstStart)
    if exceedsBound then state
    else
      let next : Filling (RawEvidenceSegment Time) :=
        { cursor := state.cursor + 1
          selected := state.selected ++ [candidate]
          characters := nextCharacters }
      if config.targetCharacters ≤ nextCharacters then next else fillSelection config usable next
  else state
termination_by usable.length - state.cursor

/-- The outer loop of `_frozen_chunk_selections`. Its last lines move the cursor as those of the
chunker do. -/
def selectionLoop (config : ChunkingConfig Time) (usable : List (RawEvidenceSegment Time))
    (cursor : Nat) (selections : List (List (RawEvidenceSegment Time))) :
    List (List (RawEvidenceSegment Time)) :=
  if cursor < usable.length then
    let filled := fillSelection config usable ⟨cursor, [], 0⟩
    let grown := if filled.selected ≠ [] then selections ++ [filled.selected] else selections
    selectionLoop config usable
      (nextCursor config usable.length cursor filled.cursor filled.selected.length) grown
  else selections
termination_by usable.length - cursor
decreasing_by
  have := lt_nextCursor config usable.length cursor
    (fillSelection config usable ⟨cursor, [], 0⟩).cursor
    (fillSelection config usable ⟨cursor, [], 0⟩).selected.length
  omega

/-- `_frozen_chunk_selections`. -/
def frozenChunkSelections (config : ChunkingConfig Time)
    (usable : List (RawEvidenceSegment Time)) : List (List (RawEvidenceSegment Time)) :=
  selectionLoop config usable 0 []

/-! ## The replay -/

/-- `ReplayedChunk`. -/
structure ReplayedChunk (Time : Type) where
  chunk : RawSubtitleChunk Time
  segments : List (RawEvidenceSegment Time)

/-- The segment the chunker is given for a segment of the artifact. -/
def RawEvidenceSegment.subtitle (segment : RawEvidenceSegment Time) : SubtitleSegment Time :=
  ⟨segment.startTime, segment.endTime, segment.sourceText⟩

/-- The arguments `replay_source_chunks` takes from the reference. -/
def SourceArtifactReference.origin (reference : SourceArtifactReference) : ChunkOrigin :=
  ⟨reference.platform, reference.sourceId, reference.part, reference.sourceType⟩

/-- `[segment for segment in artifact.segments if segment.source_text.strip()]`. -/
def usableSegments (artifact : ParsedSourceArtifact Time) : List (RawEvidenceSegment Time) :=
  artifact.segments.filter fun segment => strip segment.sourceText ≠ ""

/-- The chunks the chunker builds for the artifact. -/
def artifactChunks (digests : EvidenceDigests Time) (config : ChunkingConfig Time)
    (artifact : ParsedSourceArtifact Time) : List (RawSubtitleChunk Time) :=
  buildRawSubtitleChunks digests.toChunkDigests artifact.reference.origin config
    (artifact.segments.map RawEvidenceSegment.subtitle)

/-- `replay_source_chunks`, with `ChunkingConfig()` as an argument. -/
def replaySourceChunks (digests : EvidenceDigests Time) (config : ChunkingConfig Time)
    (artifact : ParsedSourceArtifact Time) :
    Except EvidenceContractError (List (ReplayedChunk Time)) :=
  if !artifact.validationStatus.accepted then
    .error ⟨"source must pass segment validation before exact chunk replay",
      "chunk_segment_mapping_failed"⟩
  else
    let selections := frozenChunkSelections config (usableSegments artifact)
    let chunks := artifactChunks digests config artifact
    if chunks.length ≠ selections.length then
      .error ⟨"frozen chunk replay selection count differs from V3 chunk output",
        "chunk_segment_mapping_failed"⟩
    else .ok (List.zipWith ReplayedChunk.mk chunks selections)

/-! ## The mapping -/

/-- `RetrievalChunkReference`. -/
structure RetrievalChunkReference (Time : Type) where
  unitId : String
  chunkId : String
  startTime : Time
  endTime : Time
  sourceText : String
  contentHash : String

/-- `ChunkSegmentMapping`, without its constant fields. -/
structure ChunkSegmentMapping where
  parentChunkId : String
  sourceArtifactId : String
  sourceVersion : String
  segmentIds : List String
  segmentOrdinals : List Nat
  timelineRunId : Option String
  mappingStatus : MappingStatus
  mappingDigest : String
  candidateEligibility : Bool
  sourceValidationStatus : ValidationStatus

/-- `_failed_mapping`. -/
def failedMapping (digests : EvidenceDigests Time) (artifact : ParsedSourceArtifact Time)
    (chunk : RetrievalChunkReference Time) : ChunkSegmentMapping :=
  { parentChunkId := chunk.unitId
    sourceArtifactId := artifact.sourceArtifactId
    sourceVersion := artifact.sourceVersion
    segmentIds := []
    segmentOrdinals := []
    timelineRunId := none
    mappingStatus := .chunkSegmentMappingFailed
    mappingDigest := digests.mappingDigest
      { mappingStatus := .chunkSegmentMappingFailed
        parentChunkId := chunk.unitId
        segmentIds := []
        segmentOrdinals := []
        sourceArtifactId := artifact.sourceArtifactId
        sourceVersion := artifact.sourceVersion
        timelineRunId := none }
    candidateEligibility := false
    sourceValidationStatus := artifact.validationStatus }

/-- The mapping to the segments of a chunk that was found. -/
def foundMapping (digests : EvidenceDigests Time) (artifact : ParsedSourceArtifact Time)
    (chunk : RetrievalChunkReference Time) (segments : List (RawEvidenceSegment Time)) :
    ChunkSegmentMapping :=
  let runIds := (segments.map RawEvidenceSegment.timelineRunId).dedup
  let crossRun := runIds.length ≠ 1
  let status := if crossRun then .invalidCrossTimelineChunk else .exactMapped
  let runId := if crossRun then none else runIds.head?
  let segmentIds := segments.map RawEvidenceSegment.segmentId
  let ordinals := segments.map RawEvidenceSegment.originalOrdinal
  { parentChunkId := chunk.unitId
    sourceArtifactId := artifact.sourceArtifactId
    sourceVersion := artifact.sourceVersion
    segmentIds := segmentIds
    segmentOrdinals := ordinals
    timelineRunId := runId
    mappingStatus := status
    mappingDigest := digests.mappingDigest
      { mappingStatus := status
        parentChunkId := chunk.unitId
        segmentIds := segmentIds
        segmentOrdinals := ordinals
        sourceArtifactId := artifact.sourceArtifactId
        sourceVersion := artifact.sourceVersion
        timelineRunId := runId }
    candidateEligibility := !crossRun
    sourceValidationStatus := artifact.validationStatus }

/-- `text.endswith(ending)`. -/
def endsWith (text ending : String) : Bool :=
  ending.toList.isSuffixOf text.toList

variable [DecidableEq Time]

/-- The replayed chunk is the one referred to, column by column. -/
def isExact (replayed : ReplayedChunk Time) (chunk : RetrievalChunkReference Time) : Bool :=
  replayed.chunk.startTime = chunk.startTime ∧ replayed.chunk.endTime = chunk.endTime ∧
    replayed.chunk.text = chunk.sourceText ∧ replayed.chunk.contentHash = chunk.contentHash ∧
    endsWith chunk.unitId (":" ++ chunk.chunkId) ∧
    replayed.chunk.segmentCount = replayed.segments.length

/-- The lookup among replayed chunks. -/
def mapAmongReplayed (digests : EvidenceDigests Time) (artifact : ParsedSourceArtifact Time)
    (chunk : RetrievalChunkReference Time) (replayed : List (ReplayedChunk Time)) :
    ChunkSegmentMapping :=
  match replayed.filter fun value => value.chunk.chunkId = chunk.chunkId with
  | [value] =>
      if isExact value chunk then foundMapping digests artifact chunk value.segments
      else failedMapping digests artifact chunk
  | _ => failedMapping digests artifact chunk

/-- `map_chunk_in_artifact`. An empty `replayed_chunks` counts as none. -/
def mapChunkInArtifact (digests : EvidenceDigests Time) (config : ChunkingConfig Time)
    (artifact : ParsedSourceArtifact Time) (chunk : RetrievalChunkReference Time)
    (replayedChunks : Option (List (ReplayedChunk Time))) :
    Except EvidenceContractError ChunkSegmentMapping := do
  let replayed ← match replayedChunks with
    | none | some [] => replaySourceChunks digests config artifact
    | some replayed => .ok replayed
  return mapAmongReplayed digests artifact chunk replayed

/-- The reference of an indexed chunk; the unit id names the video before the chunk. -/
def chunkReference (unit : String) (chunk : RawSubtitleChunk Time) :
    RetrievalChunkReference Time :=
  { unitId := unit ++ ":" ++ chunk.chunkId
    chunkId := chunk.chunkId
    startTime := chunk.startTime
    endTime := chunk.endTime
    sourceText := chunk.text
    contentHash := chunk.contentHash }

end Shiliu.Evidence
