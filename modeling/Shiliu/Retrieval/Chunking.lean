/-
Module: Shiliu.Retrieval.Chunking
Purpose: The chunker of raw subtitles, with its two loops as they stand in the source: the inner
  one fills a chunk with segments until a bound or the target is reached, the outer one steps back
  by one segment where chunks overlap. Seconds are of any type with a difference and an order, so
  nothing here depends on how floating-point numbers round.
Trusted boundary: none
Main exports: SubtitleSegment, ChunkingConfig, fillChunk, chunkLoop, buildRawSubtitleChunks
-/
import Mathlib.Data.List.Basic
import Shiliu.Storage.Basic

namespace Shiliu.Retrieval

open Shiliu.Storage

/-! ## Segments and chunks -/

/-- `SubtitleSegment`; `stop` is its `end`. -/
structure SubtitleSegment (Time : Type) where
  start : Time
  stop : Time
  content : String

/-- `ChunkingConfig`, with the checks of `__post_init__` on characters. -/
structure ChunkingConfig (Time : Type) where
  targetCharacters : Nat
  maximumCharacters : Nat
  maximumDurationSeconds : Time
  trailingSegmentOverlap : Bool
  target_positive : 0 < targetCharacters
  target_le_maximum : targetCharacters ≤ maximumCharacters

/-- `ChunkingConfig()`. -/
def ChunkingConfig.standard (Time : Type) [OfNat Time 120] : ChunkingConfig Time :=
  { targetCharacters := 800
    maximumCharacters := 1200
    maximumDurationSeconds := 120
    trailingSegmentOverlap := true
    target_positive := by decide
    target_le_maximum := by decide }

/-- `RawSubtitleChunk`. -/
structure RawSubtitleChunk (Time : Type) where
  chunkId : String
  startTime : Time
  endTime : Time
  text : String
  contentHash : String
  segmentCount : Nat

/-- The record whose JSON text a chunk id is the hash of. -/
structure ChunkIdentity (Time : Type) where
  platform : String
  sourceId : String
  part : Int
  sourceType : String
  startTime : Time
  endTime : Time
  contentHash : String

/-- The two hashes of a chunk, any functions of what is hashed. -/
structure ChunkDigests (Time : Type) where
  contentHash : String → String
  /-- `"chunk_" + sha256(identity).hexdigest()[:32]`. -/
  chunkId : ChunkIdentity Time → String

/-- The arguments of `build_raw_subtitle_chunks` that say whose subtitles these are. -/
structure ChunkOrigin where
  platform : String
  sourceId : String
  part : Int
  sourceType : String

variable {Time : Type}

/-- `_make_chunk`. -/
def makeChunk (digests : ChunkDigests Time) (origin : ChunkOrigin) (startTime endTime : Time)
    (text : String) (segmentCount : Nat) : RawSubtitleChunk Time :=
  let contentHash := digests.contentHash text
  { chunkId := digests.chunkId
      { platform := origin.platform
        sourceId := origin.sourceId
        part := origin.part
        sourceType := origin.sourceType
        startTime := startTime
        endTime := endTime
        contentHash := contentHash }
    startTime := startTime
    endTime := endTime
    text := text
    contentHash := contentHash
    segmentCount := segmentCount }

/-! ## The loops -/

/-- The variables of the inner loop. -/
structure Filling (Segment : Type) where
  cursor : Nat
  selected : List Segment
  characters : Nat

/-- The cursor after a chunk: one segment back where chunks overlap, and always past the segment
the chunk starts with. -/
def nextCursor (config : ChunkingConfig Time) (total startIndex cursor selected : Nat) : Nat :=
  let back :=
    if cursor < total ∧ config.trailingSegmentOverlap ∧ 1 < selected then cursor - 1 else cursor
  if back ≤ startIndex then startIndex + 1 else back

/-- The outer loop makes progress. -/
theorem lt_nextCursor (config : ChunkingConfig Time) (total startIndex cursor selected : Nat) :
    startIndex < nextCursor config total startIndex cursor selected := by
  unfold nextCursor
  grind

variable [Sub Time] [LT Time] [DecidableLT Time]

/-- The inner loop. -/
def fillChunk (config : ChunkingConfig Time) (usable : List (SubtitleSegment Time))
    (state : Filling (SubtitleSegment Time)) : Filling (SubtitleSegment Time) :=
  if inside : state.cursor < usable.length then
    let candidate := usable[state.cursor]
    let separator := if state.selected = [] then 0 else 1
    let nextCharacters := state.characters + separator + (strip candidate.content).length
    let firstStart := state.selected.head?.elim candidate.start SubtitleSegment.start
    let exceedsBound := state.selected ≠ [] ∧
      (config.maximumCharacters < nextCharacters ∨
        config.maximumDurationSeconds < candidate.stop - firstStart)
    if exceedsBound then state
    else
      let next : Filling (SubtitleSegment Time) :=
        { cursor := state.cursor + 1
          selected := state.selected ++ [candidate]
          characters := nextCharacters }
      if config.targetCharacters ≤ nextCharacters then next else fillChunk config usable next
  else state
termination_by usable.length - state.cursor

/-- The inner loop never moves back. -/
theorem le_fillChunk_cursor (config : ChunkingConfig Time) (usable : List (SubtitleSegment Time))
    (state : Filling (SubtitleSegment Time)) :
    state.cursor ≤ (fillChunk config usable state).cursor := by
  fun_induction fillChunk config usable state with
  | case1 => exact Nat.le_refl _
  | case2 => exact Nat.le_succ _
  | case3 state inside candidate separator nextCharacters firstStart exceedsBound within next
      below inductionHypothesis =>
      exact Nat.le_trans (Nat.le_succ _) inductionHypothesis
  | case4 => exact Nat.le_refl _

/-- `" ".join(segment.content.strip() for segment in selected)`. -/
def joinedText (selected : List (SubtitleSegment Time)) : String :=
  " ".intercalate (selected.map fun segment => strip segment.content)

omit [Sub Time] [LT Time] [DecidableLT Time] in
theorem joinedText_ne_empty {first : SubtitleSegment Time} {rest : List (SubtitleSegment Time)}
    (usable : strip first.content ≠ "") : joinedText (first :: rest) ≠ "" := by
  cases rest with
  | nil => simpa [joinedText] using usable
  | cons second rest =>
      rw [joinedText, List.map_cons, List.map_cons, String.intercalate_cons_cons]
      simp

/-- The outer loop. -/
def chunkLoop (digests : ChunkDigests Time) (origin : ChunkOrigin) (config : ChunkingConfig Time)
    (usable : List (SubtitleSegment Time)) (cursor : Nat) (chunks : List (RawSubtitleChunk Time)) :
    List (RawSubtitleChunk Time) :=
  if cursor < usable.length then
    let filled := fillChunk config usable ⟨cursor, [], 0⟩
    match filled.selected with
    | [] => chunkLoop digests origin config usable (filled.cursor + 1) chunks
    | first :: rest =>
        let selected := first :: rest
        let text := joinedText selected
        let grown :=
          if text ≠ "" then
            chunks ++ [makeChunk digests origin first.start (rest.getLastD first).stop text
              selected.length]
          else chunks
        chunkLoop digests origin config usable
          (nextCursor config usable.length cursor filled.cursor selected.length) grown
  else chunks
termination_by usable.length - cursor
decreasing_by
  · have := le_fillChunk_cursor config usable ⟨cursor, [], 0⟩
    simp only at this
    omega
  · have := lt_nextCursor config usable.length cursor
      (fillChunk config usable ⟨cursor, [], 0⟩).cursor (first :: rest).length
    omega

/-- `build_raw_subtitle_chunks`. -/
def buildRawSubtitleChunks (digests : ChunkDigests Time) (origin : ChunkOrigin)
    (config : ChunkingConfig Time) (segments : List (SubtitleSegment Time)) :
    List (RawSubtitleChunk Time) :=
  chunkLoop digests origin config
    (segments.filter fun segment => strip segment.content ≠ "") 0 []

end Shiliu.Retrieval
