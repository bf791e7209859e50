/-
Module: Shiliu.Evidence.ChunkReplay
Purpose: The two loops agree. The selection loop is simulated by the chunker step by step, from
  which the replay pairs every chunk with the segments it was made of; the lookup by id then finds
  that pair exactly when no other chunk of the artifact carries the id.
Trusted boundary: none
Main exports: MadeOf, fillChunk_map, replaySourceChunks_ok, indexed_chunk_maps_back
-/
import Mathlib.Algebra.Order.Ring.Int
import Shiliu.Evidence.Mapping

set_option linter.all false

namespace Shiliu.Evidence

open Shiliu.Library Shiliu.Retrieval Shiliu.Storage

/-! ## Chunks and what they are made of -/

section MadeOf

variable {Time : Type}

/-- The chunk has the text, the times and the number of the segments. -/
structure MadeOf (chunk : RawSubtitleChunk Time) (segments : List (RawEvidenceSegment Time)) :
    Prop where
  nonempty : segments ≠ []
  text : chunk.text = " ".intercalate (segments.map fun segment => strip segment.sourceText)
  startTime : chunk.startTime = (segments.head nonempty).startTime
  endTime : chunk.endTime = (segments.getLast nonempty).endTime
  segmentCount : chunk.segmentCount = segments.length

theorem makeChunk_madeOf (digests : ChunkDigests Time) (origin : ChunkOrigin)
    (first : RawEvidenceSegment Time) (rest : List (RawEvidenceSegment Time)) :
    MadeOf (makeChunk digests origin first.startTime (rest.getLastD first).endTime
      (joinedText ((first :: rest).map RawEvidenceSegment.subtitle)) (first :: rest).length)
      (first :: rest) where
  nonempty := List.cons_ne_nil _ _
  text := by
    rw [makeChunk, joinedText, List.map_map]
    rfl
  startTime := rfl
  endTime := by
    rw [List.getLast_eq_getLastD]
    rfl
  segmentCount := rfl

end MadeOf

/-! ## The loops, one against the other -/

section Loops

variable {Time : Type} [Sub Time] [LT Time] [DecidableLT Time] {config : ChunkingConfig Time}
  {usable : List (RawEvidenceSegment Time)}

/-- The state of the chunker where the selection loop is in a state. -/
def Filling.subtitles (state : Filling (RawEvidenceSegment Time)) :
    Filling (SubtitleSegment Time) :=
  { cursor := state.cursor
    selected := state.selected.map RawEvidenceSegment.subtitle
    characters := state.characters }

/-- The state of the selection loop after it took one more segment. -/
def Filling.take (state : Filling (RawEvidenceSegment Time)) (candidate : RawEvidenceSegment Time)
    (characters : Nat) : Filling (RawEvidenceSegment Time) :=
  ⟨state.cursor + 1, state.selected ++ [candidate], characters⟩

variable {state : Filling (RawEvidenceSegment Time)}

/-- One turn of the inner loop of the chunker, in the words of the selection loop. -/
theorem fillChunk_subtitles_turn (inside : state.cursor < usable.length) :
    fillChunk config (usable.map RawEvidenceSegment.subtitle) (Filling.subtitles state) =
      let candidate := usable[state.cursor]
      let characters := state.characters + (if state.selected = [] then 0 else 1) +
        (strip candidate.sourceText).length
      if state.selected ≠ [] ∧ (config.maximumCharacters < characters ∨
          config.maximumDurationSeconds < candidate.endTime -
            state.selected.head?.elim candidate.startTime RawEvidenceSegment.startTime) then
        Filling.subtitles state
      else if config.targetCharacters ≤ characters then
        Filling.subtitles (Filling.take state candidate characters)
      else
        fillChunk config (usable.map RawEvidenceSegment.subtitle)
          (Filling.subtitles (Filling.take state candidate characters)) := by
  have inside' : (Filling.subtitles state).cursor <
      (usable.map RawEvidenceSegment.subtitle).length := by
    rw [List.length_map]
    exact inside
  have head (candidate : RawEvidenceSegment Time) :
      (state.selected.map RawEvidenceSegment.subtitle).head?.elim candidate.subtitle.start
        SubtitleSegment.start =
      state.selected.head?.elim candidate.startTime RawEvidenceSegment.startTime := by
    cases state.selected <;> rfl
  rw [fillChunk, dif_pos inside']
  simp only [Filling.subtitles, Filling.take, List.getElem_map, List.map_append, List.map_cons,
    List.map_nil, List.map_eq_nil_iff, ne_eq, head]
  rfl

/-- The inner loops run in step. -/
theorem fillChunk_subtitles (config : ChunkingConfig Time)
    (usable : List (RawEvidenceSegment Time)) (state : Filling (RawEvidenceSegment Time)) :
    fillChunk config (usable.map RawEvidenceSegment.subtitle) (Filling.subtitles state) =
      Filling.subtitles (fillSelection config usable state) := by
  fun_induction fillSelection config usable state with
  | case1 state inside candidate separator nextCharacters firstStart exceedsBound exceeds =>
      rw [fillChunk_subtitles_turn inside]
      exact if_pos exceeds
  | case2 state inside candidate separator nextCharacters firstStart exceedsBound within next
      reached =>
      rw [fillChunk_subtitles_turn inside]
      exact (if_neg within).trans (if_pos reached)
  | case3 state inside candidate separator nextCharacters firstStart exceedsBound within next
      below inductionHypothesis =>
      rw [fillChunk_subtitles_turn inside]
      exact ((if_neg within).trans (if_neg below)).trans inductionHypothesis
  | case4 state outside =>
      have outside' : ¬ (Filling.subtitles state).cursor <
          (usable.map RawEvidenceSegment.subtitle).length := by
        rw [List.length_map]
        exact outside
      rw [fillChunk, dif_neg outside']

theorem mem_fillSelection {segment : RawEvidenceSegment Time}
    (member : segment ∈ (fillSelection config usable state).selected) :
    segment ∈ state.selected ∨ segment ∈ usable := by
  fun_induction fillSelection config usable state with
  | case1 => exact .inl member
  | case2 state inside =>
      rcases List.mem_append.mp member with old | new
      · exact .inl old
      · exact .inr (List.mem_singleton.mp new ▸ List.getElem_mem inside)
  | case3 state inside candidate separator nextCharacters firstStart exceedsBound within next
      below inductionHypothesis =>
      rcases inductionHypothesis member with taken | usable
      · rcases List.mem_append.mp taken with old | new
        · exact .inl old
        · exact .inr (List.mem_singleton.mp new ▸ List.getElem_mem inside)
      · exact .inr usable
  | case4 => exact .inl member

/-- The inner loop takes the first segment whatever its size, and never gives one back. -/
theorem fillSelection_ne_nil (taken : state.selected ≠ [] ∨ state.cursor < usable.length) :
    (fillSelection config usable state).selected ≠ [] := by
  fun_induction fillSelection config usable state with
  | case1 state inside candidate separator nextCharacters firstStart exceedsBound exceeds =>
      exact exceeds.1
  | case2 => exact List.append_ne_nil_of_right_ne_nil _ (List.cons_ne_nil _ _)
  | case3 state inside candidate separator nextCharacters firstStart exceedsBound within next
      below inductionHypothesis =>
      exact inductionHypothesis
        (.inl (List.append_ne_nil_of_right_ne_nil _ (List.cons_ne_nil _ _)))
  | case4 state outside => exact taken.resolve_right outside

theorem chunkLoop_madeOf {digests : ChunkDigests Time} {origin : ChunkOrigin}
    (config : ChunkingConfig Time) (usable : List (RawEvidenceSegment Time))
    (all : ∀ segment ∈ usable, strip segment.sourceText ≠ "") (cursor : Nat)
    (selections : List (List (RawEvidenceSegment Time))) :
    ∀ chunks, List.Forall₂ MadeOf chunks selections →
      List.Forall₂ MadeOf
        (chunkLoop digests origin config (usable.map RawEvidenceSegment.subtitle) cursor chunks)
        (selectionLoop config usable cursor selections) := by
  fun_induction selectionLoop config usable cursor selections with
  | case1 cursor selections inside filled grown inductionHypothesis =>
      intro chunks made
      have inStep : fillChunk config (usable.map RawEvidenceSegment.subtitle) ⟨cursor, [], 0⟩ =
          Filling.subtitles filled :=
        fillChunk_subtitles config usable ⟨cursor, [], 0⟩
      have inside' : cursor < (usable.map RawEvidenceSegment.subtitle).length := by
        rwa [List.length_map]
      have taken : filled.selected ≠ [] := fillSelection_ne_nil (.inr inside)
      rw [chunkLoop, if_pos inside']
      rw [inStep]
      cases isFilled : filled.selected with
      | nil => exact absurd isFilled taken
      | cons first rest =>
          have isSelected : (Filling.subtitles filled).selected =
              (first :: rest).map RawEvidenceSegment.subtitle :=
            congrArg (List.map RawEvidenceSegment.subtitle) isFilled
          have usableFirst : strip first.subtitle.content ≠ "" := by
            have selected : first ∈ filled.selected := isFilled ▸ List.mem_cons_self
            exact all first ((mem_fillSelection selected).resolve_left List.not_mem_nil)
          have isLast : ((rest.map RawEvidenceSegment.subtitle).getLastD first.subtitle).stop =
              (rest.getLastD first).endTime := by
            rw [List.getLastD_eq_getLast?, List.getLastD_eq_getLast?, List.getLast?_map]
            cases rest.getLast? <;> rfl
          have isGrown : grown = selections ++ [first :: rest] := by
            rw [← isFilled]
            exact if_pos taken
          have madeMore : List.Forall₂ MadeOf
              (chunks ++ [makeChunk digests origin first.startTime (rest.getLastD first).endTime
                (joinedText ((first :: rest).map RawEvidenceSegment.subtitle))
                (first :: rest).length]) (selections ++ [first :: rest]) :=
            List.rel_append made (.cons (makeChunk_madeOf digests origin first rest) .nil)
          have later := inductionHypothesis _ (isGrown ▸ madeMore)
          simp only [isSelected, List.map_cons, if_pos (joinedText_ne_empty usableFirst), isLast]
          simp only [isFilled, List.map_cons, List.length_cons, List.length_map] at later ⊢
          exact later
  | case2 cursor selections outside =>
      intro chunks made
      have outside' : ¬ cursor < (usable.map RawEvidenceSegment.subtitle).length := by
        rwa [List.length_map]
      rw [chunkLoop, if_neg outside']
      exact made

theorem artifactChunks_madeOf (digests : EvidenceDigests Time) (config : ChunkingConfig Time)
    (artifact : ParsedSourceArtifact Time) :
    List.Forall₂ MadeOf (artifactChunks digests config artifact)
      (frozenChunkSelections config (usableSegments artifact)) := by
  have sameUsable : (artifact.segments.map RawEvidenceSegment.subtitle).filter
      (fun segment => strip segment.content ≠ "") =
        (usableSegments artifact).map RawEvidenceSegment.subtitle :=
    List.filter_map
  rw [artifactChunks, buildRawSubtitleChunks, sameUsable]
  exact chunkLoop_madeOf config _ (fun segment member => of_decide_eq_true (List.mem_filter.mp member).2) 0 []
    [] .nil

end Loops

/-! ## The replay -/

section Replay

variable {Time : Type}

theorem zipWith_madeOf {chunks : List (RawSubtitleChunk Time)}
    {selections : List (List (RawEvidenceSegment Time))}
    (made : List.Forall₂ MadeOf chunks selections) :
    (List.zipWith ReplayedChunk.mk chunks selections).map ReplayedChunk.chunk = chunks ∧
      (List.zipWith ReplayedChunk.mk chunks selections).map ReplayedChunk.segments =
        selections ∧
      ∀ value ∈ List.zipWith ReplayedChunk.mk chunks selections,
        MadeOf value.chunk value.segments := by
  induction made with
  | nil => simp
  | @cons chunk segments chunks selections first rest inductionHypothesis =>
      obtain ⟨sameChunks, sameSelections, madeRest⟩ := inductionHypothesis
      simp only [List.zipWith_cons_cons, List.map_cons, sameChunks, sameSelections,
        List.forall_mem_cons]
      exact ⟨trivial, trivial, first, madeRest⟩

variable {digests : EvidenceDigests Time} {artifact : ParsedSourceArtifact Time}

/-- An accepted artifact is replayed: its chunks, each with its selection. -/
theorem replaySourceChunks_ok [Sub Time] [LT Time] [DecidableLT Time]
    {config : ChunkingConfig Time} (accepted : artifact.validationStatus.accepted = true) :
    replaySourceChunks digests config artifact =
      .ok (List.zipWith ReplayedChunk.mk (artifactChunks digests config artifact)
        (frozenChunkSelections config (usableSegments artifact))) := by
  have sameLength := (artifactChunks_madeOf digests config artifact).length_eq
  rw [replaySourceChunks, if_neg (by simp [accepted])]
  exact if_neg (not_not_intro sameLength)

/-! ## The lookup -/

/-- The mapping names the segments, and says whether they lie in one run. -/
structure MapsTo (mapping : ChunkSegmentMapping) (segments : List (RawEvidenceSegment Time)) :
    Prop where
  segmentIds : mapping.segmentIds = segments.map RawEvidenceSegment.segmentId
  segmentOrdinals : mapping.segmentOrdinals = segments.map RawEvidenceSegment.originalOrdinal
  status :
    (mapping.mappingStatus = .exactMapped ∧ ∃ run, mapping.timelineRunId = some run ∧
      ∀ segment ∈ segments, segment.timelineRunId = run) ∨
    (mapping.mappingStatus = .invalidCrossTimelineChunk ∧ mapping.timelineRunId = none ∧
      ∃ first ∈ segments, ∃ second ∈ segments, first.timelineRunId ≠ second.timelineRunId)

variable {chunk : RetrievalChunkReference Time} {value : ReplayedChunk Time}
  {replayed : List (ReplayedChunk Time)}

theorem foundMapping_mapsTo {segments : List (RawEvidenceSegment Time)} (nonempty : segments ≠ []) :
    MapsTo (foundMapping digests artifact chunk segments) segments where
  segmentIds := rfl
  segmentOrdinals := rfl
  status := by
    by_cases oneRun : (segments.map RawEvidenceSegment.timelineRunId).dedup.length = 1
    · obtain ⟨run, isRun⟩ := List.length_eq_one_iff.mp oneRun
      refine .inl ⟨by simp [foundMapping, oneRun], run, by simp [foundMapping, isRun],
        fun segment member => ?_⟩
      have among : segment.timelineRunId ∈
          (segments.map RawEvidenceSegment.timelineRunId).dedup :=
        List.mem_dedup.mpr (List.mem_map_of_mem member)
      rw [isRun] at among
      exact List.mem_singleton.mp among
    · refine .inr ⟨by simp [foundMapping, oneRun], by simp [foundMapping, oneRun], ?_⟩
      by_contra alike
      push Not at alike
      obtain ⟨first, rest, rfl⟩ := List.exists_cons_of_ne_nil nonempty
      refine oneRun (List.length_eq_one_iff.mpr ⟨first.timelineRunId, ?_⟩)
      have isConstant : (first :: rest).map RawEvidenceSegment.timelineRunId =
          List.replicate (first :: rest).length first.timelineRunId := by
        refine List.eq_replicate_iff.mpr ⟨List.length_map _, fun run member => ?_⟩
        obtain ⟨segment, isSegment, rfl⟩ := List.mem_map.mp member
        exact alike segment isSegment first List.mem_cons_self
      rw [isConstant]
      exact List.replicate_dedup (Nat.succ_ne_zero _)

variable [DecidableEq Time]

theorem isExact_chunkReference (unit : String) (made : MadeOf value.chunk value.segments) :
    isExact value (chunkReference unit value.chunk) = true := by
  have ends : endsWith (unit ++ ":" ++ value.chunk.chunkId) (":" ++ value.chunk.chunkId) =
      true := by
    rw [endsWith, List.isSuffixOf_iff_suffix, String.append_assoc,
      String.toList_append (s := unit)]
    exact List.suffix_append _ _
  simp [isExact, chunkReference, ends, made.segmentCount]

/-- The lookup finds a chunk exactly if its id occurs once. -/
theorem mapAmongReplayed_eq (unit : String) (member : value ∈ replayed)
    (made : MadeOf value.chunk value.segments) :
    mapAmongReplayed digests artifact (chunkReference unit value.chunk) replayed =
      if (replayed.map fun other => other.chunk.chunkId).count value.chunk.chunkId = 1 then
        foundMapping digests artifact (chunkReference unit value.chunk) value.segments
      else failedMapping digests artifact (chunkReference unit value.chunk) := by
  have occurrences : (replayed.map fun other => other.chunk.chunkId).count value.chunk.chunkId =
      (replayed.filter fun other => other.chunk.chunkId = value.chunk.chunkId).length := by
    rw [List.count, List.countP_map, List.countP_eq_length_filter]
    rfl
  have found : value ∈ replayed.filter fun other => other.chunk.chunkId = value.chunk.chunkId :=
    List.mem_filter.mpr ⟨member, decide_eq_true rfl⟩
  have sameId : (chunkReference unit value.chunk).chunkId = value.chunk.chunkId := rfl
  rw [occurrences, mapAmongReplayed, sameId]
  generalize (replayed.filter fun other => other.chunk.chunkId = value.chunk.chunkId) =
    candidates at found
  match candidates, found with
  | [other], found =>
      obtain rfl := List.mem_singleton.mp found
      exact (if_pos (isExact_chunkReference unit made)).trans (if_pos rfl).symm
  | first :: second :: rest, _ => rfl

variable [Sub Time] [LT Time] [DecidableLT Time] {config : ChunkingConfig Time}

/-- The chunks a caller replayed already make no difference. -/
theorem mapChunkInArtifact_ok {given : Option (List (ReplayedChunk Time))}
    (isReplay : replaySourceChunks digests config artifact = .ok replayed)
    (isGiven : given = none ∨ given = some replayed) :
    mapChunkInArtifact digests config artifact chunk given =
      .ok (mapAmongReplayed digests artifact chunk replayed) := by
  have replayedAgain (given : Option (List (ReplayedChunk Time)))
      (empty : given = none ∨ given = some []) :
      mapChunkInArtifact digests config artifact chunk given =
        .ok (mapAmongReplayed digests artifact chunk replayed) := by
    rcases empty with rfl | rfl
    · exact bind_eq_ok.mpr ⟨replayed, isReplay, rfl⟩
    · exact bind_eq_ok.mpr ⟨replayed, isReplay, rfl⟩
  rcases isGiven with rfl | rfl
  · exact replayedAgain none (.inl rfl)
  · cases replayed with
    | nil => exact replayedAgain (some []) (.inr rfl)
    | cons first rest => rfl

end Replay

/-- Of an accepted artifact, with the references its chunks are indexed under: the two loops agree,
chunk by chunk; and a chunk is mapped to the segments it was made of if its id occurs once among
the chunks of the artifact, and to none if it occurs again. -/
theorem indexed_chunk_maps_back {Time : Type} [Sub Time] [LT Time] [DecidableLT Time]
    [DecidableEq Time] (digests : EvidenceDigests Time) (config : ChunkingConfig Time)
    (artifact : ParsedSourceArtifact Time)
    (accepted : artifact.validationStatus.accepted = true) :
    let chunks := artifactChunks digests config artifact
    let selections := frozenChunkSelections config (usableSegments artifact)
    List.Forall₂ MadeOf chunks selections ∧
      ∃ replayed, replaySourceChunks digests config artifact = .ok replayed ∧
        ∀ (unit : String) (given : Option (List (ReplayedChunk Time))),
          given = none ∨ given = some replayed →
            ∀ chunk segments, (chunk, segments) ∈ chunks.zip selections →
              ∃ mapping, mapChunkInArtifact digests config artifact (chunkReference unit chunk)
                  given = .ok mapping ∧
                if (chunks.map RawSubtitleChunk.chunkId).count chunk.chunkId = 1 then
                  MapsTo mapping segments
                else mapping.mappingStatus = .chunkSegmentMappingFailed := by
  intro chunks selections
  have made : List.Forall₂ MadeOf chunks selections := artifactChunks_madeOf digests config artifact
  have isReplay : replaySourceChunks digests config artifact =
      .ok (List.zipWith ReplayedChunk.mk chunks selections) := replaySourceChunks_ok accepted
  obtain ⟨sameChunks, -, madeEach⟩ := zipWith_madeOf made
  refine ⟨made, _, isReplay, fun unit given isGiven chunk segments paired => ?_⟩
  have member : ⟨chunk, segments⟩ ∈ List.zipWith ReplayedChunk.mk chunks selections := by
    rw [← List.map_uncurry_zip_eq_zipWith]
    exact List.mem_map_of_mem paired
  have madeOf : MadeOf chunk segments := madeEach _ member
  have isFound : mapAmongReplayed digests artifact (chunkReference unit chunk)
      (List.zipWith ReplayedChunk.mk chunks selections) =
        if (chunks.map RawSubtitleChunk.chunkId).count chunk.chunkId = 1 then
          foundMapping digests artifact (chunkReference unit chunk) segments
        else failedMapping digests artifact (chunkReference unit chunk) := by
    have sameIds : chunks.map RawSubtitleChunk.chunkId =
        (List.zipWith ReplayedChunk.mk chunks selections).map fun value => value.chunk.chunkId :=
      (congrArg (List.map RawSubtitleChunk.chunkId) sameChunks).symm.trans List.map_map
    rw [sameIds]
    exact mapAmongReplayed_eq unit member madeOf
  refine ⟨_, mapChunkInArtifact_ok isReplay isGiven, ?_⟩
  rw [isFound]
  split
  · exact foundMapping_mapsTo madeOf.nonempty
  · rfl

/-! ## Segments that differ, and segments that repeat -/

/-- Digests that spell out what they are of, over whole seconds. -/
def plainDigests : EvidenceDigests Int :=
  { contentHash := fun text => "text:" ++ text
    chunkId := fun identity =>
      " ".intercalate [identity.platform, identity.sourceId, toString identity.part,
        identity.sourceType, toString identity.startTime, toString identity.endTime,
        identity.contentHash]
    sourceArtifactId := fun identity => identity.platform ++ " " ++ identity.sourceId
    segmentId := fun artifact version ordinal =>
      " ".intercalate [artifact, version, toString ordinal]
    segmentDigest := fun start stop content =>
      " ".intercalate [toString start, toString stop, content]
    timelineRunId := fun version run => version ++ " " ++ toString run
    mappingDigest := fun identity => identity.parentChunkId }

/-- Whole numbers of seconds, written in digits. -/
def plainReader : SecondsReader Int :=
  { float := fun value =>
      match value with
      | .text _ => none
      | .other rendering =>
          some (rendering.toList.foldl (fun value digit => 10 * value + (digit.toNat - 48)) 0)
    isFinite := fun _ => true }

def plainReference : SourceArtifactReference :=
  { platform := "bilibili"
    sourceId := "BV1"
    part := 1
    sourceType := "ai"
    artifactRole := "raw_subtitle"
    sourceLineage := none }

/-- A segment of two hundred seconds, more than a chunk may last. -/
def longSegment (content : String) : JsonItem :=
  .object [("from", .other "0"), ("to", .other "200"), ("content", .text content)]

/-- The artifact of some long segments. -/
def longArtifact (contents : List String) :
    Except EvidenceContractError (ParsedSourceArtifact Int) :=
  loadSourceArtifact plainDigests plainReader 0 plainReference "v1" none
    (.array (contents.map longSegment))

/-- What each chunk of an artifact is mapped to. -/
def mappingStatuses (artifact : ParsedSourceArtifact Int) : List (Option MappingStatus) :=
  (artifactChunks plainDigests (ChunkingConfig.standard Int) artifact).map fun chunk =>
    (mapChunkInArtifact plainDigests (ChunkingConfig.standard Int) artifact
      (chunkReference "transcript_chunk" chunk) none).toOption.map
        ChunkSegmentMapping.mappingStatus

/-- Two segments with words of their own. -/
theorem indexed_chunk_maps_back_twoSegments :
    ∃ artifact, longArtifact ["tea", "noon"] = .ok artifact ∧
      List.Forall₂ MadeOf
        (artifactChunks plainDigests (ChunkingConfig.standard Int) artifact)
        (frozenChunkSelections (ChunkingConfig.standard Int) (usableSegments artifact)) ∧
      mappingStatuses artifact = [some .exactMapped, some .exactMapped] := by
  refine ⟨_, rfl, (indexed_chunk_maps_back plainDigests (ChunkingConfig.standard Int) _ ?_).1, ?_⟩
  · decide +kernel
  · decide +kernel

/-- The same segment twice: validation accepts it, each copy is a chunk, the two chunks have one
id, and neither is mapped. -/
theorem repeated_segment_not_mapped :
    (longArtifact ["tea", "tea"]).toOption.map (fun artifact =>
      (artifact.validationStatus, mappingStatuses artifact)) =
        some (.validSingleRun,
          [some .chunkSegmentMappingFailed, some .chunkSegmentMappingFailed]) := by
  decide +kernel

end Shiliu.Evidence
