/-
Module: Shiliu.Ask.RawRuns
Purpose: Spans of one source. Its segments have their ids and their places in common, whatever the
  spans say of their texts, so spans that touch merge into a run that can be cited, and a segment
  behind the last one just goes on with it.
Trusted boundary: none
Main exports: Aligned, RawPlaces, citable_mergedSegments, mergedSegments_concat, mergeSpans_touching
-/
import Shiliu.Ask.Context
import Shiliu.Library.Consecutive

set_option linter.all false

namespace Shiliu.Ask

open Shiliu.Library Shiliu.Storage

variable {Time : Type}

/-! ## Places -/

/-- Segments of one timeline run: an id belongs to an ordinal, and the local ordinals ascend with
the ordinals. -/
structure Aligned (first second : EvidenceSegment Time) : Prop where
  sameId : first.segmentId = second.segmentId ↔ first.originalOrdinal = second.originalOrdinal
  ascends : first.originalOrdinal < second.originalOrdinal ↔
    first.runLocalOrdinal < second.runLocalOrdinal

instance (first second : EvidenceSegment Time) : Decidable (Aligned first second) :=
  decidable_of_iff
    ((first.segmentId = second.segmentId ↔ first.originalOrdinal = second.originalOrdinal) ∧
      (first.originalOrdinal < second.originalOrdinal ↔
        first.runLocalOrdinal < second.runLocalOrdinal))
    ⟨fun both => ⟨both.1, both.2⟩, fun aligned => ⟨aligned.sameId, aligned.ascends⟩⟩

/-- Which segments there are in which run. -/
structure RawPlaces (Time : Type) where
  Has : Lineage → EvidenceSegment Time → Prop
  aligned : ∀ lineage first second, Has lineage first → Has lineage second → Aligned first second

/-- The segments of the span are segments of its run. -/
def Placed (places : RawPlaces Time) (span : TranscriptEvidenceSpan Time) : Prop :=
  ∀ segment ∈ span.segments, places.Has span.lineage segment

section Merged

variable {left right segments : List (EvidenceSegment Time)} {segment : EvidenceSegment Time}

/-- A dictionary of rows has the last row of each key. -/
theorem mem_foldl_assign (segments : List (EvidenceSegment Time)) :
    (∀ row ∈ segments.foldl Table.assign
        (Table.empty (@EvidenceSegment.segmentId Time)), row ∈ segments) ∧
    ∀ segment ∈ segments, ∃ row ∈ segments.foldl Table.assign
        (Table.empty (@EvidenceSegment.segmentId Time)),
      row.segmentId = segment.segmentId := by
  induction segments using List.reverseRecOn with
  | nil => exact ⟨fun row isRow => absurd isRow (Table.not_mem_empty row), fun _ member => nomatch member⟩
  | append_singleton segments last inductionHypothesis =>
      obtain ⟨rows, keys⟩ := inductionHypothesis
      rw [List.foldl_append, List.foldl_cons, List.foldl_nil]
      constructor
      · intro row isRow
        rcases Table.mem_assign.mp isRow with rfl | ⟨earlier, -⟩
        · exact List.mem_append_right _ List.mem_cons_self
        · exact List.mem_append_left _ (rows row earlier)
      · intro segment member
        by_cases same : last.segmentId = segment.segmentId
        · exact ⟨last, Table.mem_assign.mpr (.inl rfl), same⟩
        · rcases List.mem_append.mp member with earlier | isLast
          · obtain ⟨row, isRow, sameKey⟩ := keys segment earlier
            refine ⟨row, Table.mem_assign.mpr (.inr ⟨isRow, ?_⟩), sameKey⟩
            rw [sameKey]
            exact Ne.symm same
          · rw [List.mem_singleton] at isLast
            exact absurd (isLast ▸ rfl) same

theorem mem_of_mem_mergedSegments (member : segment ∈ mergedSegments left right) :
    segment ∈ left ∨ segment ∈ right :=
  List.mem_append.mp ((mem_foldl_assign (left ++ right)).1 segment ((mem_sortedBy _).mp member))

theorem exists_mem_mergedSegments (member : segment ∈ left ∨ segment ∈ right) :
    ∃ row ∈ mergedSegments left right, row.segmentId = segment.segmentId := by
  obtain ⟨row, isRow, sameId⟩ :=
    (mem_foldl_assign (left ++ right)).2 segment (List.mem_append.mpr member)
  exact ⟨row, (mem_sortedBy _).mpr isRow, sameId⟩

theorem nodup_mergedSegments (left right : List (EvidenceSegment Time)) :
    ((mergedSegments left right).map EvidenceSegment.segmentId).Nodup :=
  ((sortedBy_perm _ _).map _).nodup_iff.mpr (Table.unique _)

theorem pairwise_mergedSegments (left right : List (EvidenceSegment Time)) :
    (mergedSegments left right).Pairwise fun first second =>
      first.originalOrdinal ≤ second.originalOrdinal :=
  pairwise_sortedBy EvidenceSegment.originalOrdinal _

end Merged

/-! ## Merging runs of one source -/

section Places

variable {places : RawPlaces Time} {lineage : Lineage}
  {left right : List (EvidenceSegment Time)}

theorem Aligned.sameLocal {first second : EvidenceSegment Time} (aligned : Aligned first second)
    (reversed : Aligned second first) :
    first.segmentId = second.segmentId ↔ first.runLocalOrdinal = second.runLocalOrdinal := by
  have one := aligned.ascends
  have other := reversed.ascends
  rw [aligned.sameId]
  omega

variable (inLeft : ∀ segment ∈ left, places.Has lineage segment)
  (inRight : ∀ segment ∈ right, places.Has lineage segment)

include inLeft inRight

theorem has_of_mem_mergedSegments {segment : EvidenceSegment Time}
    (member : segment ∈ mergedSegments left right) : places.Has lineage segment := by
  rcases mem_of_mem_mergedSegments member with fromLeft | fromRight
  · exact inLeft segment fromLeft
  · exact inRight segment fromRight

theorem ascending_mergedSegments :
    (mergedSegments left right).Pairwise fun first second =>
      first.originalOrdinal < second.originalOrdinal := by
  have distinct := List.pairwise_map.mp (nodup_mergedSegments left right)
  refine ((pairwise_mergedSegments left right).and distinct).imp_of_mem ?_
  intro first second isFirst isSecond ⟨ordered, different⟩
  have aligned := places.aligned lineage first second
    (has_of_mem_mergedSegments inLeft inRight isFirst)
    (has_of_mem_mergedSegments inLeft inRight isSecond)
  exact Nat.lt_of_le_of_ne ordered fun same => different (aligned.sameId.mpr same)

theorem mem_localOrdinals_mergedSegments (ordinal : Nat) :
    ordinal ∈ (mergedSegments left right).map EvidenceSegment.runLocalOrdinal ↔
      ordinal ∈ left.map EvidenceSegment.runLocalOrdinal ∨
        ordinal ∈ right.map EvidenceSegment.runLocalOrdinal := by
  simp only [List.mem_map]
  constructor
  · rintro ⟨segment, member, rfl⟩
    rcases mem_of_mem_mergedSegments member with fromLeft | fromRight
    · exact .inl ⟨segment, fromLeft, rfl⟩
    · exact .inr ⟨segment, fromRight, rfl⟩
  · intro either
    obtain ⟨segment, member, rfl⟩ : ∃ segment, (segment ∈ left ∨ segment ∈ right) ∧
        segment.runLocalOrdinal = ordinal := by
      rcases either with ⟨segment, fromLeft, isOrdinal⟩ | ⟨segment, fromRight, isOrdinal⟩
      · exact ⟨segment, .inl fromLeft, isOrdinal⟩
      · exact ⟨segment, .inr fromRight, isOrdinal⟩
    obtain ⟨row, isRow, sameId⟩ := exists_mem_mergedSegments member
    have hasRow := has_of_mem_mergedSegments inLeft inRight isRow
    have hasSegment : places.Has lineage segment := by
      rcases member with fromLeft | fromRight
      · exact inLeft segment fromLeft
      · exact inRight segment fromRight
    refine ⟨row, isRow, ?_⟩
    exact ((places.aligned _ _ _ hasRow hasSegment).sameLocal
      (places.aligned _ _ _ hasSegment hasRow)).mp sameId

/-- Runs of one source that touch merge into a run. -/
theorem citable_mergedSegments (leftCitable : Citable left) (rightCitable : Citable right)
    (touching : Touching (left.map EvidenceSegment.runLocalOrdinal)
      (right.map EvidenceSegment.runLocalOrdinal)) :
    Citable (mergedSegments left right) where
  nonempty := by
    obtain ⟨first, isFirst⟩ := List.exists_mem_of_ne_nil _ leftCitable.nonempty
    obtain ⟨row, isRow, -⟩ := exists_mem_mergedSegments (.inl isFirst : first ∈ left ∨ first ∈ right)
    exact List.ne_nil_of_mem isRow
  distinct := nodup_mergedSegments left right
  ordered := (ascending_mergedSegments inLeft inRight).isChain
  contiguous := by
    have leftFree := gapFree_of_consecutive ((List.isChain_map _).mpr leftCitable.contiguous)
    have rightFree := gapFree_of_consecutive ((List.isChain_map _).mpr rightCitable.contiguous)
    refine (List.isChain_map EvidenceSegment.runLocalOrdinal).mp (consecutive_of_gapFree ?_ ?_)
    · refine List.pairwise_map.mpr ((ascending_mergedSegments inLeft inRight).imp_of_mem ?_)
      intro first second isFirst isSecond
      exact (places.aligned lineage first second
        (has_of_mem_mergedSegments inLeft inRight isFirst)
        (has_of_mem_mergedSegments inLeft inRight isSecond)).ascends.mp
    · exact leftFree.union rightFree touching (mem_localOrdinals_mergedSegments inLeft inRight)

end Places

/-! ## Going on with the next segment -/

/-- A dictionary of rows with keys of their own has all of them. -/
theorem rows_foldl_assign_of_nodup {segments : List (EvidenceSegment Time)}
    (nodup : (segments.map EvidenceSegment.segmentId).Nodup) :
    (segments.foldl Table.assign
      (Table.empty (@EvidenceSegment.segmentId Time))).rows = segments := by
  induction segments using List.reverseRecOn with
  | nil => rfl
  | append_singleton segments last inductionHypothesis =>
      rw [List.map_append, List.nodup_append] at nodup
      have rows := inductionHypothesis nodup.1
      have absent : (segments.foldl Table.assign
          (Table.empty (@EvidenceSegment.segmentId Time))).lookup last.segmentId = none := by
        rw [Table.lookup_eq_none]
        intro row isRow
        rw [Table.mem_rows, rows] at isRow
        exact nodup.2.2 _ (List.mem_map_of_mem isRow) _ (by simp)
      rw [List.foldl_append, List.foldl_cons, List.foldl_nil, Table.assign, absent]
      exact (Table.rows_insert absent).trans (by rw [rows])

section Next

variable {places : RawPlaces Time} {lineage : Lineage} {left : List (EvidenceSegment Time)}
  {segment last : EvidenceSegment Time}

theorem local_lt_of_follows (citable : Citable left) (isLast : left.getLast? = some last)
    (follows : last.runLocalOrdinal + 1 = segment.runLocalOrdinal) :
    ∀ earlier ∈ left, earlier.runLocalOrdinal < segment.runLocalOrdinal := by
  obtain ⟨before, rfl⟩ := List.getLast?_eq_some_iff.mp isLast
  have ascending := ascending_of_consecutive ((List.isChain_map _).mpr citable.contiguous)
  rw [List.map_append, List.pairwise_append] at ascending
  intro earlier member
  rcases List.mem_append.mp member with isBefore | isLast
  · have := ascending.2.2 _ (List.mem_map_of_mem isBefore) last.runLocalOrdinal (by simp)
    omega
  · rw [List.mem_singleton.mp isLast]
    omega

variable (placed : ∀ segment ∈ left, places.Has lineage segment)
  (has : places.Has lineage segment) (citable : Citable left)
  (isLast : left.getLast? = some last)
  (follows : last.runLocalOrdinal + 1 = segment.runLocalOrdinal)

include placed has citable isLast follows

theorem citable_concat : Citable (left ++ [segment]) := by
  have before := local_lt_of_follows citable isLast follows
  have fresh : ∀ earlier ∈ left, earlier.segmentId ≠ segment.segmentId := by
    intro earlier member same
    have aligned := places.aligned lineage _ _ (placed earlier member) has
    have reversed := places.aligned lineage _ _ has (placed earlier member)
    exact Nat.ne_of_lt (before earlier member) ((aligned.sameLocal reversed).mp same)
  have append : ∀ {relation : EvidenceSegment Time → EvidenceSegment Time → Prop},
      left.IsChain relation → relation last segment → (left ++ [segment]).IsChain relation := by
    intro relation chain related
    refine chain.append (.singleton _) fun first isFirst second isSecond => ?_
    rw [isLast] at isFirst
    obtain rfl := Option.some.inj isFirst
    obtain rfl : segment = second := Option.some.inj isSecond
    exact related
  have lastMember : last ∈ left := List.mem_of_getLast? isLast
  constructor
  · exact List.append_ne_nil_of_right_ne_nil _ (List.cons_ne_nil _ _)
  · rw [List.map_append, List.nodup_append]
    refine ⟨citable.distinct, by simp, ?_⟩
    intro first isFirst second isSecond
    obtain ⟨earlier, member, rfl⟩ := List.mem_map.mp isFirst
    rw [List.map_singleton, List.mem_singleton] at isSecond
    exact isSecond ▸ fresh earlier member
  · refine append citable.ordered ?_
    exact (places.aligned lineage _ _ (placed last lastMember) has).ascends.mpr
      (before last lastMember)
  · exact append citable.contiguous follows.symm

/-- Merging the run with the segment appends it. -/
theorem mergedSegments_concat : mergedSegments left [segment] = left ++ [segment] := by
  have concat := citable_concat placed has citable isLast follows
  rw [mergedSegments, rows_foldl_assign_of_nodup concat.distinct]
  have ordered := List.isChain_iff_pairwise.mp
    ((List.isChain_map EvidenceSegment.originalOrdinal).mpr concat.ordered)
  exact sortedBy_of_pairwise _ ((List.pairwise_map.mp ordered).imp Nat.le_of_lt)

end Next

/-! ## Merging spans -/

section Spans

variable {places : RawPlaces Time} {rules : AskRules Time} {left right : TranscriptEvidenceSpan Time}

theorem sameLineage_iff :
    sameLineage left right = true ↔ left.videoId = right.videoId ∧ left.lineage = right.lineage := by
  rw [sameLineage, decide_eq_true_eq]

theorem mergeSpans_ok (lawful : rules.toUrlLibrary.Lawful) (formed : Formed rules left)
    (citable : Citable (mergedSegments left.segments right.segments)) :
    ∃ merged, mergeSpans rules left right = .ok merged ∧
      CutFrom rules left (mergedSegments left.segments right.segments) merged :=
  spanWithSegments_ok lawful formed.linked citable _ _ _

/-- Spans of one source that touch can be merged. -/
theorem mergeSpans_touching (lawful : rules.toUrlLibrary.Lawful)
    (formed : Formed rules left) (rightFormed : Formed rules right)
    (placed : Placed places left) (rightPlaced : Placed places right)
    (same : sameLineage left right = true)
    (touching : Touching left.localOrdinals right.localOrdinals) :
    ∃ merged, mergeSpans rules left right = .ok merged ∧
      CutFrom rules left (mergedSegments left.segments right.segments) merged ∧
      Placed places merged := by
  have sameRun := (sameLineage_iff.mp same).2
  have inRight : ∀ segment ∈ right.segments, places.Has left.lineage segment :=
    sameRun ▸ rightPlaced
  obtain ⟨merged, isMerged, cut⟩ := mergeSpans_ok lawful formed
    (citable_mergedSegments placed inRight formed.citable rightFormed.citable touching)
  refine ⟨merged, isMerged, cut, fun segment member => ?_⟩
  rw [cut.carried] at member
  rw [cut.lineage]
  exact has_of_mem_mergedSegments placed inRight member

end Spans

/-! ## Segments with their lineage -/

/-- The segments of the span, with its lineage. -/
def TranscriptEvidenceSpan.pieces (span : TranscriptEvidenceSpan Time) :
    List (Lineage × EvidenceSegment Time) :=
  span.segments.map fun segment => (span.lineage, segment)

/-- Where a piece is from. -/
def coordinate (piece : Lineage × EvidenceSegment Time) : RawCoordinate :=
  ⟨piece.1, piece.2.originalOrdinal⟩

/-- All pieces of some spans. -/
def delivered (spans : List (TranscriptEvidenceSpan Time)) : List (Lineage × EvidenceSegment Time) :=
  spans.flatMap TranscriptEvidenceSpan.pieces

section Pieces

variable {places : RawPlaces Time} {rules : AskRules Time} {last single merged : TranscriptEvidenceSpan Time}
  {span : TranscriptEvidenceSpan Time} {segment : EvidenceSegment Time}
  {selected : List (TranscriptEvidenceSpan Time)}

theorem delivered_append {more : List (TranscriptEvidenceSpan Time)} :
    delivered (selected ++ more) = delivered selected ++ delivered more := by
  rw [delivered, List.flatMap_append]
  rfl

theorem delivered_singleton : delivered [span] = span.pieces := by
  rw [delivered, List.flatMap_singleton]

theorem exists_single (lawful : rules.toUrlLibrary.Lawful) (linked : span.Linked rules)
    (has : places.Has span.lineage segment) :
    ∃ single, spanWithSegments rules span [segment] none none none = .ok single ∧
      CutFrom rules span [segment] single ∧ Placed places single ∧
      single.pieces = [(span.lineage, segment)] := by
  obtain ⟨single, isSingle, cut⟩ := spanWithSegments_ok lawful linked (citable_singleton segment)
    none none none
  refine ⟨single, isSingle, cut, fun other member => ?_, ?_⟩
  · rw [cut.carried, List.mem_singleton] at member
    rw [cut.lineage, member]
    exact has
  · rw [TranscriptEvidenceSpan.pieces, cut.carried, cut.lineage]
    rfl

theorem exists_appended (lawful : rules.toUrlLibrary.Lawful) (formed : Formed rules last)
    (placed : Placed places last) (cut : CutFrom rules span [segment] single)
    (has : places.Has span.lineage segment) (same : sameLineage last single = true)
    (follows : last.followedBy segment = true) :
    ∃ merged, mergeSpans rules last single = .ok merged ∧
      CutFrom rules last (last.segments ++ [segment]) merged ∧ Placed places merged ∧
      merged.pieces = last.pieces ++ [(span.lineage, segment)] := by
  have sameRun : last.lineage = span.lineage := (sameLineage_iff.mp same).2.trans cut.lineage
  rw [← sameRun] at has ⊢
  obtain ⟨final, isFinal, isNext⟩ := (Option.any_eq_true ..).mp follows
  have isNext := of_decide_eq_true isNext
  have concat := mergedSegments_concat placed has formed.citable isFinal isNext
  have citable := citable_concat placed has formed.citable isFinal isNext
  rw [← concat, ← cut.carried] at citable
  obtain ⟨merged, isMerged, mergedCut⟩ := mergeSpans_ok lawful formed citable
  rw [cut.carried, concat] at mergedCut
  refine ⟨merged, isMerged, mergedCut, fun other member => ?_, ?_⟩
  · rw [mergedCut.carried, List.mem_append, List.mem_singleton] at member
    rw [mergedCut.lineage]
    rcases member with earlier | rfl
    · exact placed other earlier
    · exact has
  · rw [TranscriptEvidenceSpan.pieces, mergedCut.carried, mergedCut.lineage, List.map_append]
    rfl

end Pieces

/-! ## The places of some spans -/

/-- Spans of one run have segments of one source. -/
def OneSource (spans : List (TranscriptEvidenceSpan Time)) : Prop :=
  ∀ left ∈ spans, ∀ right ∈ spans, left.lineage = right.lineage →
    ∀ first ∈ left.segments, ∀ second ∈ right.segments, Aligned first second

instance (spans : List (TranscriptEvidenceSpan Time)) : Decidable (OneSource spans) :=
  inferInstanceAs (Decidable (∀ left ∈ spans, ∀ right ∈ spans, left.lineage = right.lineage →
    ∀ first ∈ left.segments, ∀ second ∈ right.segments, Aligned first second))

/-- The segments the spans show of each run. -/
def placesOf (spans : List (TranscriptEvidenceSpan Time)) (oneSource : OneSource spans) :
    RawPlaces Time where
  Has lineage segment := ∃ span ∈ spans, span.lineage = lineage ∧ segment ∈ span.segments
  aligned := by
    rintro lineage first second ⟨left, isLeft, rfl, isFirst⟩ ⟨right, isRight, same, isSecond⟩
    exact oneSource left isLeft right isRight same.symm first isFirst second isSecond

theorem placed_placesOf {spans : List (TranscriptEvidenceSpan Time)} (oneSource : OneSource spans)
    {span : TranscriptEvidenceSpan Time} (isSpan : span ∈ spans) :
    Placed (placesOf spans oneSource) span :=
  fun _ member => ⟨span, isSpan, rfl, member⟩

/-! ## A source of short segments -/

/-- Tenths of seconds, and a URL that is the same throughout the first second. -/
def sampleRules : AskRules Nat where
  urlsplit _ := ⟨"https", "www.bilibili.com", "/video/BV1", "t=0", ""⟩
  urlunsplit _ := "https://www.bilibili.com/video/BV1?t=0"
  parseQsl _ := [("t", "0")]
  urlencode _ := "t=0"
  wholeSeconds tenths := tenths / 10
  citationDigest identity := "citation_v1_" ++ String.join identity.orderedSegmentIds
  dumps payload := String.join (payload.transcriptEvidence.map ContextItem.quote)
  reprCoordinate coordinate := toString coordinate.originalOrdinal

theorem sampleRules_lawful : sampleRules.toUrlLibrary.Lawful where
  rejoined base query _ _ _ := by
    change let url := strip "https://www.bilibili.com/video/BV1?t=0"
      url ≠ "" ∧ url.startsWith "//" = false ∧ "https" ∈ ["http", "https"] ∧ "www.bilibili.com" ≠ ""
    decide +kernel
  encoded _ _ := by
    change "t=0" ≠ ""
    decide

def sampleSegment (ordinal : Nat) : EvidenceSegment Nat :=
  ⟨"segment-" ++ toString ordinal, ordinal, ordinal, ordinal, ordinal + 1, "a"⟩

/-- The span of some segments. -/
def sampleSpan (ordinals : List Nat) : TranscriptEvidenceSpan Nat where
  citationId := sampleRules.citationDigest ⟨⟨"artifact", "version", "run"⟩,
    ordinals.map fun ordinal => (sampleSegment ordinal).segmentId⟩
  videoId := 1
  bvid := "BV1"
  title := "title"
  sourceArtifactId := "artifact"
  sourceVersion := "version"
  timelineRunId := "run"
  segmentIds := ordinals.map fun ordinal => (sampleSegment ordinal).segmentId
  segmentOrdinals := ordinals
  startTime := 0
  endTime := 10
  quoteText := quoteOf (ordinals.map sampleSegment)
  jumpUrl := "https://www.bilibili.com/video/BV1?t=0"
  parentChunkIds := []
  retrievalProvenance := [⟨some 1, ""⟩]
  segments := ordinals.map sampleSegment
  fusionScore := 0

theorem linked_sampleSpan (ordinals : List Nat) : (sampleSpan ordinals).Linked sampleRules := by
  refine ⟨"https://www.bilibili.com/video/BV1?t=0", 0, ?_⟩
  change buildBilibiliJumpUrl sampleRules.toUrlLibrary "https://www.bilibili.com/video/BV1?t=0"
    "BV1" 0 = some "https://www.bilibili.com/video/BV1?t=0"
  decide +kernel

end Shiliu.Ask
