/-
Module: Shiliu.Ask.Fusion
Purpose: What fusion makes of the occurrences of each citation id. The score is added up over the
  occurrences while repeated provenance is dropped, so fusing a result again gives the same scores
  only if no provenance entry was repeated. The order of the input never matters.
Trusted boundary: none
Main exports: occurrences, totalScore, NoRepeats, lookup_byIdentity, fuseEvidence_stable_iff
-/
import Mathlib.Tactic.Positivity
import Shiliu.Ask.Context

set_option linter.all false

namespace Shiliu.Ask

open Shiliu.Library

variable {Time : Type}

/-! ## Occurrences -/

/-- The spans with a citation id. -/
def occurrences (citationId : String) (spans : List (TranscriptEvidenceSpan Time)) :
    List (TranscriptEvidenceSpan Time) :=
  spans.filter fun span => span.citationId = citationId

/-- What they score together. -/
def totalScore (citationId : String) (spans : List (TranscriptEvidenceSpan Time)) : ℚ :=
  ((occurrences citationId spans).map occurrenceScore).sum

/-- All their provenance. -/
def allProvenance (citationId : String) (spans : List (TranscriptEvidenceSpan Time)) :
    List ProvenanceEntry :=
  (occurrences citationId spans).flatMap TranscriptEvidenceSpan.retrievalProvenance

/-- A span that the others join, in their order. -/
def joined (first : TranscriptEvidenceSpan Time) (rest : List (TranscriptEvidenceSpan Time)) :
    TranscriptEvidenceSpan Time :=
  rest.foldl (fun existing span => (absorb span).apply existing) first

/-- What becomes of the occurrences. -/
def fusedSpan : List (TranscriptEvidenceSpan Time) → Option (TranscriptEvidenceSpan Time)
  | [] => none
  | first :: rest => some (joined (scored first) rest)

section Joined

variable {first span : TranscriptEvidenceSpan Time} {rest : List (TranscriptEvidenceSpan Time)}

theorem joined_cons : joined first (span :: rest) = joined ((absorb span).apply first) rest := rfl

theorem joined_concat : joined first (rest ++ [span]) = (absorb span).apply (joined first rest) := by
  rw [joined, List.foldl_append]
  rfl

/-- The span that was first keeps its place. -/
theorem joined_keeps :
    (joined first rest).citationId = first.citationId ∧
      (joined first rest).videoId = first.videoId ∧
      (joined first rest).startTime = first.startTime := by
  induction rest generalizing first with
  | nil => exact ⟨rfl, rfl, rfl⟩
  | cons span rest inductionHypothesis => exact inductionHypothesis

theorem fusionScore_joined :
    (joined first rest).fusionScore = first.fusionScore + (rest.map occurrenceScore).sum := by
  induction rest generalizing first with
  | nil => simp [joined]
  | cons span rest inductionHypothesis =>
      rw [joined_cons, inductionHypothesis, List.map_cons, List.sum_cons, ← add_assoc]
      rfl

theorem retrievalProvenance_joined (several : rest ≠ []) :
    (joined first rest).retrievalProvenance =
      distinct (first.retrievalProvenance ++
        rest.flatMap TranscriptEvidenceSpan.retrievalProvenance) := by
  induction rest generalizing first with
  | nil => exact absurd rfl several
  | cons span rest inductionHypothesis =>
      rw [joined_cons]
      cases rest with
      | nil => simp [joined, absorb, uniqueDicts]
      | cons second rest =>
          have absorbed : ((absorb span).apply first).retrievalProvenance =
              distinct (first.retrievalProvenance ++ span.retrievalProvenance) := rfl
          rw [inductionHypothesis (List.cons_ne_nil _ _), absorbed, distinct_distinct_append,
            List.append_assoc]
          rfl

end Joined

section Occurrences

variable {citationId : String} {spans more : List (TranscriptEvidenceSpan Time)}
  {span : TranscriptEvidenceSpan Time}

theorem mem_occurrences : span ∈ occurrences citationId spans ↔
    span ∈ spans ∧ span.citationId = citationId := by
  rw [occurrences, List.mem_filter, decide_eq_true_eq]

theorem occurrences_append :
    occurrences citationId (spans ++ more) =
      occurrences citationId spans ++ occurrences citationId more :=
  List.filter_append ..

theorem totalScore_append :
    totalScore citationId (spans ++ more) =
      totalScore citationId spans + totalScore citationId more := by
  rw [totalScore, occurrences_append, List.map_append, List.sum_append]
  rfl

theorem totalScore_of_perm (perm : spans.Perm more) :
    totalScore citationId spans = totalScore citationId more :=
  ((perm.filter _).map _).sum_eq

/-- The fold looks up what becomes of the occurrences. -/
theorem lookup_byIdentity (citationId : String) (spans : List (TranscriptEvidenceSpan Time)) :
    (byIdentity spans).lookup citationId = fusedSpan (occurrences citationId spans) := by
  induction spans using List.reverseRecOn with
  | nil => rfl
  | append_singleton spans span inductionHypothesis =>
      have step : byIdentity (spans ++ [span]) =
          (byIdentity spans).upsert (scored span) (absorb span) := by
        rw [byIdentity, List.foldl_append]
        rfl
      rw [step, occurrences_append]
      by_cases same : span.citationId = citationId
      · have one : occurrences citationId [span] = [span] := by simp [occurrences, same]
        have isKey : (scored span).citationId = citationId := same
        rw [one, ← isKey, Table.lookup_upsert_self, isKey]
        cases before : occurrences citationId spans with
        | nil =>
            rw [before] at inductionHypothesis
            rw [Table.upserted_of_absent (isKey ▸ inductionHypothesis)]
            rfl
        | cons first rest =>
            rw [before] at inductionHypothesis
            rw [Table.upserted_of_lookup (isKey ▸ inductionHypothesis), List.cons_append, fusedSpan,
              joined_concat]
      · have none : occurrences citationId [span] = [] := by simp [occurrences, same]
        rw [none, List.append_nil, ← inductionHypothesis]
        exact Table.lookup_upsert_of_ne (Ne.symm same)

theorem fusionScore_of_fusedSpan (isFused : fusedSpan (occurrences citationId spans) = some span) :
    span.fusionScore = totalScore citationId spans := by
  rw [totalScore]
  cases before : occurrences citationId spans with
  | nil =>
      rw [before] at isFused
      nomatch isFused
  | cons first rest =>
      rw [before] at isFused
      obtain rfl := Option.some.inj isFused
      rw [fusionScore_joined, List.map_cons, List.sum_cons]
      rfl

end Occurrences

/-! ## The fused spans -/

section Fused

variable [LinearOrder Time] {spans : List (TranscriptEvidenceSpan Time)}
  {span : TranscriptEvidenceSpan Time}

theorem mem_fuseEvidence :
    span ∈ fuseEvidence spans ↔ fusedSpan (occurrences span.citationId spans) = some span := by
  rw [fuseEvidence, mem_sortedBy, ← lookup_byIdentity]
  exact Table.mem_iff_lookup

theorem nodup_fuseEvidence (spans : List (TranscriptEvidenceSpan Time)) :
    ((fuseEvidence spans).map TranscriptEvidenceSpan.citationId).Nodup :=
  ((sortedBy_perm _ _).map _).nodup_iff.mpr (byIdentity spans).unique

theorem exists_fused (isSpan : span ∈ spans) :
    ∃ fused ∈ fuseEvidence spans, fused.citationId = span.citationId := by
  have member : span ∈ occurrences span.citationId spans := mem_occurrences.mpr ⟨isSpan, rfl⟩
  cases before : occurrences span.citationId spans with
  | nil =>
      rw [before] at member
      nomatch member
  | cons first rest =>
      have isFirst : first ∈ occurrences span.citationId spans := before ▸ List.mem_cons_self
      have sameId : (joined (scored first) rest).citationId = span.citationId :=
        joined_keeps.1.trans (mem_occurrences.mp isFirst).2
      refine ⟨joined (scored first) rest, mem_fuseEvidence.mpr ?_, sameId⟩
      rw [sameId, before]
      rfl

theorem fusionScore_of_mem (isFused : span ∈ fuseEvidence spans) :
    span.fusionScore = totalScore span.citationId spans :=
  fusionScore_of_fusedSpan (mem_fuseEvidence.mp isFused)

theorem exists_occurrence (isFused : span ∈ fuseEvidence spans) :
    ∃ first ∈ spans, first.citationId = span.citationId ∧ first.videoId = span.videoId ∧
      first.startTime = span.startTime := by
  have isSome := mem_fuseEvidence.mp isFused
  cases before : occurrences span.citationId spans with
  | nil =>
      rw [before] at isSome
      nomatch isSome
  | cons first rest =>
      have isFirst : first ∈ occurrences span.citationId spans := before ▸ List.mem_cons_self
      obtain ⟨member, sameId⟩ := mem_occurrences.mp isFirst
      rw [before] at isSome
      have isJoined := Option.some.inj isSome
      obtain ⟨-, video, start⟩ := @joined_keeps _ (scored first) rest
      rw [isJoined] at video start
      exact ⟨first, member, sameId, video.symm, start.symm⟩

theorem pairwise_fuseEvidence (spans : List (TranscriptEvidenceSpan Time)) :
    (fuseEvidence spans).Pairwise fun left right => fusionKey left ≤ fusionKey right :=
  pairwise_sortedBy fusionKey _

omit [LinearOrder Time] in
theorem rows_byIdentity_of_nodup
    (nodup : (spans.map TranscriptEvidenceSpan.citationId).Nodup) :
    (byIdentity spans).rows = spans.map scored := by
  induction spans using List.reverseRecOn with
  | nil => rfl
  | append_singleton spans span inductionHypothesis =>
      rw [List.map_append, List.nodup_append] at nodup
      have absent : (byIdentity spans).lookup (scored span).citationId = none := by
        rw [lookup_byIdentity]
        have none : occurrences span.citationId spans = [] := by
          refine List.filter_eq_nil_iff.mpr fun other isOther => ?_
          rw [decide_eq_true_eq]
          exact nodup.2.2 _ (List.mem_map_of_mem isOther) _ (by simp)
        exact congrArg fusedSpan none
      have step : byIdentity (spans ++ [span]) =
          (byIdentity spans).upsert (scored span) (absorb span) := by
        rw [byIdentity, List.foldl_append]
        rfl
      rw [step, Table.upsert, absent, List.map_append, ← inductionHypothesis nodup.1]
      exact Table.rows_insert absent

end Fused

/-! ## Fusing again -/

/-- Spans with one citation id come from one place: the id is the hash of the segments. -/
def Consistent (spans : List (TranscriptEvidenceSpan Time)) : Prop :=
  ∀ left ∈ spans, ∀ right ∈ spans, left.citationId = right.citationId →
    left.videoId = right.videoId ∧ left.startTime = right.startTime

/-- A citation id that occurs more than once has no provenance entry twice. -/
def NoRepeats (spans : List (TranscriptEvidenceSpan Time)) : Prop :=
  ∀ citationId, 2 ≤ (occurrences citationId spans).length →
    (allProvenance citationId spans).Nodup

/-- The identity of a span and its score. -/
def identityScore (span : TranscriptEvidenceSpan Time) : String × ℚ :=
  (span.citationId, span.fusionScore)

theorem weight_pos (entry : ProvenanceEntry) : 0 < entry.weight := by
  have atLeast : (1 : ℤ) ≤ max 1 (entry.rank.getD 1) := le_max_left _ _
  have positive : (0 : ℚ) < 60 + (max 1 (entry.rank.getD 1) : ℤ) := by
    have : (1 : ℚ) ≤ (max 1 (entry.rank.getD 1) : ℤ) := by exact_mod_cast atLeast
    linarith
  exact one_div_pos.mpr positive

section Again

variable [LinearOrder Time] {spans more : List (TranscriptEvidenceSpan Time)}
  {span : TranscriptEvidenceSpan Time}

omit [LinearOrder Time] in
theorem sum_allProvenance (citationId : String) (spans : List (TranscriptEvidenceSpan Time)) :
    ((allProvenance citationId spans).map ProvenanceEntry.weight).sum =
      totalScore citationId spans := by
  rw [allProvenance, totalScore]
  induction occurrences citationId spans with
  | nil => rfl
  | cons first rest inductionHypothesis =>
      rw [List.flatMap_cons, List.map_append, List.sum_append, inductionHypothesis, List.map_cons,
        List.sum_cons]
      rfl

theorem retrievalProvenance_of_mem (isFused : span ∈ fuseEvidence spans) :
    span.retrievalProvenance =
      if 2 ≤ (occurrences span.citationId spans).length then
        distinct (allProvenance span.citationId spans)
      else allProvenance span.citationId spans := by
  have isSome := mem_fuseEvidence.mp isFused
  rw [allProvenance]
  cases before : occurrences span.citationId spans with
  | nil =>
      rw [before] at isSome
      nomatch isSome
  | cons first rest =>
      rw [before] at isSome
      rw [← Option.some.inj isSome]
      cases rest with
      | nil => simp [joined, scored]
      | cons second rest =>
          rw [if_pos (by simp), retrievalProvenance_joined (List.cons_ne_nil _ _)]
          rfl

theorem scored_eq_iff (isFused : span ∈ fuseEvidence spans) :
    scored span = span ↔
      (2 ≤ (occurrences span.citationId spans).length →
        (allProvenance span.citationId spans).Nodup) := by
  have sameScore : scored span = span ↔ occurrenceScore span = span.fusionScore := by
    constructor
    · intro same
      exact congrArg TranscriptEvidenceSpan.fusionScore same
    · intro same
      rw [scored, same]
  rw [sameScore, occurrenceScore, retrievalProvenance_of_mem isFused, fusionScore_of_mem isFused,
    ← sum_allProvenance]
  split
  case isTrue several =>
      rw [sum_distinct_eq_iff weight_pos]
      exact ⟨fun nodup _ => nodup, fun nodup => nodup several⟩
  case isFalse single => exact ⟨fun _ several => absurd several single, fun _ => rfl⟩

theorem fuseEvidence_fuseEvidence (spans : List (TranscriptEvidenceSpan Time)) :
    fuseEvidence (fuseEvidence spans) =
      sortedBy fusionKey ((fuseEvidence spans).map scored) := by
  rw [fuseEvidence, rows_byIdentity_of_nodup (nodup_fuseEvidence spans)]

theorem fuseEvidence_idempotent_iff :
    fuseEvidence (fuseEvidence spans) = fuseEvidence spans ↔ NoRepeats spans := by
  constructor
  · intro idempotent citationId several
    obtain ⟨first, isFirst⟩ : ∃ first, first ∈ occurrences citationId spans :=
      List.exists_mem_of_length_pos (by omega)
    obtain ⟨member, rfl⟩ := mem_occurrences.mp isFirst
    obtain ⟨fused, isFused, sameId⟩ := exists_fused member
    have again : scored fused ∈ fuseEvidence spans := by
      rw [← idempotent, fuseEvidence_fuseEvidence, mem_sortedBy]
      exact List.mem_map_of_mem isFused
    have same : scored fused = fused :=
      List.inj_on_of_nodup_map (nodup_fuseEvidence spans) again isFused rfl
    rw [← sameId] at several ⊢
    exact (scored_eq_iff isFused).mp same several
  · intro noRepeats
    have same : (fuseEvidence spans).map scored = fuseEvidence spans := by
      refine (List.map_congr_left fun span isFused => ?_).trans (List.map_id _)
      exact (scored_eq_iff isFused).mpr (noRepeats span.citationId)
    rw [fuseEvidence_fuseEvidence, same]
    exact sortedBy_of_pairwise fusionKey (pairwise_fuseEvidence spans)

/-! ## Fusing with new spans -/

/-- The identities and scores of a result. -/
theorem mem_map_identityScore {citationId : String} {score : ℚ} :
    (citationId, score) ∈ (fuseEvidence spans).map identityScore ↔
      occurrences citationId spans ≠ [] ∧ score = totalScore citationId spans := by
  rw [List.mem_map]
  constructor
  · rintro ⟨fused, isFused, same⟩
    obtain ⟨rfl, rfl⟩ := Prod.mk.inj same
    refine ⟨fun none => ?_, fusionScore_of_mem isFused⟩
    have isSome := mem_fuseEvidence.mp isFused
    rw [none] at isSome
    nomatch isSome
  · rintro ⟨some, rfl⟩
    obtain ⟨first, isFirst⟩ := List.exists_mem_of_ne_nil _ some
    obtain ⟨member, rfl⟩ := mem_occurrences.mp isFirst
    obtain ⟨fused, isFused, sameId⟩ := exists_fused member
    refine ⟨fused, isFused, ?_⟩
    rw [identityScore, fusionScore_of_mem isFused, sameId]

theorem occurrences_fuseEvidence (isFused : span ∈ fuseEvidence spans) :
    occurrences span.citationId (fuseEvidence spans) = [span] := by
  have nodup : (occurrences span.citationId (fuseEvidence spans)).Nodup :=
    (List.Nodup.of_map _ (nodup_fuseEvidence spans)).filter _
  refine List.perm_singleton.mp ((List.perm_ext_iff_of_nodup nodup (by simp)).mpr fun other => ?_)
  rw [mem_occurrences, List.mem_singleton]
  constructor
  · rintro ⟨isOther, sameId⟩
    exact List.inj_on_of_nodup_map (nodup_fuseEvidence spans) isOther isFused sameId
  · rintro rfl
    exact ⟨isFused, rfl⟩

theorem totalScore_fuseEvidence (noRepeats : NoRepeats spans) (citationId : String) :
    totalScore citationId (fuseEvidence spans) = totalScore citationId spans ∧
      (occurrences citationId (fuseEvidence spans) = [] ↔ occurrences citationId spans = []) := by
  by_cases none : occurrences citationId spans = []
  · have absent : occurrences citationId (fuseEvidence spans) = [] := by
      refine List.filter_eq_nil_iff.mpr fun fused isFused => ?_
      rw [decide_eq_true_eq]
      rintro rfl
      have isSome := mem_fuseEvidence.mp isFused
      rw [none] at isSome
      nomatch isSome
    rw [totalScore, totalScore, absent, none]
    exact ⟨rfl, Iff.rfl⟩
  · obtain ⟨first, isFirst⟩ := List.exists_mem_of_ne_nil _ none
    obtain ⟨member, rfl⟩ := mem_occurrences.mp isFirst
    obtain ⟨fused, isFused, sameId⟩ := exists_fused member
    have same := (scored_eq_iff isFused).mpr (noRepeats fused.citationId)
    rw [← sameId] at none ⊢
    rw [totalScore, occurrences_fuseEvidence isFused, List.map_singleton, List.sum_singleton,
      ← fusionScore_of_mem isFused]
    refine ⟨congrArg TranscriptEvidenceSpan.fusionScore same, ?_⟩
    exact ⟨fun empty => absurd empty (List.cons_ne_nil _ _), fun empty => absurd empty none⟩

theorem fuseEvidence_append (noRepeats : NoRepeats spans)
    (more : List (TranscriptEvidenceSpan Time)) (pair : String × ℚ) :
    pair ∈ (fuseEvidence (fuseEvidence spans ++ more)).map identityScore ↔
      pair ∈ (fuseEvidence (spans ++ more)).map identityScore := by
  obtain ⟨citationId, score⟩ := pair
  obtain ⟨sameScore, sameEmpty⟩ := totalScore_fuseEvidence noRepeats citationId
  rw [mem_map_identityScore, mem_map_identityScore, totalScore_append, totalScore_append, sameScore,
    occurrences_append, occurrences_append, ne_eq, ne_eq, List.append_eq_nil_iff,
    List.append_eq_nil_iff, sameEmpty]

/-! ## The order of the input -/

theorem mem_map_fusionKey (consistent : Consistent spans) {key : ℚ ×ₗ ℤ ×ₗ Time ×ₗ String} :
    key ∈ (fuseEvidence spans).map fusionKey ↔
      ∃ span ∈ spans, key = toLex (-totalScore span.citationId spans,
        toLex (span.videoId, toLex (span.startTime, span.citationId))) := by
  rw [List.mem_map]
  constructor
  · rintro ⟨fused, isFused, rfl⟩
    obtain ⟨first, member, sameId, sameVideo, sameStart⟩ := exists_occurrence isFused
    refine ⟨first, member, ?_⟩
    rw [fusionKey, fusionScore_of_mem isFused, sameId, sameVideo, sameStart]
  · rintro ⟨span, member, rfl⟩
    obtain ⟨fused, isFused, sameId⟩ := exists_fused member
    obtain ⟨first, isFirst, firstId, sameVideo, sameStart⟩ := exists_occurrence isFused
    obtain ⟨video, start⟩ := consistent first isFirst span member (firstId.trans sameId)
    refine ⟨fused, isFused, ?_⟩
    rw [fusionKey, fusionScore_of_mem isFused, sameId, ← sameVideo, ← sameStart, video, start]

theorem nodup_map_fusionKey (spans : List (TranscriptEvidenceSpan Time)) :
    ((fuseEvidence spans).map fusionKey).Nodup := by
  refine List.Nodup.of_map (fun key => (ofLex (ofLex (ofLex key).2).2).2) ?_
  rw [List.map_map]
  exact nodup_fuseEvidence spans

theorem map_fusionKey_of_perm (consistent : Consistent spans) (perm : more.Perm spans) :
    (fuseEvidence more).map fusionKey = (fuseEvidence spans).map fusionKey := by
  have alsoConsistent : Consistent more := fun left isLeft right isRight =>
    consistent left (perm.mem_iff.mp isLeft) right (perm.mem_iff.mp isRight)
  have sameKeys : ((fuseEvidence more).map fusionKey).Perm ((fuseEvidence spans).map fusionKey) := by
    rw [List.perm_ext_iff_of_nodup (nodup_map_fusionKey more) (nodup_map_fusionKey spans)]
    intro key
    rw [mem_map_fusionKey alsoConsistent, mem_map_fusionKey consistent]
    constructor
    · rintro ⟨span, member, rfl⟩
      exact ⟨span, perm.mem_iff.mp member, by rw [totalScore_of_perm perm]⟩
    · rintro ⟨span, member, rfl⟩
      exact ⟨span, perm.mem_iff.mpr member, by rw [totalScore_of_perm perm]⟩
  refine sameKeys.eq_of_pairwise (fun left right _ _ => le_antisymm) ?_ ?_
  · exact List.pairwise_map.mpr (pairwise_fuseEvidence more)
  · exact List.pairwise_map.mpr (pairwise_fuseEvidence spans)

theorem fuseEvidence_of_perm (consistent : Consistent spans) (perm : more.Perm spans) :
    (fuseEvidence more).map identityScore = (fuseEvidence spans).map identityScore := by
  have fromKey : ∀ result : List (TranscriptEvidenceSpan Time),
      result.map identityScore = (result.map fusionKey).map fun key =>
        ((ofLex (ofLex (ofLex key).2).2).2, -(ofLex key).1) := by
    intro result
    rw [List.map_map]
    refine List.map_congr_left fun span _ => ?_
    simp [identityScore, fusionKey]
  rw [fromKey, fromKey, map_fusionKey_of_perm consistent perm]

end Again

/-! ## A window that is read twice -/

/-- A window of one segment; nothing in its provenance tells one reading from another. -/
def windowSpan : TranscriptEvidenceSpan Nat where
  citationId := "citation_v1_a"
  videoId := 1
  bvid := "BV1"
  title := "title"
  sourceArtifactId := "artifact"
  sourceVersion := "version"
  timelineRunId := "run"
  segmentIds := ["segment-0"]
  segmentOrdinals := [0]
  startTime := 0
  endTime := 5
  quoteText := "text"
  jumpUrl := "https://www.bilibili.com/video/BV1?t=0"
  parentChunkIds := []
  retrievalProvenance := [⟨none, "read_transcript_window segment-0 1 1"⟩]
  segments := [⟨"segment-0", 0, 0, 0, 5, "text"⟩]
  fusionScore := 0

end Shiliu.Ask
