/-
Module: Shiliu.Ask.Contracts
Purpose: Evidence spans, the citation id and the jump URL of a run of segments, and the rebuilding
  of a span around other segments. Hashing, URL parsing and JSON rendering are parameters; what is
  relied on of them is that a URL that was built can be built again.
Trusted boundary: none
Main exports: EvidenceSegment, ProvenanceEntry, Citable, Formed, CutFrom, spanWithSegments_ok
-/
import Mathlib.Algebra.Order.Ring.Rat
import Mathlib.Data.List.Chain
import Shiliu.Evidence.Source
import Shiliu.Library.Outcome

namespace Shiliu.Ask

open Shiliu.Evidence Shiliu.Library Shiliu.Storage

/-! ## Spans -/

/-- `EvidenceSegment`. -/
structure EvidenceSegment (Time : Type) where
  segmentId : String
  originalOrdinal : Nat
  runLocalOrdinal : Nat
  startTime : Time
  endTime : Time
  sourceText : String
deriving DecidableEq

/-- An entry of a retrieval provenance: its rank, if it has one, and the JSON text of all else. -/
structure ProvenanceEntry where
  rank : Option Int
  rest : String
deriving DecidableEq

/-- `TranscriptEvidenceSpan`, without the fields that are only copied along. -/
structure TranscriptEvidenceSpan (Time : Type) where
  citationId : String
  videoId : Int
  bvid : String
  title : String
  sourceArtifactId : String
  sourceVersion : String
  timelineRunId : String
  segmentIds : List String
  segmentOrdinals : List Nat
  startTime : Time
  endTime : Time
  quoteText : String
  jumpUrl : String
  parentChunkIds : List String
  retrievalProvenance : List ProvenanceEntry
  segments : List (EvidenceSegment Time)
  fusionScore : ℚ
deriving DecidableEq

/-- The source, its version and the timeline run a span is cut from. -/
structure Lineage where
  sourceArtifactId : String
  sourceVersion : String
  timelineRunId : String
deriving DecidableEq

def TranscriptEvidenceSpan.lineage {Time : Type} (span : TranscriptEvidenceSpan Time) : Lineage :=
  ⟨span.sourceArtifactId, span.sourceVersion, span.timelineRunId⟩

/-- What the building of a context raises. -/
inductive AskFailure where
  | contract (error : EvidenceContractError)
  | valueError (message : String)
  | indexError
  | keyError
deriving DecidableEq

/-! ## Parameters -/

/-- What `urlsplit` takes a URL apart into. -/
structure UrlParts where
  scheme : String
  netloc : String
  path : String
  query : String
  fragment : String

/-- The functions of `urllib.parse` the jump URL is built with, and `max(0, math.floor(seconds))`. -/
structure UrlLibrary (Time : Type) where
  urlsplit : String → UrlParts
  urlunsplit : UrlParts → String
  parseQsl : String → List (String × String)
  urlencode : List (String × String) → String
  wholeSeconds : Time → Nat

/-- The record a citation id is the hash of. -/
structure CitationIdentity where
  lineage : Lineage
  orderedSegmentIds : List String

/-- One entry of the evidence the model reads. -/
structure ContextItem (Time : Type) where
  citationId : String
  videoId : Int
  videoTitle : String
  startTime : Time
  endTime : Time
  quote : String

/-- The object that is rendered for the model. -/
structure ContextPayload (Time : Type) where
  userQuery : String
  normalizedIntent : String
  citationAllowlist : List String
  transcriptEvidence : List (ContextItem Time)

/-- The place of a segment in its source. -/
structure RawCoordinate where
  lineage : Lineage
  originalOrdinal : Nat
deriving DecidableEq

/-- The library functions below the context builders, any functions of their arguments. -/
structure AskRules (Time : Type) extends UrlLibrary Time where
  /-- `"citation_v1_" + sha256(canonical_json(payload)).hexdigest()`. -/
  citationDigest : CitationIdentity → String
  /-- `json.dumps`. -/
  dumps : ContextPayload Time → String
  /-- `repr` of a coordinate. -/
  reprCoordinate : RawCoordinate → String

variable {Time : Type}

/-! ## Citations -/

/-- `stable_citation_id`. -/
def stableCitationId (rules : AskRules Time) (lineage : Lineage)
    (segments : List (EvidenceSegment Time)) : Except AskFailure String := do
  ensure (segments ≠ []) (.contract
    ⟨"citation must contain at least one segment", "citation_segment_invalid"⟩)
  ensure (segments.map EvidenceSegment.segmentId).Nodup (.contract
    ⟨"citation contains duplicate segments", "citation_segment_duplicate"⟩)
  ensure (segments.IsChain fun left right => left.originalOrdinal < right.originalOrdinal)
    (.contract ⟨"citation segments are not in authoritative ordinal order",
      "citation_segment_order_invalid"⟩)
  ensure (segments.IsChain fun left right => right.runLocalOrdinal = left.runLocalOrdinal + 1)
    (.contract ⟨"citation segments are not contiguous in one timeline run",
      "citation_segment_continuity_invalid"⟩)
  return rules.citationDigest ⟨lineage, segments.map EvidenceSegment.segmentId⟩

/-- The absolute URL a jump URL starts from. -/
def jumpUrlBase (videoUrl bvid : String) : String :=
  let base := strip videoUrl
  let identity := strip bvid
  let base :=
    if base = "" ∧ identity ≠ "" then "https://www.bilibili.com/video/" ++ identity else base
  if base.startsWith "//" then "https:" ++ base else base

/-- The URL with the `t` parameter set anew. -/
def retimedUrl (urls : UrlLibrary Time) (parsed : UrlParts) (jumpTime : Time) : String :=
  let query := (urls.parseQsl parsed.query).filter (fun pair => pair.1 ≠ "t") ++
    [("t", toString (urls.wholeSeconds jumpTime))]
  urls.urlunsplit { parsed with query := urls.urlencode query }

/-- `build_bilibili_jump_url`. -/
def buildBilibiliJumpUrl (urls : UrlLibrary Time) (videoUrl bvid : String) (jumpTime : Time) :
    Option String :=
  let base := jumpUrlBase videoUrl bvid
  if base = "" then none
  else
    let parsed := urls.urlsplit base
    if parsed.scheme ∉ ["http", "https"] ∨ parsed.netloc = "" then none
    else some (retimedUrl urls parsed jumpTime)

/-- The texts of the segments that are not blank, one a line. -/
def quoteOf (segments : List (EvidenceSegment Time)) : String :=
  "\n".intercalate ((segments.map fun segment => strip segment.sourceText).filter (· ≠ ""))

/-- `_span_with_segments`; an argument that is absent is `none`. -/
def spanWithSegments (rules : AskRules Time) (span : TranscriptEvidenceSpan Time)
    (segments : List (EvidenceSegment Time)) (provenance : Option (List ProvenanceEntry))
    (parents : Option (List String)) (fusionScore : Option ℚ) :
    Except AskFailure (TranscriptEvidenceSpan Time) :=
  match segments with
  | [] => .error .indexError
  | first :: rest => do
      let citationId ← stableCitationId rules span.lineage (first :: rest)
      match buildBilibiliJumpUrl rules.toUrlLibrary span.jumpUrl span.bvid first.startTime with
      | none => .error (.valueError "unable to rebuild citation jump URL")
      | some jumpUrl =>
          return { span with
            citationId := citationId
            segmentIds := (first :: rest).map EvidenceSegment.segmentId
            segmentOrdinals := (first :: rest).map EvidenceSegment.originalOrdinal
            startTime := first.startTime
            endTime := (rest.getLastD first).endTime
            quoteText := quoteOf (first :: rest)
            jumpUrl := jumpUrl
            segments := first :: rest
            -- an empty tuple counts as absent
            retrievalProvenance :=
              if provenance.getD [] = [] then span.retrievalProvenance else provenance.getD []
            parentChunkIds :=
              if parents.getD [] = [] then span.parentChunkIds else parents.getD []
            fusionScore := fusionScore.getD span.fusionScore }

/-! ## Runs that can be cited -/

/-- What a citation id is only given to: segments in order, one behind the other. -/
structure Citable (segments : List (EvidenceSegment Time)) : Prop where
  nonempty : segments ≠ []
  distinct : (segments.map EvidenceSegment.segmentId).Nodup
  ordered : segments.IsChain fun left right => left.originalOrdinal < right.originalOrdinal
  contiguous : segments.IsChain fun left right => right.runLocalOrdinal = left.runLocalOrdinal + 1

theorem stableCitationId_eq_ok {rules : AskRules Time} {lineage : Lineage}
    {segments : List (EvidenceSegment Time)} {citationId : String} :
    stableCitationId rules lineage segments = .ok citationId ↔
      Citable segments ∧
        rules.citationDigest ⟨lineage, segments.map EvidenceSegment.segmentId⟩ = citationId := by
  simp only [stableCitationId, ensure_then_eq_ok, pure_eq_ok]
  constructor
  · rintro ⟨nonempty, distinct, ordered, contiguous, isDigest⟩
    exact ⟨⟨nonempty, distinct, ordered, contiguous⟩, isDigest⟩
  · rintro ⟨citable, isDigest⟩
    exact ⟨citable.nonempty, citable.distinct, citable.ordered, citable.contiguous, isDigest⟩

/-- One segment can always be cited. -/
theorem citable_singleton (segment : EvidenceSegment Time) : Citable [segment] where
  nonempty := List.cons_ne_nil _ _
  distinct := List.nodup_cons.mpr ⟨List.not_mem_nil, List.nodup_nil⟩
  ordered := .singleton _
  contiguous := .singleton _

/-! ## URLs that can be built again -/

/-- What the jump URL relies on: a URL with another query still has its scheme and its host, and
the query of some pairs is not empty. -/
structure UrlLibrary.Lawful (urls : UrlLibrary Time) : Prop where
  rejoined : ∀ base query, (urls.urlsplit base).scheme ∈ ["http", "https"] →
    (urls.urlsplit base).netloc ≠ "" → query ≠ "" →
      let url := strip (urls.urlunsplit { urls.urlsplit base with query := query })
      url ≠ "" ∧ url.startsWith "//" = false ∧
        (urls.urlsplit url).scheme ∈ ["http", "https"] ∧ (urls.urlsplit url).netloc ≠ ""
  encoded : ∀ pairs, pairs ≠ [] → urls.urlencode pairs ≠ ""

variable {videoUrl bvid : String} {urls : UrlLibrary Time}

theorem jumpUrlBase_of_absolute (present : strip videoUrl ≠ "")
    (absolute : (strip videoUrl).startsWith "//" = false) (bvid : String) :
    jumpUrlBase videoUrl bvid = strip videoUrl := by
  simp [jumpUrlBase, present, absolute]

theorem buildBilibiliJumpUrl_eq_some {jumpUrl : String} {jumpTime : Time} :
    buildBilibiliJumpUrl urls videoUrl bvid jumpTime = some jumpUrl ↔
      jumpUrlBase videoUrl bvid ≠ "" ∧
      (urls.urlsplit (jumpUrlBase videoUrl bvid)).scheme ∈ ["http", "https"] ∧
      (urls.urlsplit (jumpUrlBase videoUrl bvid)).netloc ≠ "" ∧
      retimedUrl urls (urls.urlsplit (jumpUrlBase videoUrl bvid)) jumpTime = jumpUrl := by
  rw [buildBilibiliJumpUrl]
  generalize jumpUrlBase videoUrl bvid = base
  by_cases present : base = ""
  · simp [present]
  · simp only [Option.ite_none_left_eq_some, not_or, not_not, Option.some.injEq,
      ne_eq, present, not_false_eq_true, true_and, and_assoc]

theorem exists_buildBilibiliJumpUrl (present : jumpUrlBase videoUrl bvid ≠ "")
    (scheme : (urls.urlsplit (jumpUrlBase videoUrl bvid)).scheme ∈ ["http", "https"])
    (netloc : (urls.urlsplit (jumpUrlBase videoUrl bvid)).netloc ≠ "") (jumpTime : Time) :
    ∃ jumpUrl, buildBilibiliJumpUrl urls videoUrl bvid jumpTime = some jumpUrl :=
  ⟨_, buildBilibiliJumpUrl_eq_some.mpr ⟨present, scheme, netloc, rfl⟩⟩

theorem buildBilibiliJumpUrl_again (lawful : urls.Lawful) {jumpUrl : String} {jumpTime : Time}
    (built : buildBilibiliJumpUrl urls videoUrl bvid jumpTime = some jumpUrl) (later : Time) :
    ∃ again, buildBilibiliJumpUrl urls jumpUrl bvid later = some again := by
  obtain ⟨-, scheme, netloc, rfl⟩ := buildBilibiliJumpUrl_eq_some.mp built
  have isEncoded : urls.urlencode
      ((urls.parseQsl (urls.urlsplit (jumpUrlBase videoUrl bvid)).query).filter
          (fun pair => pair.1 ≠ "t") ++ [("t", toString (urls.wholeSeconds jumpTime))]) ≠ "" :=
    lawful.encoded _ (by simp)
  obtain ⟨present, absolute, scheme, netloc⟩ := lawful.rejoined _ _ scheme netloc isEncoded
  have sameBase := jumpUrlBase_of_absolute present absolute bvid
  refine exists_buildBilibiliJumpUrl ?_ ?_ ?_ later
  · exact sameBase ▸ present
  · exact sameBase ▸ scheme
  · exact sameBase ▸ netloc

/-- The jump URL of the span was built. -/
def TranscriptEvidenceSpan.Linked (rules : AskRules Time) (span : TranscriptEvidenceSpan Time) :
    Prop :=
  ∃ videoUrl jumpTime,
    buildBilibiliJumpUrl rules.toUrlLibrary videoUrl span.bvid jumpTime = some span.jumpUrl

/-! ## Spans around other segments -/

/-- A span that fits its segments: it has their citation id and quote, and a URL that was built. -/
structure Formed (rules : AskRules Time) (span : TranscriptEvidenceSpan Time) : Prop where
  citation : stableCitationId rules span.lineage span.segments = .ok span.citationId
  quote : span.quoteText = quoteOf span.segments
  linked : span.Linked rules

theorem Formed.citable {rules : AskRules Time} {span : TranscriptEvidenceSpan Time}
    (formed : Formed rules span) : Citable span.segments :=
  (stableCitationId_eq_ok.mp formed.citation).1

/-- What a span around other segments has of the span it is made from. -/
structure CutFrom (rules : AskRules Time) (span : TranscriptEvidenceSpan Time)
    (segments : List (EvidenceSegment Time)) (cut : TranscriptEvidenceSpan Time) : Prop where
  formed : Formed rules cut
  carried : cut.segments = segments
  lineage : cut.lineage = span.lineage
  video : cut.videoId = span.videoId

section Cut

variable {rules : AskRules Time} {span cut : TranscriptEvidenceSpan Time}
  {segments : List (EvidenceSegment Time)} {provenance : Option (List ProvenanceEntry)}
  {parents : Option (List String)} {fusionScore : Option ℚ}

theorem spanWithSegments_cutFrom
    (isCut : spanWithSegments rules span segments provenance parents fusionScore = .ok cut) :
    CutFrom rules span segments cut := by
  cases segments with
  | nil => nomatch isCut
  | cons first rest =>
      rw [spanWithSegments, bind_eq_ok] at isCut
      obtain ⟨citationId, isCitation, isCut⟩ := isCut
      cases isUrl : buildBilibiliJumpUrl rules.toUrlLibrary span.jumpUrl span.bvid
          first.startTime with
      | none =>
          rw [isUrl] at isCut
          nomatch isCut
      | some jumpUrl =>
          rw [isUrl] at isCut
          obtain rfl := pure_eq_ok.mp isCut
          exact ⟨⟨isCitation, rfl, span.jumpUrl, first.startTime, isUrl⟩, rfl, rfl, rfl⟩

/-- A run that can be cited can be cut out of a span whose URL was built. -/
theorem spanWithSegments_ok (lawful : rules.toUrlLibrary.Lawful) (linked : span.Linked rules)
    (citable : Citable segments) (provenance : Option (List ProvenanceEntry))
    (parents : Option (List String)) (fusionScore : Option ℚ) :
    ∃ cut, spanWithSegments rules span segments provenance parents fusionScore = .ok cut ∧
      CutFrom rules span segments cut := by
  suffices exists_cut : ∃ cut,
      spanWithSegments rules span segments provenance parents fusionScore = .ok cut by
    obtain ⟨cut, isCut⟩ := exists_cut
    exact ⟨cut, isCut, spanWithSegments_cutFrom isCut⟩
  cases segments with
  | nil => exact absurd rfl citable.nonempty
  | cons first rest =>
      have isCitation : stableCitationId rules span.lineage (first :: rest) = .ok _ :=
        stableCitationId_eq_ok.mpr ⟨citable, rfl⟩
      obtain ⟨videoUrl, jumpTime, built⟩ := linked
      obtain ⟨again, isUrl⟩ := buildBilibiliJumpUrl_again lawful built first.startTime
      rw [spanWithSegments, isCitation, isUrl]
      exact ⟨_, rfl⟩

end Cut

end Shiliu.Ask
