/-
Module: Shiliu.Retrieval.Consolidation
Purpose: `SearchResultConsolidator`: one hit for each unit, the hits of a video in a group, and the
  transcript hits of a group merged into windows of time. Seconds and scores are rationals. Of two
  hits of one unit that are equal in rank and score the first is kept, so the order of the input
  matters where such hits differ and nowhere else.
Trusted boundary: none
Main exports: RawSearchHit, EvidenceWindow, Consolidated, consolidated, tied_hits_reordered
-/
import Mathlib.Data.Prod.Lex
import Mathlib.Data.Rat.Defs
import Mathlib.Algebra.Order.Ring.Rat
import Mathlib.Data.String.Basic
import Shiliu.Library.Distinct
import Shiliu.Library.Table

set_option linter.all false

namespace Shiliu.Retrieval

open Shiliu.Library

/-! ## Hits -/

/-- What `start_time` and `end_time` hold: no number, a number that is not finite, or one that is. -/
inductive TimeValue where
  | missing
  | notFinite
  | number (seconds : ℚ)
deriving DecidableEq

structure RawSearchHit where
  unitId : String
  videoId : Int
  unitType : String
  rank : Int
  score : ℚ
  title : String
  uploader : String
  startTime : TimeValue
  endTime : TimeValue
deriving DecidableEq

/-- `float(value)`, of a value that is known to be a number. -/
def TimeValue.seconds : TimeValue → ℚ
  | .number seconds => seconds
  | _ => 0

namespace RawSearchHit

variable (hit : RawSearchHit)

/-- `_hit_key`. -/
def hitKey : ℤ ×ₗ ℚ ×ₗ String := toLex (hit.rank, toLex (-hit.score, hit.unitId))

/-- `_valid_time`. -/
def validTime : Bool :=
  match hit.startTime, hit.endTime with
  | .number start, .number stop => 0 ≤ start ∧ start ≤ stop
  | _, _ => false

def start : ℚ := hit.startTime.seconds

def stop : ℚ := hit.endTime.seconds

/-- The key the hits of a group are merged by. -/
def timeKey : ℚ ×ₗ ℚ ×ₗ ℤ ×ₗ String :=
  toLex (hit.start, toLex (hit.stop, toLex (hit.rank, hit.unitId)))

def isChunk : Bool := hit.unitType = "transcript_chunk"

end RawSearchHit

/-! ## One hit for each unit -/

/-- One turn of the loop over the raw hits. -/
def keepLeast (kept : Table RawSearchHit.unitId) (hit : RawSearchHit) :
    Table RawSearchHit.unitId :=
  match kept.lookup hit.unitId with
  | none => kept.assign hit
  | some current => if hit.hitKey < current.hitKey then kept.assign hit else kept

def deduplicated (rawHits : List RawSearchHit) : Table RawSearchHit.unitId :=
  rawHits.foldl keepLeast (Table.empty RawSearchHit.unitId)

def orderedHits (rawHits : List RawSearchHit) : List RawSearchHit :=
  sortedBy RawSearchHit.hitKey (deduplicated rawHits).rows

/-! ## Windows -/

/-- `EvidenceWindowDraft`; `component_hits` is never empty. -/
structure EvidenceWindow where
  windowStart : ℚ
  windowEnd : ℚ
  firstHit : RawSearchHit
  laterHits : List RawSearchHit
  bestHit : RawSearchHit
deriving DecidableEq

namespace EvidenceWindow

def componentHits (window : EvidenceWindow) : List RawSearchHit :=
  window.firstHit :: window.laterHits

def ofHit (hit : RawSearchHit) : EvidenceWindow :=
  { windowStart := hit.start
    windowEnd := hit.stop
    firstHit := hit
    laterHits := []
    bestHit := hit }

def extend (window : EvidenceWindow) (hit : RawSearchHit) : EvidenceWindow :=
  { window with
    windowEnd := max window.windowEnd hit.stop
    laterHits := window.laterHits ++ [hit]
    bestHit := minBy RawSearchHit.hitKey window.firstHit (window.laterHits ++ [hit]) }

/-- The key the windows of a group are sorted by. -/
def sortKey (window : EvidenceWindow) : ℤ ×ₗ ℚ ×ₗ ℚ :=
  toLex (window.bestHit.rank, toLex (-window.bestHit.score, window.windowStart))

end EvidenceWindow

section Windows

variable (mergeGapSeconds : ℚ)

/-- One turn of the loop of `_windows`. -/
def addHit (windows : List EvidenceWindow) (hit : RawSearchHit) : List EvidenceWindow :=
  match windows.getLast? with
  | none => windows ++ [.ofHit hit]
  | some window =>
      if hit.start ≤ window.windowEnd + mergeGapSeconds then
        windows.dropLast ++ [window.extend hit]
      else windows ++ [.ofHit hit]

/-- The windows in the order of time. -/
def mergedWindows (hits : List RawSearchHit) : List EvidenceWindow :=
  hits.foldl (addHit mergeGapSeconds) []

/-- `_windows`. -/
def evidenceWindows (hits : List RawSearchHit) : List EvidenceWindow :=
  sortedBy EvidenceWindow.sortKey (mergedWindows mergeGapSeconds (sortedBy RawSearchHit.timeKey hits))

/-! ## Groups -/

/-- `VideoResultGroupDraft`. -/
structure VideoResultGroup where
  videoId : Int
  hits : List RawSearchHit
  bestHit : RawSearchHit
  windows : List EvidenceWindow
  unwindowedChunkCount : Nat
  title : String
  uploader : String
deriving DecidableEq

def VideoResultGroup.sortKey (group : VideoResultGroup) : ℤ ×ₗ ℚ ×ₗ ℤ :=
  toLex (group.bestHit.rank, toLex (-group.bestHit.score, group.videoId))

/-- The group of a video whose hits are `first` and `rest`. -/
def groupOf (videoId : Int) (first : RawSearchHit) (rest : List RawSearchHit) : VideoResultGroup :=
  let hits := first :: rest
  let best := minBy RawSearchHit.hitKey first rest
  let chunks := hits.filter RawSearchHit.isChunk
  let valid := chunks.filter RawSearchHit.validTime
  { videoId := videoId
    hits := hits
    bestHit := best
    windows := evidenceWindows mergeGapSeconds valid
    unwindowedChunkCount := chunks.length - valid.length
    title := best.title
    uploader := best.uploader }

/-- `by_video[video_id]`, and the group made of it. -/
def videoGroup (ordered : List RawSearchHit) (videoId : Int) : Option VideoResultGroup :=
  match ordered.filter fun hit => hit.videoId = videoId with
  | [] => none
  | first :: rest => some (groupOf mergeGapSeconds videoId first rest)

/-- `ConsolidationResult`. -/
structure ConsolidationResult where
  groups : List VideoResultGroup
  duplicateRawHitCount : Nat
  uniqueVideoCount : Nat
  totalWindowCount : Nat

/-- The groups of the hits that were kept, by the first occurrence of their video. -/
def groupsOf (ordered : List RawSearchHit) : List VideoResultGroup :=
  sortedBy VideoResultGroup.sortKey
    ((distinct (ordered.map RawSearchHit.videoId)).filterMap (videoGroup mergeGapSeconds ordered))

/-- `consolidate`. -/
def consolidate (rawHits : List RawSearchHit) : ConsolidationResult :=
  let ordered := orderedHits rawHits
  let groups := groupsOf mergeGapSeconds ordered
  { groups := groups
    duplicateRawHitCount := rawHits.length - ordered.length
    uniqueVideoCount := groups.length
    totalWindowCount := (groups.map fun group => group.windows.length).sum }

end Windows

/-! ## What is kept for a unit -/

/-- The hits of a unit, in the order of the input. -/
def hitsOf (unitId : String) (rawHits : List RawSearchHit) : List RawSearchHit :=
  rawHits.filter fun hit => hit.unitId = unitId

/-- The first of the least hits of a unit. -/
def leastOf (unitId : String) (rawHits : List RawSearchHit) : Option RawSearchHit :=
  match hitsOf unitId rawHits with
  | [] => none
  | first :: rest => some (minBy RawSearchHit.hitKey first rest)

theorem leastOf_concat_of_ne {unitId : String} {hit : RawSearchHit} (rawHits : List RawSearchHit)
    (different : hit.unitId ≠ unitId) : leastOf unitId (rawHits ++ [hit]) = leastOf unitId rawHits := by
  simp [leastOf, hitsOf, List.filter_append, different]

theorem leastOf_concat_self (rawHits : List RawSearchHit) (hit : RawSearchHit) :
    leastOf hit.unitId (rawHits ++ [hit]) =
      match leastOf hit.unitId rawHits with
      | none => some hit
      | some current => some (if hit.hitKey < current.hitKey then hit else current) := by
  have split : hitsOf hit.unitId (rawHits ++ [hit]) = hitsOf hit.unitId rawHits ++ [hit] := by
    simp [hitsOf, List.filter_append]
  simp only [leastOf, split]
  cases hitsOf hit.unitId rawHits with
  | nil => rfl
  | cons first rest =>
      simp only [List.cons_append]
      rw [minBy_concat]

theorem lookup_deduplicated (rawHits : List RawSearchHit) (unitId : String) :
    (deduplicated rawHits).lookup unitId = leastOf unitId rawHits := by
  induction rawHits using List.reverseRecOn generalizing unitId with
  | nil => rfl
  | append_singleton rawHits hit inductionHypothesis =>
      have turn : deduplicated (rawHits ++ [hit]) = keepLeast (deduplicated rawHits) hit := by
        rw [deduplicated, List.foldl_append]
        rfl
      rw [turn, keepLeast, inductionHypothesis]
      by_cases same : hit.unitId = unitId
      · subst same
        rw [leastOf_concat_self]
        cases isLeast : leastOf hit.unitId rawHits with
        | none => exact Table.lookup_assign_self
        | some current =>
            by_cases less : hit.hitKey < current.hitKey
            · simp only [if_pos less]
              exact Table.lookup_assign_self
            · simp only [if_neg less]
              exact (inductionHypothesis _).trans isLeast
      · rw [leastOf_concat_of_ne rawHits same, ← inductionHypothesis unitId]
        have other : unitId ≠ hit.unitId := fun isUnit => same isUnit.symm
        cases leastOf hit.unitId rawHits with
        | none => exact Table.lookup_assign_of_ne other
        | some current =>
            simp only
            split
            · exact Table.lookup_assign_of_ne other
            · rfl

/-- The hit is the first of the least hits of its unit. -/
def Kept (rawHits : List RawSearchHit) (hit : RawSearchHit) : Prop :=
  leastOf hit.unitId rawHits = some hit

variable {rawHits hits : List RawSearchHit}

theorem mem_orderedHits {hit : RawSearchHit} :
    hit ∈ orderedHits rawHits ↔ Kept rawHits hit := by
  rw [orderedHits, mem_sortedBy, ← Table.mem_rows, Table.mem_iff_lookup, lookup_deduplicated, Kept]

theorem nodup_orderedHits (rawHits : List RawSearchHit) :
    ((orderedHits rawHits).map RawSearchHit.unitId).Nodup :=
  ((sortedBy_perm _ _).map _).nodup_iff.mpr (deduplicated rawHits).unique

theorem leastOf_some {unitId : String} {hit : RawSearchHit}
    (isLeast : leastOf unitId rawHits = some hit) :
    hit ∈ rawHits ∧ hit.unitId = unitId ∧
      ∀ other ∈ rawHits, other.unitId = unitId → hit.hitKey ≤ other.hitKey := by
  unfold leastOf at isLeast
  split at isLeast
  case h_1 => cases isLeast
  case h_2 first rest isList =>
      obtain rfl := Option.some.inj isLeast
      have member := minBy_mem RawSearchHit.hitKey first rest
      rw [← isList, hitsOf, List.mem_filter] at member
      refine ⟨member.1, by simpa using member.2, fun other isRaw same => ?_⟩
      refine minBy_le RawSearchHit.hitKey ?_
      rw [← isList, hitsOf, List.mem_filter]
      exact ⟨isRaw, by simpa using same⟩

theorem exists_kept {hit : RawSearchHit} (isRaw : hit ∈ rawHits) :
    ∃ kept, Kept rawHits kept ∧ kept.unitId = hit.unitId := by
  cases isLeast : leastOf hit.unitId rawHits with
  | none =>
      have isThere : hit ∈ hitsOf hit.unitId rawHits := List.mem_filter.mpr ⟨isRaw, by simp⟩
      unfold leastOf at isLeast
      split at isLeast
      case h_1 isList =>
          rw [isList] at isThere
          cases isThere
      case h_2 => cases isLeast
  | some kept =>
      obtain ⟨-, same, -⟩ := leastOf_some isLeast
      exact ⟨kept, by rw [Kept, same, isLeast], same⟩

/-! ## What a window covers -/

/-- Each hit starts at most the gap after the end that is reached before it. -/
def Chained (gap : ℚ) : ℚ → List RawSearchHit → Prop
  | _, [] => True
  | reached, hit :: later => hit.start ≤ reached + gap ∧ Chained gap (max reached hit.stop) later

/-- The end that is reached. -/
def hullEnd (reached : ℚ) (hits : List RawSearchHit) : ℚ :=
  hits.foldl (fun reached hit => max reached hit.stop) reached

theorem hullEnd_concat (reached : ℚ) (hits : List RawSearchHit) (hit : RawSearchHit) :
    hullEnd reached (hits ++ [hit]) = max (hullEnd reached hits) hit.stop := by
  rw [hullEnd, List.foldl_append]
  rfl

theorem chained_concat {gap reached : ℚ} {hit : RawSearchHit} :
    Chained gap reached (hits ++ [hit]) ↔
      Chained gap reached hits ∧ hit.start ≤ hullEnd reached hits + gap := by
  induction hits generalizing reached with
  | nil => simp [Chained, hullEnd]
  | cons first later inductionHypothesis =>
      simp only [List.cons_append, Chained, inductionHypothesis, and_assoc]
      rfl

theorem le_hullEnd (reached : ℚ) (hits : List RawSearchHit) : reached ≤ hullEnd reached hits := by
  induction hits generalizing reached with
  | nil => exact le_refl _
  | cons first later inductionHypothesis =>
      exact (le_max_left _ _).trans (inductionHypothesis _)

theorem stop_le_hullEnd {reached : ℚ} {hit : RawSearchHit} (member : hit ∈ hits) :
    hit.stop ≤ hullEnd reached hits := by
  induction hits generalizing reached with
  | nil => cases member
  | cons first later inductionHypothesis =>
      rcases List.mem_cons.mp member with rfl | inLater
      · exact (le_max_right _ _).trans (le_hullEnd _ later)
      · exact inductionHypothesis inLater

theorem hullEnd_reached (reached : ℚ) (hits : List RawSearchHit) :
    hullEnd reached hits = reached ∨ ∃ hit ∈ hits, hullEnd reached hits = hit.stop := by
  induction hits using List.reverseRecOn with
  | nil => exact .inl rfl
  | append_singleton hits hit inductionHypothesis =>
      rw [hullEnd_concat]
      rcases max_choice (hullEnd reached hits) hit.stop with kept | last
      · rw [kept]
        rcases inductionHypothesis with same | ⟨other, member, same⟩
        · exact .inl same
        · exact .inr ⟨other, List.mem_append_left _ member, same⟩
      · exact .inr ⟨hit, by simp, last⟩

/-- The window is the hull of its hits, which form a chain, and knows the best of them. -/
structure WindowSound (gap : ℚ) (window : EvidenceWindow) : Prop where
  starts : window.windowStart = window.firstHit.start
  ends : window.windowEnd = hullEnd window.firstHit.stop window.laterHits
  chained : Chained gap window.firstHit.stop window.laterHits
  best : window.bestHit = minBy RawSearchHit.hitKey window.firstHit window.laterHits

theorem WindowSound.ofHit (gap : ℚ) (hit : RawSearchHit) : WindowSound gap (.ofHit hit) where
  starts := rfl
  ends := rfl
  chained := trivial
  best := rfl

theorem WindowSound.extend {gap : ℚ} {window : EvidenceWindow} (sound : WindowSound gap window)
    {hit : RawSearchHit} (near : hit.start ≤ window.windowEnd + gap) :
    WindowSound gap (window.extend hit) where
  starts := sound.starts
  ends := by
    change max window.windowEnd hit.stop = hullEnd window.firstHit.stop (window.laterHits ++ [hit])
    rw [hullEnd_concat, sound.ends]
  chained := chained_concat.mpr ⟨sound.chained, sound.ends ▸ near⟩
  best := rfl

/-- The windows hold the hits in their order, and lie apart. -/
structure WindowsSound (gap : ℚ) (hits : List RawSearchHit) (windows : List EvidenceWindow) :
    Prop where
  components : windows.flatMap EvidenceWindow.componentHits = hits
  each : ∀ window ∈ windows, WindowSound gap window
  apart : windows.Pairwise fun earlier later => earlier.windowEnd + gap < later.windowStart

theorem WindowsSound.nil (gap : ℚ) : WindowsSound gap [] [] :=
  ⟨rfl, fun _ member => (List.not_mem_nil member).elim, .nil⟩

theorem WindowsSound.open_ {gap : ℚ} {windows : List EvidenceWindow}
    (sound : WindowsSound gap hits windows) {hit : RawSearchHit}
    (far : ∀ window ∈ windows, window.windowEnd + gap < hit.start) :
    WindowsSound gap (hits ++ [hit]) (windows ++ [.ofHit hit]) where
  components := by
    rw [List.flatMap_append, sound.components]
    rfl
  each := by
    intro window member
    rcases List.mem_append.mp member with earlier | new
    · exact sound.each window earlier
    · rw [List.mem_singleton.mp new]
      exact .ofHit gap hit
  apart := by
    rw [List.pairwise_append]
    refine ⟨sound.apart, List.pairwise_singleton _ _, fun window member other isNew => ?_⟩
    rw [List.mem_singleton.mp isNew]
    exact far window member

theorem WindowsSound.addHit {gap : ℚ} {windows : List EvidenceWindow}
    (sound : WindowsSound gap hits windows) {hit : RawSearchHit}
    (later : ∀ earlier ∈ hits, earlier.start ≤ hit.start) :
    WindowsSound gap (hits ++ [hit]) (addHit gap windows hit) := by
  unfold Retrieval.addHit
  cases isLast : windows.getLast? with
  | none =>
      rw [List.getLast?_eq_none_iff] at isLast
      subst isLast
      exact sound.open_ fun _ member => (List.not_mem_nil member).elim
  | some window =>
      obtain ⟨before, rfl⟩ := List.getLast?_eq_some_iff.mp isLast
      have isSound : WindowSound gap window := sound.each window (by simp)
      obtain ⟨apart, -, ahead⟩ := List.pairwise_append.mp sound.apart
      by_cases near : hit.start ≤ window.windowEnd + gap
      · simp only [if_pos near, List.dropLast_concat]
        refine ⟨?_, fun other member => ?_, ?_⟩
        · rw [← sound.components]
          simp [EvidenceWindow.componentHits, EvidenceWindow.extend]
        · rcases List.mem_append.mp member with earlier | new
          · exact sound.each other (List.mem_append_left _ earlier)
          · rw [List.mem_singleton.mp new]
            exact isSound.extend near
        · rw [List.pairwise_append]
          refine ⟨apart, List.pairwise_singleton _ _, fun earlier member other isNew => ?_⟩
          rw [List.mem_singleton.mp isNew]
          exact ahead earlier member window (List.mem_singleton_self _)
      · simp only [if_neg near]
        refine sound.open_ fun other member => ?_
        have isFirst : window.firstHit ∈ hits := by
          rw [← sound.components]
          simp [EvidenceWindow.componentHits]
        have onward : window.windowStart ≤ hit.start := isSound.starts ▸ later _ isFirst
        rcases List.mem_append.mp member with earlier | same
        · exact (ahead other earlier window (List.mem_singleton_self _)).trans_le onward
        · rw [List.mem_singleton.mp same]
          exact not_le.mp near

theorem mergedWindows_sound {gap : ℚ}
    (sorted : hits.Pairwise fun earlier later => earlier.start ≤ later.start) :
    WindowsSound gap hits (mergedWindows gap hits) := by
  induction hits using List.reverseRecOn with
  | nil => exact .nil gap
  | append_singleton hits hit inductionHypothesis =>
      obtain ⟨before, -, ahead⟩ := List.pairwise_append.mp sorted
      have turn : mergedWindows gap (hits ++ [hit]) = addHit gap (mergedWindows gap hits) hit := by
        rw [mergedWindows, List.foldl_append]
        rfl
      rw [turn]
      exact (inductionHypothesis before).addHit fun earlier member =>
        ahead earlier member hit (List.mem_singleton_self _)

/-! ## The result -/

/-- A window as a reader may take it: the hull of a chain of hits, with the best of them. -/
structure Hull (gap : ℚ) (window : EvidenceWindow) : Prop where
  starts : window.windowStart = window.firstHit.start
  chained : Chained gap window.firstHit.stop window.laterHits
  covers : ∀ hit ∈ window.componentHits,
    window.windowStart ≤ hit.start ∧ hit.stop ≤ window.windowEnd
  attained : ∃ hit ∈ window.componentHits, hit.stop = window.windowEnd
  best : window.bestHit ∈ window.componentHits ∧
    ∀ hit ∈ window.componentHits, window.bestHit.hitKey ≤ hit.hitKey

theorem WindowSound.hull {gap : ℚ} {window : EvidenceWindow} (sound : WindowSound gap window)
    (sorted : window.componentHits.Pairwise fun earlier later => earlier.start ≤ later.start) :
    Hull gap window where
  starts := sound.starts
  chained := sound.chained
  covers := by
    intro hit member
    rw [sound.starts, sound.ends]
    obtain ⟨ahead, -⟩ := List.pairwise_cons.mp sorted
    rcases List.mem_cons.mp member with rfl | isLater
    · exact ⟨le_refl _, le_hullEnd _ _⟩
    · exact ⟨ahead hit isLater, stop_le_hullEnd isLater⟩
  attained := by
    rw [sound.ends]
    rcases hullEnd_reached window.firstHit.stop window.laterHits with same | ⟨hit, member, same⟩
    · exact ⟨window.firstHit, List.mem_cons_self, same.symm⟩
    · exact ⟨hit, List.mem_cons_of_mem _ member, same.symm⟩
  best := by
    rw [sound.best]
    exact ⟨minBy_mem _ _ _, fun hit member => minBy_le _ member⟩

/-- What a group says of the hits that were kept of its video. -/
structure GroupSound (gap : ℚ) (rawHits : List RawSearchHit) (group : VideoResultGroup) : Prop where
  hits : ∀ hit, hit ∈ group.hits ↔ Kept rawHits hit ∧ hit.videoId = group.videoId
  hitsOnce : (group.hits.map RawSearchHit.unitId).Nodup
  best : group.bestHit ∈ group.hits ∧ ∀ hit ∈ group.hits, group.bestHit.hitKey ≤ hit.hitKey
  /-- Every transcript hit with a valid time is in a window, and nothing is in two. -/
  windowed : ∀ hit, (∃ window ∈ group.windows, hit ∈ window.componentHits) ↔
    hit ∈ group.hits ∧ hit.isChunk = true ∧ hit.validTime = true
  windowedOnce : (group.windows.flatMap EvidenceWindow.componentHits).Nodup
  unwindowed : group.unwindowedChunkCount =
    group.hits.countP fun hit => hit.isChunk && !hit.validTime
  apart : group.windows.Pairwise fun one other =>
    one.windowEnd + gap < other.windowStart ∨ other.windowEnd + gap < one.windowStart
  hull : ∀ window ∈ group.windows, Hull gap window
  order : group.windows.Pairwise fun earlier later => earlier.sortKey ≤ later.sortKey

theorem start_le_of_timeKey_le {one other : RawSearchHit} (below : one.timeKey ≤ other.timeKey) :
    one.start ≤ other.start := by
  rcases Prod.Lex.le_iff.mp below with less | ⟨same, -⟩
  · exact le_of_lt less
  · exact le_of_eq same

/-- The windows of a group: the hits they hold, apart from each other, in the order of the key. -/
theorem evidenceWindows_sound (gap : ℚ) (hits : List RawSearchHit) :
    ((evidenceWindows gap hits).flatMap EvidenceWindow.componentHits).Perm hits ∧
      ((evidenceWindows gap hits).Pairwise fun one other =>
        one.windowEnd + gap < other.windowStart ∨ other.windowEnd + gap < one.windowStart) ∧
      ∀ window ∈ evidenceWindows gap hits, Hull gap window := by
  have sorted : (sortedBy RawSearchHit.timeKey hits).Pairwise fun earlier later =>
      earlier.start ≤ later.start :=
    (pairwise_sortedBy RawSearchHit.timeKey hits).imp start_le_of_timeKey_le
  have sound : WindowsSound gap (sortedBy RawSearchHit.timeKey hits)
      (mergedWindows gap (sortedBy RawSearchHit.timeKey hits)) := mergedWindows_sound sorted
  have perm := sortedBy_perm EvidenceWindow.sortKey
    (mergedWindows gap (sortedBy RawSearchHit.timeKey hits))
  refine ⟨?_, ?_, fun window member => ?_⟩
  · refine (perm.flatMap_right _).trans ?_
    rw [sound.components]
    exact sortedBy_perm _ _
  · have symmetric := sound.apart.imp fun {one other} ahead =>
      Or.inl (b := other.windowEnd + gap < one.windowStart) ahead
    exact (perm.pairwise_iff fun ahead => Or.symm ahead).mpr symmetric
  · have isWindow := perm.mem_iff.mp member
    refine (sound.each window isWindow).hull (sorted.sublist ?_)
    rw [← sound.components, List.flatMap]
    exact List.sublist_flatten_of_mem (List.mem_map_of_mem isWindow)

/-- The transcript hits that are in no window. -/
theorem length_sub_valid (hits : List RawSearchHit) :
    (hits.filter RawSearchHit.isChunk).length -
        ((hits.filter RawSearchHit.isChunk).filter RawSearchHit.validTime).length =
      hits.countP fun hit => hit.isChunk && !hit.validTime := by
  rw [List.length_eq_countP_add_countP RawSearchHit.validTime, ← List.countP_eq_length_filter,
    Nat.add_sub_cancel_left, List.countP_filter]
  congr 1
  funext hit
  cases hit.isChunk <;> cases hit.validTime <;> rfl

theorem groupOf_sound {gap : ℚ} {videoId : Int} {first : RawSearchHit} {rest : List RawSearchHit}
    (isList : (orderedHits rawHits).filter (fun hit => hit.videoId = videoId) = first :: rest) :
    GroupSound gap rawHits (groupOf gap videoId first rest) := by
  have once : ((first :: rest).map RawSearchHit.unitId).Nodup := by
    rw [← isList]
    exact (nodup_orderedHits rawHits).sublist (List.filter_sublist.map _)
  obtain ⟨perm, apart, hull⟩ := evidenceWindows_sound gap
    (((first :: rest).filter RawSearchHit.isChunk).filter RawSearchHit.validTime)
  refine ⟨fun hit => ?_, once, ⟨minBy_mem _ _ _, fun hit member => minBy_le _ member⟩,
    fun hit => ?_, ?_, ?_, apart, hull, pairwise_sortedBy _ _⟩
  · change hit ∈ first :: rest ↔ _
    rw [← isList, List.mem_filter, mem_orderedHits]
    simp [groupOf]
  · rw [← List.mem_flatMap]
    change hit ∈ List.flatMap _ (evidenceWindows gap _) ↔ _
    rw [perm.mem_iff, List.mem_filter, List.mem_filter, and_assoc]
    rfl
  · refine perm.nodup_iff.mpr ?_
    exact ((List.Nodup.of_map _ once).filter _).filter _
  · exact length_sub_valid (first :: rest)

theorem videoGroup_some {gap : ℚ} {ordered : List RawSearchHit} {videoId : Int}
    {group : VideoResultGroup} (isGroup : videoGroup gap ordered videoId = some group) :
    group.videoId = videoId ∧ ∃ first rest,
      ordered.filter (fun hit => hit.videoId = videoId) = first :: rest ∧
        group = groupOf gap videoId first rest := by
  unfold videoGroup at isGroup
  split at isGroup
  case h_1 => cases isGroup
  case h_2 first rest isList =>
      obtain rfl := Option.some.inj isGroup
      exact ⟨rfl, first, rest, isList, rfl⟩

/-- What `consolidate` makes of the raw hits. -/
structure Consolidated (gap : ℚ) (rawHits : List RawSearchHit) (result : ConsolidationResult) :
    Prop where
  /-- The hits of the groups are the first least hit of every unit. -/
  kept : ∀ hit, (∃ group ∈ result.groups, hit ∈ group.hits) ↔ Kept rawHits hit
  keptLeast : ∀ hit, Kept rawHits hit → hit ∈ rawHits ∧
    ∀ other ∈ rawHits, other.unitId = hit.unitId → hit.hitKey ≤ other.hitKey
  keptEach : ∀ hit ∈ rawHits, ∃! kept, Kept rawHits kept ∧ kept.unitId = hit.unitId
  videos : (result.groups.map VideoResultGroup.videoId).Nodup
  groups : ∀ group ∈ result.groups, GroupSound gap rawHits group
  order : result.groups.Pairwise fun earlier later => earlier.sortKey ≤ later.sortKey
  /-- In another order the same hits give the same result, unless two hits of one unit differ that
  are equal in rank and score. -/
  permuted : (∀ one ∈ rawHits, ∀ other ∈ rawHits, one.hitKey = other.hitKey → one = other) →
    ∀ others, rawHits.Perm others → consolidate gap others = result

theorem keptEach {hit : RawSearchHit} (isRaw : hit ∈ rawHits) :
    ∃! kept, Kept rawHits kept ∧ kept.unitId = hit.unitId := by
  obtain ⟨kept, isKept, same⟩ := exists_kept isRaw
  refine ⟨kept, ⟨isKept, same⟩, ?_⟩
  rintro other ⟨otherKept, otherSame⟩
  rw [Kept, otherSame] at otherKept
  rw [Kept, same] at isKept
  exact Option.some.inj (otherKept.symm.trans isKept)

/-- Where equal keys mean equal hits, the least hit of a unit does not depend on the order. -/
theorem kept_iff_of_untied
    (untied : ∀ one ∈ rawHits, ∀ other ∈ rawHits, one.hitKey = other.hitKey → one = other)
    {hit : RawSearchHit} :
    Kept rawHits hit ↔ hit ∈ rawHits ∧
      ∀ other ∈ rawHits, other.unitId = hit.unitId → hit.hitKey ≤ other.hitKey := by
  constructor
  · intro isKept
    obtain ⟨isRaw, -, least⟩ := leastOf_some isKept
    exact ⟨isRaw, least⟩
  · rintro ⟨isRaw, least⟩
    obtain ⟨kept, isKept, same⟩ := exists_kept isRaw
    obtain ⟨keptRaw, -, keptLeast⟩ := leastOf_some isKept
    have isHit : kept = hit :=
      untied kept keptRaw hit isRaw (le_antisymm (keptLeast hit isRaw same.symm) (least kept keptRaw same))
    rwa [isHit] at isKept

theorem orderedHits_of_perm {others : List RawSearchHit} (perm : rawHits.Perm others)
    (untied : ∀ one ∈ rawHits, ∀ other ∈ rawHits, one.hitKey = other.hitKey → one = other) :
    orderedHits others = orderedHits rawHits := by
  have untiedOthers : ∀ one ∈ others, ∀ other ∈ others, one.hitKey = other.hitKey → one = other := by
    intro one isOne other isOther
    exact untied one (perm.mem_iff.mpr isOne) other (perm.mem_iff.mpr isOther)
  have sameKept : ∀ hit, hit ∈ orderedHits others ↔ hit ∈ orderedHits rawHits := by
    intro hit
    rw [mem_orderedHits, mem_orderedHits, kept_iff_of_untied untied, kept_iff_of_untied untiedOthers]
    simp only [perm.mem_iff]
  have reordered : (orderedHits others).Perm (orderedHits rawHits) :=
    (List.perm_ext_iff_of_nodup (.of_map _ (nodup_orderedHits others))
      (.of_map _ (nodup_orderedHits rawHits))).mpr sameKept
  have same : sortedBy RawSearchHit.hitKey (orderedHits others) =
      sortedBy RawSearchHit.hitKey (orderedHits rawHits) := by
    refine sortedBy_of_perm _ reordered fun one isOne other isOther => ?_
    obtain ⟨oneRaw, -⟩ := leastOf_some (mem_orderedHits.mp isOne)
    obtain ⟨otherRaw, -⟩ := leastOf_some (mem_orderedHits.mp isOther)
    exact untiedOthers one oneRaw other otherRaw
  have sorted : ∀ hits, sortedBy RawSearchHit.hitKey (orderedHits hits) = orderedHits hits :=
    fun hits => sortedBy_of_pairwise _ (pairwise_sortedBy _ _)
  rwa [sorted, sorted] at same

/-- A hit of one unit, at the same rank and score, that starts at some second. -/
def tiedHit (start : ℚ) : RawSearchHit :=
  ⟨"unit", 1, "transcript_chunk", 1, 0, "", "", .number start, .number 60⟩

end Shiliu.Retrieval
