/-
Module: Shiliu.Deep.ChosenExcerpts
Purpose: What `choose` selects of the candidates of one query. What it takes for itself comes with
  the excerpt that precedes it; the best excerpt by rank and, where the copies of an excerpt agree on
  their time, the best by score are always taken, and not only there as the context of others.
Trusted boundary: none
Main exports: RankOrdered, snapshot_rankOrdered, choose_eq, scoreAnchor_taken, preceding_mem_choose
-/
import Mathlib.Tactic.Linarith
import Shiliu.Deep.BatchReduce

set_option linter.all false

namespace Shiliu.Deep

open Shiliu.Library

attribute [local instance] relevanceOrder relevancePreorder priorityOrder priorityPreorder

/-- Candidates in the order of their ranks, no two of one rank. -/
def RankOrdered (candidates : List Candidate) : Prop :=
  candidates.Pairwise fun one other => one.rank < other.rank

theorem snapshot_rankOrdered (action : V2Action) (spans : List TranscriptEvidenceSpan) :
    RankOrdered (snapshot action spans).candidates := by
  have ranks : (snapshot action spans).candidates.map Candidate.rank =
      (List.range spans.length).map (· + 1) := by
    rw [snapshot, List.map_map, List.range_eq_range', ← List.zipIdx_map_snd 0 spans, List.map_map]
    rfl
  rw [RankOrdered, ← List.pairwise_map (f := Candidate.rank) (R := (· < ·)), ranks, List.pairwise_map]
  exact List.pairwise_lt_range.imp fun less => Nat.succ_lt_succ less

section Guard

variable {candidates chosen : List Candidate} {candidate preceding : Candidate}

theorem precedingExcerpt_spec (isPreceding : precedingExcerpt candidates candidate = some preceding) :
    preceding ∈ candidates ∧ preceding.span.videoId = candidate.span.videoId ∧
      preceding.span.endTime ≤ candidate.span.startTime ∧
      candidate.span.startTime - preceding.span.endTime ≤ 5 := by
  obtain ⟨member, near⟩ := List.mem_filter.mp (List.argmax_mem isPreceding)
  exact ⟨member, by simpa using near⟩

theorem mem_guard_foldl (rest out : List Candidate) :
    preceding ∈ rest.foldl (fun out candidate =>
        match precedingExcerpt candidates candidate with
        | some preceding => if preceding ∈ out then out else out ++ [preceding]
        | none => out) out ↔
      preceding ∈ out ∨
        ∃ candidate ∈ rest, precedingExcerpt candidates candidate = some preceding := by
  induction rest generalizing out with
  | nil => simp
  | cons first rest inductionHypothesis =>
      rw [List.foldl_cons, inductionHypothesis]
      simp only [List.mem_cons, exists_eq_or_imp]
      cases isPreceding : precedingExcerpt candidates first with
      | none => simp
      | some found =>
          by_cases known : found ∈ out
          · simp only [known, if_true, Option.some_inj]
            constructor
            · rintro (isOut | later)
              · exact .inl isOut
              · exact .inr (.inr later)
            · rintro (isOut | rfl | later)
              · exact .inl isOut
              · exact .inl known
              · exact .inr later
          · simp only [known, if_false, List.mem_append, List.mem_singleton, Option.some_inj,
              or_assoc, eq_comm]

theorem mem_guardExcerpts : preceding ∈ guardExcerpts chosen candidates ↔
    preceding ∈ chosen ∨ ∃ candidate ∈ chosen, precedingExcerpt candidates candidate = some preceding :=
  mem_guard_foldl chosen chosen

theorem subset_guardExcerpts : chosen ⊆ guardExcerpts chosen candidates :=
  fun _ isChosen => mem_guardExcerpts.mpr (.inl isChosen)

theorem guardExcerpts_subset (inside : chosen ⊆ candidates) :
    guardExcerpts chosen candidates ⊆ candidates := by
  intro candidate member
  rcases mem_guardExcerpts.mp member with isChosen | ⟨other, -, isPreceding⟩
  · exact inside isChosen
  · exact (precedingExcerpt_spec isPreceding).1

end Guard

/-! ## Filling up -/

section Fill

variable {rules : DeepRules} {ordered : List Candidate} {budget : Rat}

/-- What is taken stays taken, and only what is offered is taken. -/
theorem foldl_fill (out : List Candidate) (size : Rat) :
    let filled := (ordered.foldl (fun (out, size) candidate =>
      if size + compactSize rules candidate ≤ budget ∨ out = [] then
        (out ++ [candidate], size + compactSize rules candidate)
      else (out, size)) (out, size)).1
    out ⊆ filled ∧ filled ⊆ out ++ ordered := by
  induction ordered generalizing out size with
  | nil => simp
  | cons first rest inductionHypothesis =>
      rw [List.foldl_cons]
      by_cases fits : size + compactSize rules first ≤ budget ∨ out = []
      case pos =>
          simp only [if_pos fits]
          obtain ⟨keeps, offered⟩ :=
            inductionHypothesis (out ++ [first]) (size + compactSize rules first)
          rw [List.append_assoc, List.singleton_append] at offered
          exact ⟨fun _ isOut => keeps (List.mem_append_left _ isOut), offered⟩
      case neg =>
          simp only [if_neg fits]
          obtain ⟨keeps, offered⟩ := inductionHypothesis out size
          refine ⟨keeps, fun candidate isTaken => ?_⟩
          rcases List.mem_append.mp (offered isTaken) with isOut | later
          · exact List.mem_append_left _ isOut
          · exact List.mem_append_right _ (List.mem_cons_of_mem _ later)

theorem fill_subset : fill rules ordered budget ⊆ ordered := by
  intro candidate isTaken
  have offered := (foldl_fill [] 0).2 isTaken
  rwa [List.nil_append] at offered

/-- The first that is offered is taken, whatever its size. -/
theorem first_mem_fill {first : Candidate} {rest : List Candidate} :
    first ∈ fill rules (first :: rest) budget := by
  rw [fill, List.foldl_cons]
  simp only [or_true, if_true, List.nil_append]
  exact (foldl_fill [first] (0 + compactSize rules first)).1 List.mem_cons_self

end Fill

/-! ## One candidate of each excerpt -/

section Excerpts

variable {candidates : List Candidate} {candidate : Candidate}

theorem distinctExcerpts_concat : distinctExcerpts (candidates ++ [candidate]) =
    if (distinctExcerpts candidates).any (ident · = ident candidate) then distinctExcerpts candidates
    else distinctExcerpts candidates ++ [candidate] := by
  rw [distinctExcerpts, List.foldl_append]
  rfl

theorem distinctExcerpts_subset : distinctExcerpts candidates ⊆ candidates := by
  induction candidates using List.reverseRecOn with
  | nil => exact List.Subset.refl _
  | append_singleton earlier last inductionHypothesis =>
      rw [distinctExcerpts_concat]
      split
      · exact fun _ member => List.mem_append_left _ (inductionHypothesis member)
      · exact List.append_subset.mpr ⟨fun _ member => List.mem_append_left _ (inductionHypothesis member),
          List.subset_append_right _ _⟩

theorem exists_distinctExcerpts_cons (first : Candidate) (rest : List Candidate) :
    ∃ more, distinctExcerpts (first :: rest) = first :: more := by
  induction rest using List.reverseRecOn with
  | nil => exact ⟨[], rfl⟩
  | append_singleton earlier last inductionHypothesis =>
      obtain ⟨more, firsts⟩ := inductionHypothesis
      rw [← List.cons_append, distinctExcerpts_concat, firsts]
      split
      · exact ⟨more, rfl⟩
      · exact ⟨more ++ [last], rfl⟩

theorem exists_distinctExcerpt (ordered : RankOrdered candidates) (member : candidate ∈ candidates) :
    ∃ standing ∈ distinctExcerpts candidates, ident standing = ident candidate ∧
      standing.rank ≤ candidate.rank := by
  induction candidates using List.reverseRecOn with
  | nil => cases member
  | append_singleton earlier last inductionHypothesis =>
      obtain ⟨orderedEarlier, -, below⟩ := List.pairwise_append.mp ordered
      rw [distinctExcerpts_concat]
      rcases List.mem_append.mp member with isEarlier | isLast
      · obtain ⟨standing, isStanding, same, rank⟩ := inductionHypothesis orderedEarlier isEarlier
        refine ⟨standing, ?_, same, rank⟩
        split
        · exact isStanding
        · exact List.mem_append_left _ isStanding
      · obtain rfl := List.mem_singleton.mp isLast
        split
        case isTrue known =>
            obtain ⟨standing, isStanding, same⟩ := List.any_eq_true.mp known
            refine ⟨standing, isStanding, by simpa using same, ?_⟩
            exact le_of_lt (below standing (distinctExcerpts_subset isStanding) _ List.mem_cons_self)
        case isFalse =>
            exact ⟨candidate, List.mem_append_right _ List.mem_cons_self, rfl, le_refl _⟩

end Excerpts

/-! ## What is taken -/

section Taken

variable (rules : DeepRules) (candidates : List Candidate) (score : String → Rat)

/-- The order of the tail: by score from the best down, then by rank. -/
def byScore (one other : Candidate) : Bool :=
  decide (toLex (-score one.evidenceRef, one.rank) ≤ toLex (-score other.evidenceRef, other.rank))

theorem pairwise_byScore : (candidates.mergeSort (byScore score)).Pairwise
    fun one other => byScore score one other := by
  apply List.pairwise_mergeSort
  · intro one two three below above
    simp only [byScore, decide_eq_true_eq] at below above ⊢
    exact le_trans below above
  · intro one two
    simp only [byScore, Bool.or_eq_true, decide_eq_true_eq]
    exact le_total _ _

/-- What `choose` takes before it adds what precedes. -/
def taken : List Candidate :=
  let distinct := distinctExcerpts candidates
  let budget : Rat := ((candidates.map (compactSize rules)).sum : Nat)
  let core := fill rules distinct (2 / 5 * budget)
  let tail := (distinct.filter fun candidate => candidate ∉ core).mergeSort (byScore score)
  core ++ fill rules tail (3 / 5 * budget - ((core.map (compactSize rules)).sum : Nat))

variable {rules candidates score} {candidate preceding : Candidate} (ordered : RankOrdered candidates)

include ordered

theorem choose_eq : choose rules candidates score =
    guardExcerpts (taken rules candidates score) candidates := by
  have sorted : candidates.mergeSort (fun one other => one.rank ≤ other.rank) = candidates := by
    apply List.mergeSort_of_pairwise
    exact ordered.imp fun less => by simpa using le_of_lt less
  simp only [choose, sorted]
  rfl

theorem eq_of_rank {other : Candidate} (isOne : candidate ∈ candidates) (isOther : other ∈ candidates)
    (same : candidate.rank = other.rank) : candidate = other := by
  have ranks : (candidates.map Candidate.rank).Nodup := by
    rw [List.Nodup, List.pairwise_map]
    exact List.Pairwise.imp (fun less => ne_of_lt less) ordered
  exact List.inj_on_of_nodup_map ranks isOne isOther same

/-- What comes first has the smaller rank. -/
theorem rank_le_of_idxOf_le {other : Candidate} (isOne : candidate ∈ candidates)
    (isOther : other ∈ candidates) (earlier : candidates.idxOf candidate ≤ candidates.idxOf other) :
    candidate.rank ≤ other.rank := by
  have inside := List.idxOf_lt_length_of_mem isOne
  have insideOther := List.idxOf_lt_length_of_mem isOther
  rcases Nat.lt_or_eq_of_le earlier with before | same
  · have less := List.pairwise_iff_getElem.mp ordered _ _ inside insideOther before
    rw [List.getElem_idxOf, List.getElem_idxOf] at less
    exact le_of_lt less
  · rw [(List.idxOf_inj isOne).mp same]

omit ordered in
theorem taken_subset : taken rules candidates score ⊆ candidates := by
  intro candidate isTaken
  apply distinctExcerpts_subset
  rcases List.mem_append.mp isTaken with isCore | isTail
  · exact fill_subset isCore
  · exact (List.mem_filter.mp (List.mem_mergeSort.mp (fill_subset isTail))).1

theorem choose_subset : choose rules candidates score ⊆ candidates := by
  rw [choose_eq ordered]
  exact guardExcerpts_subset taken_subset

/-- What precedes a taken excerpt is chosen with it. -/
theorem preceding_mem_choose (isTaken : candidate ∈ taken rules candidates score)
    (isPreceding : precedingExcerpt candidates candidate = some preceding) :
    preceding ∈ choose rules candidates score := by
  rw [choose_eq ordered]
  exact mem_guardExcerpts.mpr (.inr ⟨candidate, isTaken, isPreceding⟩)

omit ordered in
theorem first_taken {first : Candidate} {rest : List Candidate} :
    first ∈ taken rules (first :: rest) score := by
  obtain ⟨more, firsts⟩ := exists_distinctExcerpts_cons first rest
  simp only [taken, firsts]
  exact List.mem_append_left _ first_mem_fill

theorem choose_ne_nil (isThere : candidates ≠ []) : choose rules candidates score ≠ [] := by
  cases candidates with
  | nil => exact absurd rfl isThere
  | cons first rest =>
      have isChosen : first ∈ choose rules (first :: rest) score := by
        rw [choose_eq ordered]
        exact subset_guardExcerpts first_taken
      exact List.ne_nil_of_mem isChosen

theorem rankAnchor_taken
    (isAnchor : (choose rules candidates score).argmin Candidate.rank = some candidate) :
    candidate ∈ taken rules candidates score := by
  have isCandidate := choose_subset ordered (List.argmin_mem isAnchor)
  cases candidates with
  | nil => cases isCandidate
  | cons first rest =>
      have isFirst : first ∈ taken rules (first :: rest) score := first_taken
      have isChosen : first ∈ choose rules (first :: rest) score := by
        rw [choose_eq ordered]
        exact subset_guardExcerpts isFirst
      have below : candidate.rank ≤ first.rank := List.le_of_mem_argmin isChosen isAnchor
      have above : first.rank ≤ candidate.rank := by
        rcases List.mem_cons.mp isCandidate with rfl | later
        · exact le_refl _
        · exact le_of_lt ((List.pairwise_cons.mp ordered).1 candidate later)
      rw [eq_of_rank ordered isCandidate List.mem_cons_self (le_antisymm below above)]
      exact isFirst

/-- What precedes an excerpt stands for its excerpt, where the copies of one agree on their time. -/
theorem preceding_distinct
    (timed : ∀ one ∈ candidates, ∀ other ∈ candidates, ident one = ident other →
      one.span.videoId = other.span.videoId ∧ one.span.endTime = other.span.endTime)
    (isPreceding : precedingExcerpt candidates candidate = some preceding) :
    preceding ∈ distinctExcerpts candidates := by
  obtain ⟨isThere, video, before, close⟩ := precedingExcerpt_spec isPreceding
  obtain ⟨standing, isStanding, same, rank⟩ := exists_distinctExcerpt ordered isThere
  have inside := distinctExcerpts_subset isStanding
  obtain ⟨sameVideo, sameEnd⟩ := timed standing inside preceding isThere same
  -- The one that stands for it precedes as well, and not later, so it is the first that is found.
  set near := candidates.filter fun other =>
    other.span.videoId = candidate.span.videoId ∧
      other.span.endTime ≤ candidate.span.startTime ∧
      candidate.span.startTime - other.span.endTime ≤ 5 with isNear
  have standsNear : standing ∈ near := by
    rw [isNear, List.mem_filter, sameVideo, sameEnd]
    exact ⟨inside, by simp [video, before, close]⟩
  have isNearby : preceding ∈ near := List.argmax_mem isPreceding
  have earlier := List.index_of_argmax isPreceding standsNear (le_of_eq sameEnd.symm)
  have orderedNear : RankOrdered near := List.Pairwise.sublist List.filter_sublist ordered
  have least := rank_le_of_idxOf_le orderedNear isNearby standsNear earlier
  rw [← eq_of_rank ordered inside isThere (le_antisymm rank least)]
  exact isStanding

omit ordered in
theorem exists_better_of_not_taken (stands : candidate ∈ distinctExcerpts candidates)
    (left : candidate ∉ taken rules candidates score) :
    ∃ better ∈ taken rules candidates score,
      toLex (-score better.evidenceRef, better.rank) ≤
        toLex (-score candidate.evidenceRef, candidate.rank) := by
  simp only [taken] at left ⊢
  set core := fill rules (distinctExcerpts candidates)
    (2 / 5 * ((candidates.map (compactSize rules)).sum : Nat)) with isCore
  have isLeft : candidate ∈ (distinctExcerpts candidates).filter fun candidate => candidate ∉ core := by
    rw [List.mem_filter]
    exact ⟨stands, by simpa using fun member => left (List.mem_append_left _ member)⟩
  rw [← @List.mem_mergeSort _ (byScore score)] at isLeft
  have sorted := pairwise_byScore ((distinctExcerpts candidates).filter (· ∉ core)) score
  cases tail : ((distinctExcerpts candidates).filter (· ∉ core)).mergeSort (byScore score) with
  | nil => rw [tail] at isLeft; cases isLeft
  | cons first rest =>
      rw [tail] at isLeft sorted
      refine ⟨first, List.mem_append_right _ first_mem_fill, ?_⟩
      rcases List.mem_cons.mp isLeft with rfl | later
      · exact le_refl _
      · have below := (List.pairwise_cons.mp sorted).1 candidate later
        simpa only [byScore, decide_eq_true_eq] using below

/-- The best by score is taken, where the copies of an excerpt agree on their time. -/
theorem scoreAnchor_taken {scores : String → String → Rat} {id : String}
    (timed : ∀ one ∈ candidates, ∀ other ∈ candidates, ident one = ident other →
      one.span.videoId = other.span.videoId ∧ one.span.endTime = other.span.endTime)
    (isAnchor : (choose rules candidates (scores id)).argmax (relevance scores id) = some candidate) :
    candidate ∈ taken rules candidates (scores id) := by
  have isChosen := List.argmax_mem isAnchor
  have isCandidate := choose_subset ordered isChosen
  have unchosen := isChosen
  rw [choose_eq ordered] at unchosen
  rcases mem_guardExcerpts.mp unchosen with isTaken | ⟨other, -, isPreceding⟩
  · exact isTaken
  · have stands := preceding_distinct ordered timed isPreceding
    by_contra left
    obtain ⟨first, isTaken, better⟩ := exists_better_of_not_taken stands left
    have isFirst : first ∈ choose rules candidates (scores id) := by
      rw [choose_eq ordered]
      exact subset_guardExcerpts isTaken
    have best := List.le_of_mem_argmax isFirst isAnchor
    rw [relevance, relevance, Prod.Lex.toLex_le_toLex] at best
    rw [Prod.Lex.toLex_le_toLex] at better
    simp only at best better
    have sameRank : candidate.rank = first.rank := by
      rcases better with higher | ⟨same, below⟩
      · rcases best with lower | ⟨same, -⟩ <;> linarith
      · rcases best with lower | ⟨-, above⟩
        · linarith
        · omega
    rw [eq_of_rank ordered isCandidate (taken_subset isTaken) sameRank] at left
    exact left isTaken

end Taken

end Shiliu.Deep
