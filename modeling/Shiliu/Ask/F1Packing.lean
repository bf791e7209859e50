/-
Module: Shiliu.Ask.F1Packing
Purpose: What the greedy packer delivers. Every segment with a text is decided on once, in order:
  it is delivered already, it goes behind the last span, it starts a span, or it fits nowhere. What
  is delivered stands in the order of the decisions that selected it, which need not be the order
  in which the segments were first offered.
Trusted boundary: none
Main exports: Placement, placements, Unavoidable, PackInvariant, PackDelivers, s2Build_delivers
-/
import Shiliu.Ask.WidePacking

set_option linter.all false

namespace Shiliu.Ask

open Shiliu.Library Shiliu.Storage

variable {Time : Type}

/-! ## One loop -/

/-- A segment that is offered, with its span and the rank of the span. -/
structure Placement (Time : Type) where
  rank : Nat
  span : TranscriptEvidenceSpan Time
  segment : EvidenceSegment Time

def Placement.piece (placement : Placement Time) : Lineage × EvidenceSegment Time :=
  (placement.span.lineage, placement.segment)

/-- The segments of ranked spans, in the order of the loops. -/
def placementsOf (ranked : List (TranscriptEvidenceSpan Time × Nat)) : List (Placement Time) :=
  ranked.flatMap fun (span, rank) => span.segments.map fun segment => ⟨rank, span, segment⟩

/-- The offered segments of a call. -/
def placements (spans : List (TranscriptEvidenceSpan Time)) : List (Placement Time) :=
  placementsOf (spans.zipIdx 1)

section Loop

variable (cbase : Cbase) (rules : AskRules Time) (query intent : String)

/-- The body of both loops together. -/
def Cbase.place (state : PackState Time) (placement : Placement Time) :
    Except AskFailure (PackState Time) :=
  cbase.placeSegment rules query intent placement.rank placement.span state placement.segment

/-- The variables before the loops. -/
def PackState.empty (Time : Type) : PackState Time := ⟨[], [], []⟩

/-- The two loops are one loop over the offered segments. -/
theorem foldlM_placements (ranked : List (TranscriptEvidenceSpan Time × Nat))
    (state : PackState Time) :
    ranked.foldlM (fun state (span, rank) =>
        span.segments.foldlM (cbase.placeSegment rules query intent rank span) state) state =
      (placementsOf ranked).foldlM (cbase.place rules query intent) state := by
  induction ranked generalizing state with
  | nil => rfl
  | cons first rest inductionHypothesis =>
      have split : placementsOf (first :: rest) =
          first.1.segments.map (fun segment => ⟨first.2, first.1, segment⟩) ++ placementsOf rest :=
        List.flatMap_cons
      rw [List.foldlM_cons, split, List.foldlM_append, List.foldlM_map]
      exact congrArg _ (funext inductionHypothesis)

end Loop

/-! ## One segment -/

section Place

variable (cbase : Cbase) (rules : AskRules Time) (query intent : String)

/-- The length of the payload of some spans. -/
def payload (spans : List (TranscriptEvidenceSpan Time)) : Nat :=
  (serialize rules query intent spans).length

/-- The spans with the segment behind the last one, within the budgets. -/
def Extends (selected : List (TranscriptEvidenceSpan Time)) (placement : Placement Time)
    (single : TranscriptEvidenceSpan Time) (trial : List (TranscriptEvidenceSpan Time)) : Prop :=
  ∃ last ∈ selected.getLast?, sameLineage last single = true ∧
    last.followedBy placement.segment = true ∧
    ∃ merged, mergeSpans rules last single = .ok merged ∧ trial = selected.dropLast ++ [merged] ∧
      merged.quoteText.length ≤ cbase.perSpanCharacterBudget ∧
      payload rules query intent trial ≤ cbase.totalCharacterBudget

/-- The spans and a new one, within the budgets. -/
def Opens (selected : List (TranscriptEvidenceSpan Time)) (single : TranscriptEvidenceSpan Time) :
    Prop :=
  single.quoteText.length ≤ cbase.perSpanCharacterBudget ∧ selected.length + 1 ≤ cbase.maxSpans ∧
    payload rules query intent (selected ++ [single]) ≤ cbase.totalCharacterBudget

/-- Neither the last span nor a new one can take the segment. -/
def Unavoidable (selected : List (TranscriptEvidenceSpan Time)) (placement : Placement Time) : Prop :=
  ∃ single, spanWithSegments rules placement.span [placement.segment] none none none = .ok single ∧
    (¬ ∃ trial, Extends cbase rules query intent selected placement single trial) ∧
    ¬ Opens cbase rules query intent selected single

/-- The budgets hold of the spans. -/
structure WithinBudgets (selected : List (TranscriptEvidenceSpan Time)) : Prop where
  few : selected.length ≤ cbase.maxSpans
  quotes : ∀ span ∈ selected, span.quoteText.length ≤ cbase.perSpanCharacterBudget
  payload : payload rules query intent selected ≤ cbase.totalCharacterBudget

/-- What can be decided on an offered segment, and which spans are selected then. -/
inductive Placing (places : RawPlaces Time) (selected : List (TranscriptEvidenceSpan Time))
    (placement : Placement Time) : List (TranscriptEvidenceSpan Time) → Action → Prop where
  | duplicate (seen : coordinate placement.piece ∈ (delivered selected).map coordinate) :
      Placing places selected placement selected (.drop .exactRawDuplicate)
  | dropped (reason : DropReason) (lossy : reason ≠ .exactRawDuplicate)
      (unavoidable : Unavoidable cbase rules query intent selected placement) :
      Placing places selected placement selected (.drop reason)
  | selected (next : List (TranscriptEvidenceSpan Time))
      (fresh : coordinate placement.piece ∉ (delivered selected).map coordinate)
      (grown : delivered next = delivered selected ++ [placement.piece])
      (budgets : WithinBudgets cbase rules query intent next)
      (formed : ∀ span ∈ next, Formed rules span) (placed : ∀ span ∈ next, Placed places span) :
      Placing places selected placement next .select

end Place

/-- What holds of the variables after some offered segments. -/
structure PackInvariant (cbase : Cbase) (rules : AskRules Time) (query intent : String)
    (places : RawPlaces Time) (done : List (Placement Time)) (state : PackState Time) : Prop where
  budgets : WithinBudgets cbase rules query intent state.selected
  formed : ∀ span ∈ state.selected, Formed rules span
  placed : ∀ span ∈ state.selected, Placed places span
  seen : state.seen = (delivered state.selected).map coordinate
  once : ((delivered state.selected).map coordinate).Nodup
  reached : done.foldlM (cbase.place rules query intent) (PackState.empty Time) = .ok state
  decided : state.decisions.map (fun decision => (decision.rank, decision.segmentId)) =
    done.map fun placement => (placement.rank, placement.segment.segmentId)
  chosen : delivered state.selected =
    ((done.zip state.decisions).filter fun both => both.2.action = .select).map fun both =>
      both.1.piece
  lossless : ∀ both ∈ done.zip state.decisions, Cbase.lossy both.2 = false →
    coordinate both.1.piece ∈ (delivered state.selected).map coordinate
  drops : ∀ before placement after, done = before ++ placement :: after →
    ∃ earlier decision, before.foldlM (cbase.place rules query intent) (PackState.empty Time) =
        .ok earlier ∧ state.decisions[before.length]? = some decision ∧
      (Cbase.lossy decision = true →
        Unavoidable cbase rules query intent earlier.selected placement)

/-! ## What is decided -/

/-- A quote that goes on is at least as long as what it goes on with. -/
theorem length_quoteOf_le (segments : List (EvidenceSegment Time)) (segment : EvidenceSegment Time) :
    (quoteOf [segment]).length ≤ (quoteOf (segments ++ [segment])).length := by
  rw [quoteOf, quoteOf, List.map_append, List.filter_append]
  generalize (segments.map fun other => strip other.sourceText).filter (· ≠ "") = before
  generalize ([segment].map fun other => strip other.sourceText).filter (· ≠ "") = last
  by_cases none : last = []
  · rw [none, String.intercalate_nil]
    exact Nat.zero_le _
  · by_cases first : before = []
    · rw [first, List.nil_append]
    · rw [String.intercalate_append_of_ne_nil first none, String.length_append]
      exact Nat.le_add_left _ _

section Decide

variable {cbase : Cbase} {rules : AskRules Time} {query intent : String} {places : RawPlaces Time}
  {selected : List (TranscriptEvidenceSpan Time)} {placement : Placement Time}
  {single : TranscriptEvidenceSpan Time}

theorem Extends.grown (lawful : rules.toUrlLibrary.Lawful)
    (formed : ∀ span ∈ selected, Formed rules span) (placed : ∀ span ∈ selected, Placed places span)
    (cut : CutFrom rules placement.span [placement.segment] single)
    (has : places.Has placement.span.lineage placement.segment)
    {trial : List (TranscriptEvidenceSpan Time)}
    (extends_ : Extends cbase rules query intent selected placement single trial) :
    delivered trial = delivered selected ++ [placement.piece] ∧ trial.length = selected.length ∧
      (∀ span ∈ trial, Formed rules span) ∧ (∀ span ∈ trial, Placed places span) ∧
      ∃ merged, trial = selected.dropLast ++ [merged] ∧
        single.quoteText.length ≤ merged.quoteText.length := by
  obtain ⟨last, isLast, same, follows, merged, isMerged, rfl, -, -⟩ := extends_
  have member : last ∈ selected := List.mem_of_getLast? isLast
  obtain ⟨other, isOther, mergedCut, mergedPlaced, mergedPieces⟩ :=
    exists_appended lawful (formed last member) (placed last member) cut has same follows
  obtain rfl : merged = other := Except.ok.inj (isMerged.symm.trans isOther)
  have split : selected = selected.dropLast ++ [last] :=
    (List.dropLast_append_getLast? last isLast).symm
  have kept : ∀ other ∈ selected.dropLast, other ∈ selected :=
    (List.dropLast_sublist selected).subset
  refine ⟨?_, ?_, ?_, ?_, merged, rfl, ?_⟩
  · have before : delivered selected = delivered selected.dropLast ++ last.pieces := by
      rw [← delivered_singleton, ← delivered_append, ← split]
    rw [delivered_append, delivered_singleton, mergedPieces, before, List.append_assoc]
    rfl
  · rw [List.length_append, List.length_singleton, List.length_dropLast]
    exact Nat.sub_add_cancel (List.length_pos_of_mem member)
  · rw [List.forall_mem_append, List.forall_mem_singleton]
    exact ⟨fun other isOther => formed other (kept other isOther), mergedCut.formed⟩
  · rw [List.forall_mem_append, List.forall_mem_singleton]
    exact ⟨fun other isOther => placed other (kept other isOther), mergedPlaced⟩
  · rw [cut.formed.quote, cut.carried, mergedCut.formed.quote, mergedCut.carried]
    exact length_quoteOf_le last.segments placement.segment

theorem extension_ok (lawful : rules.toUrlLibrary.Lawful)
    (formed : ∀ span ∈ selected, Formed rules span) (placed : ∀ span ∈ selected, Placed places span)
    (cut : CutFrom rules placement.span [placement.segment] single)
    (has : places.Has placement.span.lineage placement.segment) :
    (cbase.extension rules query intent selected single placement.segment = .ok none ∧
        ¬ ∃ trial, Extends cbase rules query intent selected placement single trial) ∨
      ∃ trial, cbase.extension rules query intent selected single placement.segment =
          .ok (some trial) ∧ Extends cbase rules query intent selected placement single trial := by
  rw [Cbase.extension]
  cases isLast : selected.getLast? with
  | none =>
      refine .inl ⟨rfl, ?_⟩
      rintro ⟨trial, last, member, -⟩
      rw [isLast] at member
      nomatch member
  | some last =>
      have member : last ∈ selected := List.mem_of_getLast? isLast
      by_cases joins : (sameLineage last single && last.followedBy placement.segment) = true
      · obtain ⟨same, follows⟩ := Bool.and_eq_true_iff.mp joins
        obtain ⟨merged, isMerged, -⟩ := exists_appended lawful (formed last member)
          (placed last member) cut has same follows
        simp only [if_pos joins, isMerged, bind, Except.bind]
        by_cases fits : merged.quoteText.length ≤ cbase.perSpanCharacterBudget ∧
            (serialize rules query intent (selected.dropLast ++ [merged])).length ≤
              cbase.totalCharacterBudget
        · rw [if_pos fits]
          exact .inr ⟨_, rfl, last, isLast, same, follows, merged, isMerged, rfl, fits.1, fits.2⟩
        · rw [if_neg fits]
          refine .inl ⟨rfl, ?_⟩
          rintro ⟨trial, other, isOther, -, -, otherMerged, isOtherMerged, rfl, quote, total⟩
          rw [isLast] at isOther
          obtain rfl := Option.some.inj isOther
          obtain rfl : merged = otherMerged := Except.ok.inj (isMerged.symm.trans isOtherMerged)
          exact fits ⟨quote, total⟩
      · refine .inl ⟨if_neg joins, ?_⟩
        rintro ⟨trial, other, isOther, same, follows, -⟩
        rw [isLast] at isOther
        obtain rfl := Option.some.inj isOther
        exact joins (Bool.and_eq_true_iff.mpr ⟨same, follows⟩)

/-- The variables after a decision. -/
def PackState.decide (state : PackState Time) (placement : Placement Time)
    (next : List (TranscriptEvidenceSpan Time)) (action : Action) : PackState Time where
  selected := next
  seen := if action = .select then state.seen ++ [coordinate placement.piece] else state.seen
  decisions := state.decisions ++ [⟨placement.rank, placement.segment.segmentId, action⟩]

theorem place_ok (lawful : rules.toUrlLibrary.Lawful) {state : PackState Time}
    (formed : ∀ span ∈ state.selected, Formed rules span)
    (placed : ∀ span ∈ state.selected, Placed places span)
    (budgets : WithinBudgets cbase rules query intent state.selected)
    (seen : state.seen = (delivered state.selected).map coordinate)
    (linked : placement.span.Linked rules)
    (has : places.Has placement.span.lineage placement.segment) :
    ∃ next action, cbase.place rules query intent state placement =
        .ok (state.decide placement next action) ∧
      Placing cbase rules query intent places state.selected placement next action := by
  obtain ⟨single, isSingle, cut, singlePlaced, singlePieces⟩ := exists_single lawful linked has
  rw [Cbase.place, Cbase.placeSegment]
  by_cases known : coordinate placement.piece ∈ state.seen
  · have isKnown : (⟨placement.span.lineage, placement.segment.originalOrdinal⟩ : RawCoordinate) ∈
        state.seen := known
    rw [if_pos isKnown]
    exact ⟨state.selected, .drop .exactRawDuplicate, rfl, .duplicate (seen ▸ known)⟩
  · have fresh : coordinate placement.piece ∉ (delivered state.selected).map coordinate := seen ▸ known
    have notKnown : (⟨placement.span.lineage, placement.segment.originalOrdinal⟩ : RawCoordinate) ∉
        state.seen := known
    simp only [if_neg notKnown, isSingle, bind, Except.bind]
    by_cases long : cbase.perSpanCharacterBudget < single.quoteText.length
    · rw [if_pos long]
      refine ⟨state.selected, .drop .segmentOverQuoteBudget, rfl, .dropped _ (by simp) ?_⟩
      refine ⟨single, isSingle, ?_, fun opens => absurd opens.1 (Nat.not_le_of_lt long)⟩
      rintro ⟨trial, extends_⟩
      obtain ⟨-, -, -, -, merged, isTrial, quote⟩ := extends_.grown lawful formed placed cut has
      obtain ⟨last, -, -, -, other, -, isOther, fits, -⟩ := extends_
      obtain rfl : merged = other := by
        rw [isTrial] at isOther
        exact List.singleton_inj.mp (List.append_cancel_left isOther)
      omega
    · rw [if_neg long]
      have short := Nat.le_of_not_lt long
      rcases extension_ok lawful formed placed cut has with ⟨isNone, cannot⟩ | ⟨trial, isTrial, extends_⟩
      · rw [isNone]
        by_cases fits : (state.selected ++ [single]).length ≤ cbase.maxSpans ∧
            (serialize rules query intent (state.selected ++ [single])).length ≤
              cbase.totalCharacterBudget
        · simp only [if_pos fits]
          refine ⟨state.selected ++ [single], .select, rfl, .selected _ fresh ?_ ⟨fits.1, ?_, fits.2⟩
            ?_ ?_⟩
          · rw [delivered_append, delivered_singleton, singlePieces]
            rfl
          · rw [List.forall_mem_append, List.forall_mem_singleton]
            exact ⟨budgets.quotes, short⟩
          · rw [List.forall_mem_append, List.forall_mem_singleton]
            exact ⟨formed, cut.formed⟩
          · rw [List.forall_mem_append, List.forall_mem_singleton]
            exact ⟨placed, singlePlaced⟩
        · simp only [if_neg fits]
          refine ⟨state.selected, .drop (if cbase.maxSpans < (state.selected ++ [single]).length then
            .maxSpans else .payloadBudget), rfl, .dropped _ (by split <;> simp) ?_⟩
          refine ⟨single, isSingle, cannot, fun opens => fits ⟨?_, opens.2.2⟩⟩
          rw [List.length_append, List.length_singleton]
          exact opens.2.1
      · rw [isTrial]
        obtain ⟨grown, sameLength, trialFormed, trialPlaced, -⟩ :=
          extends_.grown lawful formed placed cut has
        refine ⟨trial, .select, rfl, .selected _ fresh grown ⟨?_, ?_, ?_⟩ trialFormed trialPlaced⟩
        · rw [sameLength]
          exact budgets.few
        · obtain ⟨last, -, -, -, merged, -, rfl, fits, -⟩ := extends_
          rw [List.forall_mem_append, List.forall_mem_singleton]
          exact ⟨fun other isOther =>
            budgets.quotes other ((List.dropLast_sublist state.selected).subset isOther), fits⟩
        · obtain ⟨last, -, -, -, merged, -, rfl, -, total⟩ := extends_
          exact total

end Decide

/-! ## Every segment -/

section Step

variable {cbase : Cbase} {rules : AskRules Time} {query intent : String} {places : RawPlaces Time}
  {done : List (Placement Time)} {state : PackState Time} {placement : Placement Time}
  {next : List (TranscriptEvidenceSpan Time)} {action : Action}

/-- A decision selects the segment, or leaves the spans alone. -/
theorem Placing.grows
    (placing : Placing cbase rules query intent places state.selected placement next action) :
    delivered next =
      delivered state.selected ++ if action = .select then [placement.piece] else [] := by
  cases placing with
  | duplicate => exact (List.append_nil _).symm
  | dropped => exact (List.append_nil _).symm
  | selected _ _ grown => exact grown

/-- What is not dropped for a budget is delivered. -/
theorem Placing.lossless
    (placing : Placing cbase rules query intent places state.selected placement next action)
    (keeps : Cbase.lossy ⟨placement.rank, placement.segment.segmentId, action⟩ = false) :
    coordinate placement.piece ∈ (delivered next).map coordinate := by
  cases placing with
  | duplicate seen => exact seen
  | dropped reason lossy =>
      cases reason with
      | exactRawDuplicate => exact absurd rfl lossy
      | segmentOverQuoteBudget => nomatch keeps
      | maxSpans => nomatch keeps
      | payloadBudget => nomatch keeps
  | selected _ _ grown =>
      rw [grown, List.map_append]
      exact List.mem_append_right _ List.mem_cons_self

/-- What is dropped for a budget could not be helped. -/
theorem Placing.unavoidable
    (placing : Placing cbase rules query intent places state.selected placement next action)
    (lossy : Cbase.lossy ⟨placement.rank, placement.segment.segmentId, action⟩ = true) :
    Unavoidable cbase rules query intent state.selected placement := by
  cases placing with
  | duplicate => nomatch lossy
  | dropped _ _ unavoidable => exact unavoidable
  | selected => nomatch lossy

theorem PackInvariant.length_eq
    (invariant : PackInvariant cbase rules query intent places done state) :
    done.length = state.decisions.length := by
  have lengths := congrArg List.length invariant.decided
  rw [List.length_map, List.length_map] at lengths
  exact lengths.symm

theorem PackInvariant.zip_concat
    (invariant : PackInvariant cbase rules query intent places done state) (decision : Decision) :
    (done ++ [placement]).zip (state.decisions ++ [decision]) =
      done.zip state.decisions ++ [(placement, decision)] :=
  List.zip_append invariant.length_eq

theorem PackInvariant.step
    (invariant : PackInvariant cbase rules query intent places done state)
    (isPlaced : cbase.place rules query intent state placement =
      .ok (state.decide placement next action))
    (placing : Placing cbase rules query intent places state.selected placement next action) :
    PackInvariant cbase rules query intent places (done ++ [placement])
      (state.decide placement next action) where
  budgets := by
    cases placing with
    | duplicate => exact invariant.budgets
    | dropped => exact invariant.budgets
    | selected _ _ _ budgets => exact budgets
  formed := by
    cases placing with
    | duplicate => exact invariant.formed
    | dropped => exact invariant.formed
    | selected _ _ _ _ formed => exact formed
  placed := by
    cases placing with
    | duplicate => exact invariant.placed
    | dropped => exact invariant.placed
    | selected _ _ _ _ _ placed => exact placed
  seen := by
    change (if action = .select then state.seen ++ [coordinate placement.piece] else state.seen) =
      (delivered next).map coordinate
    rw [placing.grows, List.map_append, ← invariant.seen]
    split
    case isTrue => rfl
    case isFalse => rw [List.map_nil, List.append_nil]
  once := by
    change ((delivered next).map coordinate).Nodup
    cases placing with
    | duplicate => exact invariant.once
    | dropped => exact invariant.once
    | selected _ fresh grown =>
        rw [grown, List.map_append, List.map_singleton, ← List.concat_eq_append]
        exact invariant.once.concat fresh
  reached := by
    rw [List.foldlM_append, invariant.reached]
    exact bind_eq_ok.mpr ⟨state, rfl, bind_eq_ok.mpr ⟨_, isPlaced, rfl⟩⟩
  decided := by
    change (state.decisions ++ [_]).map _ = _
    rw [List.map_append, List.map_append, invariant.decided]
    rfl
  chosen := by
    change delivered next = _
    rw [placing.grows, PackState.decide, invariant.zip_concat, List.filter_append, List.map_append,
      ← invariant.chosen]
    by_cases selects : action = .select
    · simp [selects]
    · simp [selects]
  lossless := by
    change ∀ both ∈ (done ++ [placement]).zip (state.decisions ++ [_]), _
    rw [invariant.zip_concat, List.forall_mem_append, List.forall_mem_singleton]
    refine ⟨fun both member keeps => ?_, placing.lossless⟩
    change _ ∈ (delivered next).map coordinate
    rw [placing.grows, List.map_append]
    exact List.mem_append_left _ (invariant.lossless both member keeps)
  drops := by
    intro before other after split
    change ∃ earlier decision, _ ∧ (state.decisions ++ [_])[before.length]? = some decision ∧ _
    rcases List.eq_nil_or_concat' after with rfl | ⟨rest, last, rfl⟩
    · obtain ⟨rfl, isOther⟩ := List.append_inj' split rfl
      obtain rfl : placement = other := List.singleton_inj.mp isOther
      rw [invariant.length_eq, List.getElem?_concat_length]
      exact ⟨state, _, invariant.reached, rfl, placing.unavoidable⟩
    · have whole : before ++ other :: (rest ++ [last]) = (before ++ other :: rest) ++ [last] := by simp
      obtain ⟨isDone, -⟩ := List.append_inj' (split.trans whole) rfl
      obtain ⟨earlier, decision, isEarlier, isDecision, unavoidable⟩ :=
        invariant.drops before other rest isDone
      refine ⟨earlier, decision, isEarlier, ?_, unavoidable⟩
      obtain ⟨within, -⟩ := List.getElem?_eq_some_iff.mp isDecision
      rw [List.getElem?_append_left within]
      exact isDecision

theorem mem_placementsOf {ranked : List (TranscriptEvidenceSpan Time × Nat)}
    (member : placement ∈ placementsOf ranked) :
    (placement.span, placement.rank) ∈ ranked ∧ placement.segment ∈ placement.span.segments := by
  obtain ⟨⟨span, rank⟩, isRanked, member⟩ := List.mem_flatMap.mp member
  obtain ⟨segment, isSegment, rfl⟩ := List.mem_map.mp member
  exact ⟨isRanked, isSegment⟩

/-- The loops decide on every segment of spans of one source. -/
theorem foldlM_place (lawful : rules.toUrlLibrary.Lawful)
    {spans : List (TranscriptEvidenceSpan Time)} (linked : ∀ span ∈ spans, span.Linked rules)
    (placed : ∀ span ∈ spans, Placed places span)
    (fits : payload rules query intent ([] : List (TranscriptEvidenceSpan Time)) ≤
      cbase.totalCharacterBudget) :
    ∃ final, (placements spans).foldlM (cbase.place rules query intent) (PackState.empty Time) =
        .ok final ∧
      PackInvariant cbase rules query intent places (placements spans) final := by
  have start : PackInvariant cbase rules query intent places [] (PackState.empty Time) :=
    { budgets := ⟨Nat.zero_le _, List.forall_mem_nil _, fits⟩
      formed := List.forall_mem_nil _
      placed := List.forall_mem_nil _
      seen := rfl
      once := List.nodup_nil
      reached := rfl
      decided := rfl
      chosen := rfl
      lossless := List.forall_mem_nil _
      drops := by simp }
  refine foldlM_ok (fun done placement state member invariant => ?_) start
  obtain ⟨isRanked, isSegment⟩ := mem_placementsOf member
  have isSpan : placement.span ∈ spans := List.fst_mem_of_mem_zipIdx isRanked
  obtain ⟨next, action, isPlaced, placing⟩ := place_ok lawful invariant.formed invariant.placed
    invariant.budgets invariant.seen (linked _ isSpan) (placed _ isSpan _ isSegment)
  exact ⟨_, isPlaced, invariant.step isPlaced placing⟩

end Step

/-! ## Parts -/

/-- A piece and the rank of its span. -/
def Placement.offer (placement : Placement Time) : Nat × Lineage × EvidenceSegment Time :=
  (placement.rank, placement.piece)

/-- The pieces that are not blank, with the ranks of their spans. -/
def offersOf (ranked : List (TranscriptEvidenceSpan Time × Nat)) :
    List (Nat × Lineage × EvidenceSegment Time) :=
  ranked.flatMap fun (span, rank) => (spoken span.pieces).map fun piece => (rank, piece)

/-- What a call is offered. -/
def offers (spans : List (TranscriptEvidenceSpan Time)) :
    List (Nat × Lineage × EvidenceSegment Time) :=
  offersOf (spans.zipIdx 1)

/-- What holds while a span is cut: the parts and the group have what was offered so far. -/
structure Splits (rules : AskRules Time) (places : RawPlaces Time) (rank : Nat) (lineage : Lineage)
    (offered : List (Nat × Lineage × EvidenceSegment Time)) (state : Splitting Time) : Prop where
  linked : ∀ part ∈ state.parts, part.1.Linked rules
  placed : ∀ part ∈ state.parts, Placed places part.1
  has : ∀ segment ∈ state.group, places.Has lineage segment
  citable : state.group ≠ [] → Citable state.group
  offered : (placementsOf state.parts).map Placement.offer ++
    state.group.map (fun segment => (rank, lineage, segment)) = offered

section Parts

variable {rules : AskRules Time} {places : RawPlaces Time} {rank : Nat}
  {span : TranscriptEvidenceSpan Time} {offered : List (Nat × Lineage × EvidenceSegment Time)}
  {state : Splitting Time} {segment : EvidenceSegment Time}

/-- The group can be cut out. -/
theorem Splits.flush (splits : Splits rules places rank span.lineage offered state)
    (lawful : rules.toUrlLibrary.Lawful) (linked : span.Linked rules) :
    ∃ next, S2Cbase.flush rules rank span state = .ok next ∧ next.group = [] ∧
      Splits rules places rank span.lineage offered next := by
  rw [S2Cbase.flush]
  by_cases empty : state.group = []
  · rw [if_pos empty]
    exact ⟨state, rfl, empty, splits⟩
  · obtain ⟨part, isPart, cut⟩ := spanWithSegments_ok lawful linked (splits.citable empty) none none
      none
    rw [if_neg empty, isPart]
    refine ⟨_, rfl, rfl, ?_, ?_, List.forall_mem_nil _, absurd rfl, ?_⟩
    · rw [List.forall_mem_append, List.forall_mem_singleton]
      exact ⟨splits.linked, cut.formed.linked⟩
    · rw [List.forall_mem_append, List.forall_mem_singleton]
      refine ⟨splits.placed, fun segment member => ?_⟩
      rw [cut.carried] at member
      rw [cut.lineage]
      exact splits.has segment member
    · rw [← splits.offered, placementsOf, List.flatMap_append, List.flatMap_singleton,
        List.map_append, List.map_map, cut.carried, List.map_nil, List.append_nil]
      refine congrArg _ (List.map_congr_left fun segment _ => ?_)
      rw [Function.comp, Placement.offer, Placement.piece, cut.lineage]

theorem Splits.push (splits : Splits rules places rank span.lineage offered state)
    (has : places.Has span.lineage segment)
    (follows : ∀ last ∈ state.group.getLast?, segment.runLocalOrdinal = last.runLocalOrdinal + 1) :
    Splits rules places rank span.lineage (offered ++ [(rank, span.lineage, segment)])
      { state with group := state.group ++ [segment] } where
  linked := splits.linked
  placed := splits.placed
  has := by
    rw [List.forall_mem_append, List.forall_mem_singleton]
    exact ⟨splits.has, has⟩
  citable _ := by
    cases isLast : state.group.getLast? with
    | none =>
        rw [List.getLast?_eq_none_iff.mp isLast]
        exact citable_singleton segment
    | some last =>
        have nonempty : state.group ≠ [] := List.ne_nil_of_mem (List.mem_of_getLast? isLast)
        exact citable_concat splits.has has (splits.citable nonempty) isLast
          (follows last isLast).symm
  offered := by
    rw [List.map_append, ← List.append_assoc, splits.offered]
    rfl

/-- The body of the loop over the segments. -/
theorem Splits.cut (splits : Splits rules places rank span.lineage offered state)
    (lawful : rules.toUrlLibrary.Lawful) (linked : span.Linked rules)
    (has : places.Has span.lineage segment) :
    ∃ next, S2Cbase.splitSegment rules rank span state segment = .ok next ∧
      Splits rules places rank span.lineage
        (offered ++ (spoken [(span.lineage, segment)]).map fun piece => (rank, piece)) next := by
  obtain ⟨flushed, isFlushed, empty, flushedSplits⟩ := splits.flush lawful linked
  rw [S2Cbase.splitSegment]
  cases blank : segment.blank with
  | true =>
      have unspoken : spoken [(span.lineage, segment)] = [] := by simp [spoken, blank]
      rw [if_pos rfl, unspoken, List.map_nil, List.append_nil]
      exact ⟨flushed, isFlushed, flushedSplits⟩
  | false =>
      have isSpoken : spoken [(span.lineage, segment)] = [(span.lineage, segment)] := by
        simp [spoken, blank]
      rw [if_neg Bool.false_ne_true, isSpoken]
      by_cases gap : (state.group.getLast?.any fun last =>
          decide (segment.runLocalOrdinal ≠ last.runLocalOrdinal + 1)) = true
      · simp only [if_pos gap, isFlushed]
        refine ⟨_, rfl, flushedSplits.push has ?_⟩
        rw [empty]
        simp
      · simp only [if_neg gap]
        refine ⟨_, rfl, splits.push has fun last isLast => ?_⟩
        rw [Option.mem_def] at isLast
        rw [isLast, Option.any_some, decide_eq_true_eq, not_not] at gap
        exact gap

theorem splitSpan_ok (lawful : rules.toUrlLibrary.Lawful) (linked : span.Linked rules)
    (placed : Placed places span) {parts : List (TranscriptEvidenceSpan Time × Nat)}
    (splits : Splits rules places rank span.lineage offered ⟨parts, []⟩) :
    ∃ cut final, span.segments.foldlM (S2Cbase.splitSegment rules rank span) ⟨parts, []⟩ = .ok cut ∧
      S2Cbase.flush rules rank span cut = .ok final ∧ final.group = [] ∧
      Splits rules places rank span.lineage
        (offered ++ (spoken span.pieces).map fun piece => (rank, piece)) final := by
  have run := @foldlM_ok _ _ _ (S2Cbase.splitSegment rules rank span) span.segments
    (fun done => Splits rules places rank span.lineage (offered ++
      (spoken (done.map fun segment => (span.lineage, segment))).map fun piece => (rank, piece)))
    (fun done segment state member good => ?_) [] ⟨parts, []⟩ (by rwa [List.map_nil, spoken,
      List.filter_nil, List.map_nil, List.append_nil])
  · obtain ⟨cut, isCut, cutSplits⟩ := run
    obtain ⟨final, isFinal, empty, finalSplits⟩ := cutSplits.flush lawful linked
    exact ⟨cut, final, isCut, isFinal, empty, finalSplits⟩
  · rw [List.map_append, spoken_append, List.map_append, ← List.append_assoc]
    exact good.cut lawful linked (placed segment member)

/-- Spans of one source can be cut, and their parts have what they were offered. -/
theorem splitSpans_ok (lawful : rules.toUrlLibrary.Lawful)
    {spans : List (TranscriptEvidenceSpan Time)} (linked : ∀ span ∈ spans, span.Linked rules)
    (placed : ∀ span ∈ spans, Placed places span) :
    ∃ parts, S2Cbase.splitSpans rules spans = .ok parts ∧ (∀ part ∈ parts, part.1.Linked rules) ∧
      (∀ part ∈ parts, Placed places part.1) ∧
      (placementsOf parts).map Placement.offer = offers spans := by
  have run := @foldlM_ok _ _ _
    (fun (parts : List (TranscriptEvidenceSpan Time × Nat)) ((span, rank) : TranscriptEvidenceSpan Time × Nat) => do
      let state ← span.segments.foldlM (S2Cbase.splitSegment rules rank span) ⟨parts, []⟩
      let state ← S2Cbase.flush rules rank span state
      return state.parts)
    (spans.zipIdx 1)
    (fun done parts => (∀ part ∈ parts, part.1.Linked rules) ∧ (∀ part ∈ parts, Placed places part.1) ∧
      (placementsOf parts).map Placement.offer = offersOf done)
    ?_ [] [] ⟨List.forall_mem_nil _, List.forall_mem_nil _, rfl⟩
  · exact run
  · rintro done ⟨span, rank⟩ parts member ⟨partsLinked, partsPlaced, partsOffered⟩
    have isSpan : span ∈ spans := List.fst_mem_of_mem_zipIdx member
    have start : Splits rules places rank span.lineage (offersOf done) ⟨parts, []⟩ :=
      { linked := partsLinked
        placed := partsPlaced
        has := List.forall_mem_nil _
        citable := absurd rfl
        offered := (List.append_nil _).trans partsOffered }
    obtain ⟨cut, final, isCut, isFinal, empty, splits⟩ :=
      splitSpan_ok lawful (linked span isSpan) (placed span isSpan) start
    refine ⟨final.parts, bind_eq_ok.mpr ⟨cut, isCut, bind_eq_ok.mpr ⟨final, isFinal, rfl⟩⟩,
      splits.linked, splits.placed, ?_⟩
    have finalOffered := splits.offered
    rw [empty, List.map_nil, List.append_nil] at finalOffered
    rw [finalOffered, offersOf, offersOf, List.flatMap_append, List.flatMap_singleton]

end Parts

/-! ## The ranks of the spans -/

/-- The number of a part becomes the rank of its span. -/
def rankOf (parts : List (TranscriptEvidenceSpan Time × Nat)) (number : Nat) : Nat :=
  (parts[number - 1]?.map Prod.snd).getD number

theorem rankOf_of_mem {parts : List (TranscriptEvidenceSpan Time × Nat)}
    {part : TranscriptEvidenceSpan Time × Nat} {number : Nat}
    (member : (part, number) ∈ parts.zipIdx 1) : rankOf parts number = part.2 := by
  obtain ⟨-, isPart⟩ := List.mk_mem_zipIdx_iff_le_and_getElem?_sub.mp member
  rw [rankOf, isPart]
  rfl

theorem placements_renumbered (parts : List (TranscriptEvidenceSpan Time × Nat)) :
    (placements (parts.map Prod.fst)).map (fun placement =>
        (rankOf parts placement.rank, placement.piece)) =
      (placementsOf parts).map Placement.offer := by
  rw [placements, List.zipIdx_map, placementsOf, placementsOf, List.flatMap_map, List.map_flatMap,
    List.map_flatMap]
  have numbered : (parts.zipIdx 1).map Prod.fst = parts := List.zipIdx_map_fst 1 parts
  conv_rhs => rw [← numbered, List.flatMap_map]
  refine List.flatMap_congr fun ⟨part, number⟩ member => ?_
  rw [List.map_map, List.map_map]
  refine List.map_congr_left fun segment _ => ?_
  exact congrArg (·, part.1.lineage, segment) (rankOf_of_mem member)

/-! ## The whole call -/

/-- What the packer delivers of the spans, which were cut into the parts. -/
structure PackDelivers (cbase : Cbase) (rules : AskRules Time) (query intent : String)
    (spans : List (TranscriptEvidenceSpan Time)) (parts : List (TranscriptEvidenceSpan Time × Nat))
    (result : PackResult Time) : Prop where
  payload : result.context.modelContext = serialize rules query intent result.context.spans
  budgets : WithinBudgets cbase rules query intent result.context.spans
  formed : ∀ span ∈ result.context.spans, Formed rules span
  once : ((delivered result.context.spans).map coordinate).Nodup
  decided : result.decisions.map (fun decision => (decision.rank, decision.segmentId)) =
    (offers spans).map fun offer => (offer.1, offer.2.2.segmentId)
  chosen : delivered result.context.spans =
    (((offers spans).zip result.decisions).filter fun both => both.2.action = .select).map
      fun both => both.1.2
  complete : result.context.truncated = false →
    ∀ offer ∈ offers spans, coordinate offer.2 ∈ (delivered result.context.spans).map coordinate
  offered : (placements (parts.map Prod.fst)).map Placement.piece = (offers spans).map Prod.snd
  drops : ∀ before placement after,
    placements (parts.map Prod.fst) = before ++ placement :: after →
      ∃ earlier decision, before.foldlM (cbase.place rules query intent) (PackState.empty Time) =
          .ok earlier ∧ result.decisions[before.length]? = some decision ∧
        (Cbase.lossy decision = true →
          Unavoidable cbase rules query intent earlier.selected placement)

section Build

variable {cbase : Cbase} {rules : AskRules Time} {query intent : String}

/-- What the packer returns after its loops. -/
theorem build_ok {spans : List (TranscriptEvidenceSpan Time)} {final : PackState Time}
    (fits : (serialize rules query intent ([] : List (TranscriptEvidenceSpan Time))).length ≤
      cbase.totalCharacterBudget)
    (isFinal : (placements spans).foldlM (cbase.place rules query intent) (PackState.empty Time) =
      .ok final) :
    ∃ dropped, cbase.build rules query intent spans =
      .ok ⟨⟨final.selected, serialize rules query intent final.selected,
        final.selected.map TranscriptEvidenceSpan.citationId, final.decisions.any Cbase.lossy,
        dropped⟩, final.decisions⟩ := by
  rw [Cbase.build, if_neg (Nat.not_lt.mpr fits)]
  simp only [foldlM_placements]
  exact ⟨_, bind_eq_ok.mpr ⟨final, isFinal, rfl⟩⟩

/-- Spans of one source are packed. -/
theorem s2Build_delivers (lawful : rules.toUrlLibrary.Lawful)
    {spans : List (TranscriptEvidenceSpan Time)} (linked : ∀ span ∈ spans, span.Linked rules)
    (oneSource : OneSource spans)
    (fits : (serialize rules query intent ([] : List (TranscriptEvidenceSpan Time))).length ≤
      cbase.totalCharacterBudget) :
    ∃ parts result, S2Cbase.splitSpans rules spans = .ok parts ∧
      S2Cbase.build rules cbase query intent spans = .ok result ∧
      PackDelivers cbase rules query intent spans parts result := by
  obtain ⟨parts, isParts, partsLinked, partsPlaced, partsOffered⟩ :=
    splitSpans_ok lawful linked fun span isSpan => placed_placesOf oneSource isSpan
  obtain ⟨final, isFinal, invariant⟩ := @foldlM_place _ cbase rules query intent _ lawful
    (parts.map Prod.fst) (List.forall_mem_map.mpr partsLinked) (List.forall_mem_map.mpr partsPlaced)
    fits
  have renumbered := (placements_renumbered parts).trans partsOffered
  obtain ⟨dropped, isPacked⟩ := build_ok fits isFinal
  refine ⟨parts, _, isParts, bind_eq_ok.mpr ⟨parts, isParts, bind_eq_ok.mpr ⟨_, isPacked, rfl⟩⟩, ?_⟩
  constructor
  · rfl
  · exact invariant.budgets
  · exact invariant.formed
  · exact invariant.once
  · have decided := congrArg (List.map fun entry => (rankOf parts entry.1, entry.2))
      invariant.decided
    rw [List.map_map, List.map_map] at decided
    rw [← renumbered, List.map_map, List.map_map]
    exact decided
  · rw [← renumbered, List.zip_map, List.filter_map, List.map_map]
    exact invariant.chosen
  · intro complete offer member
    rw [← renumbered] at member
    obtain ⟨placement, isPlacement, rfl⟩ := List.mem_map.mp member
    have zipped := List.map_fst_zip (Nat.le_of_eq invariant.length_eq)
    rw [← zipped] at isPlacement
    obtain ⟨both, isBoth, rfl⟩ := List.mem_map.mp isPlacement
    have keeps := List.any_eq_false.mp complete both.2 (List.of_mem_zip isBoth).2
    exact invariant.lossless both isBoth (Bool.eq_false_iff.mpr keeps)
  · rw [← renumbered, List.map_map]
    rfl
  · intro before placement after split
    obtain ⟨earlier, decision, isEarlier, isDecision, unavoidable⟩ :=
      invariant.drops before placement after split
    refine ⟨earlier, { decision with rank := rankOf parts decision.rank }, isEarlier, ?_, unavoidable⟩
    change (final.decisions.map _)[before.length]? = _
    rw [List.getElem?_map, isDecision]
    rfl

end Build

/-- Two windows that overlap. -/
theorem s2Build_delivers_two :
    ∃ parts result,
      S2Cbase.splitSpans sampleRules [sampleSpan [0, 1], sampleSpan [1, 2]] = .ok parts ∧
      S2Cbase.build sampleRules Cbase.standard "query" "intent"
        [sampleSpan [0, 1], sampleSpan [1, 2]] = .ok result ∧
      PackDelivers Cbase.standard sampleRules "query" "intent"
        [sampleSpan [0, 1], sampleSpan [1, 2]] parts result := by
  refine s2Build_delivers sampleRules_lawful ?_ (by decide +kernel) (by decide +kernel)
  rw [List.forall_mem_cons, List.forall_mem_singleton]
  exact ⟨linked_sampleSpan [0, 1], linked_sampleSpan [1, 2]⟩

/-! ## The order of first occurrences -/

/-- The delivered coordinates stand in the order in which they were first offered. -/
def FirstSeenOrder (spans : List (TranscriptEvidenceSpan Time)) (result : PackResult Time) : Prop :=
  ((delivered result.context.spans).map coordinate).Sublist
    (distinct ((offers spans).map fun offer => coordinate offer.2))

instance (spans : List (TranscriptEvidenceSpan Time)) (result : PackResult Time) :
    Decidable (FirstSeenOrder spans result) :=
  inferInstanceAs (Decidable (((delivered result.context.spans).map coordinate).Sublist
    (distinct ((offers spans).map fun offer => coordinate offer.2))))

/-- With one span, the segment 2 fits nowhere before the segment 1 has come, and goes behind it when
it is offered again. -/
theorem s2Build_reorders :
    ∃ result, S2Cbase.build sampleRules ⟨12000, 2500, 1⟩ "query" "intent"
        [sampleSpan [0], sampleSpan [2], sampleSpan [1], sampleSpan [2]] = .ok result ∧
      ¬ FirstSeenOrder [sampleSpan [0], sampleSpan [2], sampleSpan [1], sampleSpan [2]] result := by
  have reorders : (S2Cbase.build sampleRules ⟨12000, 2500, 1⟩ "query" "intent"
      [sampleSpan [0], sampleSpan [2], sampleSpan [1], sampleSpan [2]]).toOption.any (fun result =>
        !decide (FirstSeenOrder [sampleSpan [0], sampleSpan [2], sampleSpan [1], sampleSpan [2]]
          result)) = true := by
    decide +kernel
  cases isResult : S2Cbase.build sampleRules ⟨12000, 2500, 1⟩ "query" "intent"
      [sampleSpan [0], sampleSpan [2], sampleSpan [1], sampleSpan [2]] with
  | error failure =>
      rw [isResult] at reorders
      nomatch reorders
  | ok result =>
      rw [isResult] at reorders
      exact ⟨result, rfl, by simpa [Except.toOption] using reorders⟩

end Shiliu.Ask
