/-
Module: Shiliu.Ask.TranscriptPacking
Purpose: What the transcript context delivers. A span is compared with every selected span in turn:
  it is merged into the first one it fits, and every one before that may count it as dropped. The
  budgets always hold; segments are delivered once and dropped spans are counted once only where a
  span has to do with one selected span.
Trusted boundary: none
Main exports: Verdict, verdict, Turn, PackingSound, Added, SteadyAt, build_delivers_iff
-/
import Mathlib.Algebra.BigOperators.Ring.Finset
import Shiliu.Ask.RawRuns

set_option linter.all false

namespace Shiliu.Ask

open Shiliu.Library Shiliu.Storage

variable {Time : Type}

/-! ## Fitting a span -/

theorem quoteOf_nil : quoteOf ([] : List (EvidenceSegment Time)) = "" := by
  rw [quoteOf, List.map_nil, List.filter_nil, String.intercalate_nil]

section Fit

variable {budget : Nat} {selected segments : List (EvidenceSegment Time)}

theorem fitSegments_spec (fits : (quoteOf selected).length ≤ budget) :
    selected <+: fitSegments budget selected segments ∧
      fitSegments budget selected segments <+: selected ++ segments ∧
      (quoteOf (fitSegments budget selected segments)).length ≤ budget := by
  induction segments generalizing selected with
  | nil =>
      rw [fitSegments, List.append_nil]
      exact ⟨List.prefix_refl _, List.prefix_refl _, fits⟩
  | cons segment rest inductionHypothesis =>
      rw [fitSegments]
      split
      case isTrue => exact ⟨List.prefix_refl _, List.prefix_append _ _, fits⟩
      case isFalse within =>
          obtain ⟨started, inside, quote⟩ := inductionHypothesis (Nat.le_of_not_lt within)
          rw [List.append_assoc, List.singleton_append] at inside
          exact ⟨(List.prefix_append _ _).trans started, inside, quote⟩

/-- The beginning of a run is a run. -/
theorem Citable.take (citable : Citable segments) (isPrefix : selected <+: segments)
    (nonempty : selected ≠ []) : Citable selected where
  nonempty := nonempty
  distinct := citable.distinct.sublist (isPrefix.sublist.map _)
  ordered := citable.ordered.prefix isPrefix
  contiguous := citable.contiguous.prefix isPrefix

/-- What fitting leaves of a span. -/
structure Fitted (rules : AskRules Time) (budget : Nat)
    (source span : TranscriptEvidenceSpan Time) : Prop where
  formed : Formed rules span
  lineage : span.lineage = source.lineage
  video : span.videoId = source.videoId
  inside : span.segments <+: source.segments
  fits : span.quoteText.length ≤ budget

theorem fitSpan_ok {rules : AskRules Time} (lawful : rules.toUrlLibrary.Lawful)
    {source : TranscriptEvidenceSpan Time} (formed : Formed rules source) (budget : Nat) :
    fitSpan rules source budget = .ok none ∨
      ∃ span, fitSpan rules source budget = .ok (some span) ∧ Fitted rules budget source span := by
  have empty : (quoteOf ([] : List (EvidenceSegment Time))).length ≤ budget := by
    rw [quoteOf_nil]
    exact Nat.zero_le _
  obtain ⟨-, inside, quote⟩ := @fitSegments_spec _ budget [] source.segments empty
  rw [List.nil_append] at inside
  rw [fitSpan]
  by_cases none : fitSegments budget [] source.segments = []
  · exact .inl (if_pos none)
  · simp only [if_neg none]
    split
    case isTrue whole =>
        have same := inside.eq_of_length whole
        refine .inr ⟨source, rfl, formed, rfl, rfl, List.prefix_refl _, ?_⟩
        rw [formed.quote, ← same]
        exact quote
    case isFalse =>
        obtain ⟨cut, isCut, cutFrom⟩ := spanWithSegments_ok lawful formed.linked
          (formed.citable.take inside none) Option.none Option.none Option.none
        refine .inr ⟨cut, by rw [isCut]; rfl, cutFrom.formed, cutFrom.lineage, cutFrom.video, ?_, ?_⟩
        · rw [cutFrom.carried]
          exact inside
        · rw [cutFrom.formed.quote, cutFrom.carried]
          exact quote

end Fit

/-! ## One selected span -/

/-- The spans share a segment of one source. -/
def Shares (left right : TranscriptEvidenceSpan Time) : Prop :=
  sameLineage left right = true ∧ ∃ segment ∈ left.segments, segment ∈ right.segments

instance [DecidableEq Time] (left right : TranscriptEvidenceSpan Time) :
    Decidable (Shares left right) :=
  inferInstanceAs (Decidable (sameLineage left right = true ∧
    ∃ segment ∈ left.segments, segment ∈ right.segments))

theorem sameLineage_comm (left right : TranscriptEvidenceSpan Time) :
    sameLineage left right = sameLineage right left := by
  simp only [sameLineage, eq_comm]

theorem Shares.symm {left right : TranscriptEvidenceSpan Time} (shares : Shares left right) :
    Shares right left := by
  obtain ⟨same, segment, isLeft, isRight⟩ := shares
  exact ⟨sameLineage_comm left right ▸ same, segment, isRight, isLeft⟩

/-- What a selected span makes of a new one: it has nothing to do with it, it is over budget with
it, or they merge. -/
inductive Verdict (Time : Type) where
  | passed
  | refused
  | joins (merged : TranscriptEvidenceSpan Time)

section Verdict

variable (builder : TranscriptContextBuilder) (rules : AskRules Time)

/-- The body of the loop over the selected spans. -/
def verdict (total : Int) (span existing : TranscriptEvidenceSpan Time) :
    Except AskFailure (Verdict Time) :=
  if sameLineage existing span = false then .ok .passed
  else do
    let relation ← segmentRelation existing span
    if relation = .separate then return .passed
    else
      let candidate ← mergeSpans rules existing span
      if builder.perSpanCharacterBudget < candidate.quoteText.length then
        return if relation = .overlap then .refused else .passed
      else
        let delta : Int := candidate.quoteText.length - existing.quoteText.length
        return if builder.totalCharacterBudget < total + delta then .refused else .joins candidate

/-- How often a span is counted as dropped on its way. -/
def refusals (total : Int) (span : TranscriptEvidenceSpan Time)
    (selected : List (TranscriptEvidenceSpan Time)) : Nat :=
  selected.countP fun existing =>
    match verdict builder rules total span existing with
    | .ok .refused => true
    | _ => false

/-- The state after so many refusals. -/
def Packing.refuse (state : Packing Time) (count : Nat) : Packing Time :=
  { state with truncated := state.truncated || 0 < count, dropped := state.dropped + count }

variable {builder rules}

theorem mergeLoop_cons (span : TranscriptEvidenceSpan Time)
    (before rest : List (TranscriptEvidenceSpan Time)) (existing : TranscriptEvidenceSpan Time)
    (state : Packing Time) (merged : Bool) :
    builder.mergeLoop rules span before (existing :: rest) state merged =
      (verdict builder rules state.total span existing >>= fun answer =>
        match answer with
        | .passed => builder.mergeLoop rules span (before ++ [existing]) rest state merged
        | .refused =>
            builder.mergeLoop rules span (before ++ [existing]) rest (state.refuse 1) true
        | .joins candidate => .ok ({ state with
            selected := before ++ candidate :: rest
            total := state.total +
              (candidate.quoteText.length - existing.quoteText.length) }, true)) := by
  have once : ({ state with truncated := true, dropped := state.dropped + 1 } : Packing Time) =
      state.refuse 1 := by
    simp [Packing.refuse]
  rw [TranscriptContextBuilder.mergeLoop, verdict]
  by_cases lineage : sameLineage existing span = false
  · rw [if_pos lineage, if_pos lineage]
    rfl
  · rw [if_neg lineage, if_neg lineage]
    cases segmentRelation existing span with
    | error failure => rfl
    | ok relation =>
        by_cases separate : relation = .separate
        · simp only [bind, Except.bind, if_pos separate, pure, Except.pure]
        · simp only [bind, Except.bind, if_neg separate]
          cases mergeSpans rules existing span with
          | error failure => rfl
          | ok candidate =>
              simp only [pure, Except.pure, once]
              split
              case isTrue => cases relation <;> rfl
              case isFalse => split <;> rfl

theorem mergeLoop_append {span : TranscriptEvidenceSpan Time}
    {passing : List (TranscriptEvidenceSpan Time)} {total : Int}
    (notJoined : ∀ existing ∈ passing, verdict builder rules total span existing = .ok .passed ∨
      verdict builder rules total span existing = .ok .refused)
    (before rest : List (TranscriptEvidenceSpan Time)) (state : Packing Time)
    (isTotal : state.total = total) (merged : Bool) :
    builder.mergeLoop rules span before (passing ++ rest) state merged =
      builder.mergeLoop rules span (before ++ passing) rest
        (state.refuse (refusals builder rules total span passing))
        (merged || 0 < refusals builder rules total span passing) := by
  induction passing generalizing before state merged with
  | nil => simp [refusals, Packing.refuse]
  | cons existing passing inductionHypothesis =>
      rw [List.forall_mem_cons] at notJoined
      rw [List.cons_append, mergeLoop_cons, isTotal]
      rcases notJoined.1 with isPassed | isRefused
      · have count : refusals builder rules total span (existing :: passing) =
            refusals builder rules total span passing := by
          simp [refusals, isPassed]
        rw [isPassed, count]
        exact (inductionHypothesis notJoined.2 _ state isTotal merged).trans (by simp)
      · have count : refusals builder rules total span (existing :: passing) =
            refusals builder rules total span passing + 1 := by
          simp [refusals, isRefused]
        rw [isRefused, count]
        refine (inductionHypothesis notJoined.2 _ (state.refuse 1) isTotal true).trans ?_
        simp [Packing.refuse, Nat.add_comm, Nat.add_assoc]

end Verdict

/-! ## What a verdict rests on -/

section Source

variable {builder : TranscriptContextBuilder} {rules : AskRules Time} {places : RawPlaces Time}
  {total : Int} {span existing : TranscriptEvidenceSpan Time}

theorem segmentRelation_ok (formed : Formed rules existing) (spanFormed : Formed rules span) :
    ∃ relation, segmentRelation existing span = .ok relation ∧
      (relation = .overlap ↔ ∃ ordinal ∈ existing.localOrdinals, ordinal ∈ span.localOrdinals) ∧
      (relation ≠ .separate → Touching existing.localOrdinals span.localOrdinals) := by
  have leftSome : existing.localOrdinals ≠ [] := by
    simpa [TranscriptEvidenceSpan.localOrdinals] using formed.citable.nonempty
  have rightSome : span.localOrdinals ≠ [] := by
    simpa [TranscriptEvidenceSpan.localOrdinals] using spanFormed.citable.nonempty
  rw [segmentRelation]
  by_cases overlap : ∃ ordinal ∈ existing.localOrdinals, ordinal ∈ span.localOrdinals
  · refine ⟨.overlap, if_pos overlap, ⟨fun _ => overlap, fun _ => rfl⟩, fun _ => ?_⟩
    obtain ⟨ordinal, isLeft, isRight⟩ := overlap
    exact ⟨ordinal, isLeft, ordinal, isRight, .inl rfl⟩
  · obtain ⟨leftMin, isLeftMin⟩ := Option.isSome_iff_exists.mp (List.isSome_min?_of_ne_nil leftSome)
    obtain ⟨leftMax, isLeftMax⟩ := Option.isSome_iff_exists.mp (List.isSome_max?_of_ne_nil leftSome)
    obtain ⟨rightMin, isRightMin⟩ :=
      Option.isSome_iff_exists.mp (List.isSome_min?_of_ne_nil rightSome)
    obtain ⟨rightMax, isRightMax⟩ :=
      Option.isSome_iff_exists.mp (List.isSome_max?_of_ne_nil rightSome)
    rw [if_neg overlap, isLeftMin, isLeftMax, isRightMin, isRightMax]
    refine ⟨_, rfl, ⟨fun isOverlap => ?_, fun isOverlap => absurd isOverlap overlap⟩, fun near => ?_⟩
    · split at isOverlap <;> nomatch isOverlap
    · by_cases adjacent : leftMax + 1 = rightMin ∨ rightMax + 1 = leftMin
      · rcases adjacent with follows | precedes
        · exact ⟨leftMax, List.max?_mem isLeftMax, rightMin, List.min?_mem isRightMin,
            .inr (.inl follows)⟩
        · exact ⟨leftMin, List.min?_mem isLeftMin, rightMax, List.max?_mem isRightMax,
            .inr (.inr precedes)⟩
      · exact absurd (if_neg adjacent) near

theorem Shares.localOrdinals (shares : Shares existing span) :
    ∃ ordinal ∈ existing.localOrdinals, ordinal ∈ span.localOrdinals := by
  obtain ⟨-, segment, isLeft, isRight⟩ := shares
  exact ⟨segment.runLocalOrdinal, List.mem_map_of_mem isLeft, List.mem_map_of_mem isRight⟩

/-- What the spans are that a verdict joins. -/
structure Joined (builder : TranscriptContextBuilder) (rules : AskRules Time)
    (places : RawPlaces Time) (total : Int) (span existing merged : TranscriptEvidenceSpan Time) :
    Prop where
  same : sameLineage existing span = true
  cut : CutFrom rules existing (mergedSegments existing.segments span.segments) merged
  placed : Placed places merged
  fits : merged.quoteText.length ≤ builder.perSpanCharacterBudget
  within : total + ((merged.quoteText.length : Int) - existing.quoteText.length) ≤
    builder.totalCharacterBudget

theorem verdict_ok (lawful : rules.toUrlLibrary.Lawful) (formed : Formed rules existing)
    (spanFormed : Formed rules span) (placed : Placed places existing)
    (spanPlaced : Placed places span) :
    (verdict builder rules total span existing = .ok .passed ∧ ¬ Shares existing span) ∨
      verdict builder rules total span existing = .ok .refused ∨
      ∃ merged, verdict builder rules total span existing = .ok (.joins merged) ∧
        Joined builder rules places total span existing merged := by
  rw [verdict]
  cases lineage : sameLineage existing span with
  | false =>
      refine .inl ⟨rfl, fun shares => ?_⟩
      rw [shares.1] at lineage
      nomatch lineage
  | true =>
      obtain ⟨relation, isRelation, overlaps, touches⟩ := segmentRelation_ok formed spanFormed
      rw [if_neg Bool.true_eq_false_eq_False, isRelation]
      by_cases separate : relation = .separate
      · refine .inl ⟨by simp [bind, Except.bind, separate, pure, Except.pure], fun shares => ?_⟩
        have := overlaps.mpr shares.localOrdinals
        rw [separate] at this
        nomatch this
      · obtain ⟨merged, isMerged, cut, mergedPlaced⟩ := mergeSpans_touching lawful formed spanFormed
          placed spanPlaced lineage (touches separate)
        simp only [bind, Except.bind, if_neg separate, isMerged, pure, Except.pure]
        split
        case isTrue long =>
            by_cases overlap : relation = .overlap
            · exact .inr (.inl (by rw [if_pos overlap]))
            · refine .inl ⟨by rw [if_neg overlap], fun shares => ?_⟩
              exact overlap (overlaps.mpr shares.localOrdinals)
        case isFalse fits =>
            split
            case isTrue => exact .inr (.inl rfl)
            case isFalse within =>
                exact .inr (.inr ⟨merged, rfl, lineage, cut, mergedPlaced, Nat.le_of_not_lt fits,
                  Int.not_lt.mp within⟩)

end Source

/-! ## One span -/

/-- The fitted segments of a span are in one selected span. -/
def Added (selected : List (TranscriptEvidenceSpan Time)) :
    Option (TranscriptEvidenceSpan Time) → Prop
  | none => False
  | some span => ∃ existing ∈ selected, sameLineage existing span = true ∧
      ∀ segment ∈ span.segments, segment ∈ existing.segments

instance [DecidableEq Time] (selected : List (TranscriptEvidenceSpan Time)) :
    (fitted : Option (TranscriptEvidenceSpan Time)) → Decidable (Added selected fitted)
  | none => inferInstanceAs (Decidable False)
  | some span => inferInstanceAs (Decidable (∃ existing ∈ selected,
      sameLineage existing span = true ∧ ∀ segment ∈ span.segments, segment ∈ existing.segments))

/-- What the body of the loop over the spans does with a span that has been fitted. -/
inductive Turn (builder : TranscriptContextBuilder) (rules : AskRules Time) (state : Packing Time) :
    Option (TranscriptEvidenceSpan Time) → Packing Time → Prop where
  | unfit (next) (selected : next.selected = state.selected) (total : next.total = state.total)
      (dropped : next.dropped = state.dropped + 1) : Turn builder rules state none next
  | joined (span next before existing after merged)
      (split : state.selected = before ++ existing :: after)
      (earlier : ∀ other ∈ before, verdict builder rules state.total span other = .ok .passed ∨
        verdict builder rules state.total span other = .ok .refused)
      (joins : verdict builder rules state.total span existing = .ok (.joins merged))
      (selected : next.selected = before ++ merged :: after)
      (total : next.total = state.total +
        ((merged.quoteText.length : Int) - existing.quoteText.length))
      (dropped : next.dropped = state.dropped + refusals builder rules state.total span before) :
      Turn builder rules state (some span) next
  | refused (span next)
      (all : ∀ other ∈ state.selected, verdict builder rules state.total span other = .ok .passed ∨
        verdict builder rules state.total span other = .ok .refused)
      (counted : 0 < refusals builder rules state.total span state.selected)
      (selected : next.selected = state.selected) (total : next.total = state.total)
      (dropped : next.dropped = state.dropped +
        refusals builder rules state.total span state.selected) :
      Turn builder rules state (some span) next
  | full (span next)
      (all : ∀ other ∈ state.selected, verdict builder rules state.total span other = .ok .passed)
      (selected : next.selected = state.selected) (total : next.total = state.total)
      (dropped : next.dropped = state.dropped + 1) : Turn builder rules state (some span) next
  | appended (span next)
      (all : ∀ other ∈ state.selected, verdict builder rules state.total span other = .ok .passed)
      (room : state.selected.length < builder.maxSpans)
      (within : state.total + span.quoteText.length ≤ builder.totalCharacterBudget)
      (selected : next.selected = state.selected ++ [span])
      (total : next.total = state.total + span.quoteText.length)
      (dropped : next.dropped = state.dropped) : Turn builder rules state (some span) next

/-- What holds of the variables before each span. -/
structure PackingSound (builder : TranscriptContextBuilder) (rules : AskRules Time)
    (places : RawPlaces Time) (state : Packing Time) : Prop where
  formed : ∀ span ∈ state.selected, Formed rules span
  placed : ∀ span ∈ state.selected, Placed places span
  fits : ∀ span ∈ state.selected, span.quoteText.length ≤ builder.perSpanCharacterBudget
  total : state.total = (state.selected.map fun span => (span.quoteText.length : Int)).sum
  within : state.total ≤ builder.totalCharacterBudget
  few : state.selected.length ≤ builder.maxSpans

section Turn

variable {builder : TranscriptContextBuilder} {rules : AskRules Time} {places : RawPlaces Time}
  {state next : Packing Time} {span source : TranscriptEvidenceSpan Time}
  {fitted : Option (TranscriptEvidenceSpan Time)}

theorem refusals_eq_zero {total : Int} {selected : List (TranscriptEvidenceSpan Time)}
    (all : ∀ other ∈ selected, verdict builder rules total span other = .ok .passed) :
    refusals builder rules total span selected = 0 := by
  refine List.countP_eq_zero.mpr fun other isOther => ?_
  rw [all other isOther]
  exact Bool.false_ne_true

theorem all_passed_of_refusals {total : Int} {selected : List (TranscriptEvidenceSpan Time)}
    (all : ∀ other ∈ selected, verdict builder rules total span other = .ok .passed ∨
      verdict builder rules total span other = .ok .refused)
    (none : refusals builder rules total span selected = 0) :
    ∀ other ∈ selected, verdict builder rules total span other = .ok .passed := by
  intro other isOther
  rcases all other isOther with passed | refused
  · exact passed
  · have := List.countP_eq_zero.mp none other isOther
    rw [refused] at this
    exact absurd rfl this

theorem exists_first_joins (lawful : rules.toUrlLibrary.Lawful) (total : Int)
    (selected : List (TranscriptEvidenceSpan Time))
    (formed : ∀ other ∈ selected, Formed rules other)
    (placed : ∀ other ∈ selected, Placed places other) (spanFormed : Formed rules span)
    (spanPlaced : Placed places span) :
    (∀ other ∈ selected, verdict builder rules total span other = .ok .passed ∨
      verdict builder rules total span other = .ok .refused) ∨
    ∃ before existing after merged, selected = before ++ existing :: after ∧
      (∀ other ∈ before, verdict builder rules total span other = .ok .passed ∨
        verdict builder rules total span other = .ok .refused) ∧
      verdict builder rules total span existing = .ok (.joins merged) := by
  induction selected with
  | nil => exact .inl fun other isOther => nomatch isOther
  | cons first rest inductionHypothesis =>
      rw [List.forall_mem_cons] at formed placed
      have answer : (verdict builder rules total span first = .ok .passed ∨
          verdict builder rules total span first = .ok .refused) ∨
            ∃ merged, verdict builder rules total span first = .ok (.joins merged) := by
        rcases verdict_ok lawful formed.1 spanFormed placed.1 spanPlaced with
          ⟨passed, -⟩ | refused | ⟨merged, joins, -⟩
        · exact .inl (.inl passed)
        · exact .inl (.inr refused)
        · exact .inr ⟨merged, joins⟩
      rcases answer with notJoined | ⟨merged, joins⟩
      · rcases inductionHypothesis formed.2 placed.2 with
          all | ⟨before, existing, after, merged, split, earlier, joins⟩
        · exact .inl (List.forall_mem_cons.mpr ⟨notJoined, all⟩)
        · refine .inr ⟨first :: before, existing, after, merged, ?_, ?_, joins⟩
          · rw [split, List.cons_append]
          · exact List.forall_mem_cons.mpr ⟨notJoined, earlier⟩
      · exact .inr ⟨[], first, rest, merged, rfl, List.forall_mem_nil _, joins⟩

theorem mergeLoop_all
    (all : ∀ other ∈ state.selected, verdict builder rules state.total span other = .ok .passed ∨
      verdict builder rules state.total span other = .ok .refused) :
    builder.mergeLoop rules span [] state.selected state false =
      .ok (state.refuse (refusals builder rules state.total span state.selected),
        decide (0 < refusals builder rules state.total span state.selected)) := by
  have passes := mergeLoop_append all [] [] state rfl false
  rw [List.append_nil] at passes
  rw [passes, TranscriptContextBuilder.mergeLoop, Bool.false_or]

theorem mergeLoop_joins {before after : List (TranscriptEvidenceSpan Time)}
    {existing merged : TranscriptEvidenceSpan Time}
    (split : state.selected = before ++ existing :: after)
    (earlier : ∀ other ∈ before, verdict builder rules state.total span other = .ok .passed ∨
      verdict builder rules state.total span other = .ok .refused)
    (joins : verdict builder rules state.total span existing = .ok (.joins merged)) :
    builder.mergeLoop rules span [] state.selected state false =
      .ok ({ state.refuse (refusals builder rules state.total span before) with
        selected := before ++ merged :: after
        total := state.total + ((merged.quoteText.length : Int) - existing.quoteText.length) },
          true) := by
  have passes := mergeLoop_append earlier [] (existing :: after) state rfl false
  rw [split, passes, mergeLoop_cons, List.nil_append]
  have sameTotal : (state.refuse (refusals builder rules state.total span before)).total =
      state.total := rfl
  rw [sameTotal, joins]
  rfl

/-- The body of the loop over the spans takes one of its turns. -/
theorem addSpan_turn (lawful : rules.toUrlLibrary.Lawful)
    (sound : PackingSound builder rules places state) (formed : Formed rules source)
    (placed : Placed places source) :
    ∃ fitted next, fitSpan rules source builder.perSpanCharacterBudget = .ok fitted ∧
      (∀ span, fitted = some span → Fitted rules builder.perSpanCharacterBudget source span) ∧
      builder.addSpan rules state source = .ok next ∧ Turn builder rules state fitted next := by
  rcases fitSpan_ok lawful formed builder.perSpanCharacterBudget with unfit | ⟨span, isFitted, fits⟩
  · refine ⟨none, { state with truncated := true, dropped := state.dropped + 1 }, unfit, ?_, ?_, ?_⟩
    · intro span isSome
      nomatch isSome
    · rw [TranscriptContextBuilder.addSpan, unfit]
      rfl
    · exact .unfit _ rfl rfl rfl
  · have spanPlaced : Placed places span := by
      intro segment member
      rw [fits.lineage]
      exact placed segment (fits.inside.subset member)
    suffices turn : ∃ next, builder.addSpan rules state source = .ok next ∧
        Turn builder rules state (some span) next by
      obtain ⟨next, isNext, turn⟩ := turn
      refine ⟨some span, next, isFitted, ?_, isNext, turn⟩
      rintro other isOther
      exact Option.some.inj isOther ▸ fits
    rw [TranscriptContextBuilder.addSpan, isFitted]
    simp only [bind, Except.bind]
    -- the flag is no part of what a turn says
    generalize isBase : (if span.segmentIds ≠ source.segmentIds then
      { state with truncated := true } else state) = base
    have sameBase : base.selected = state.selected ∧ base.total = state.total ∧
        base.dropped = state.dropped := by
      rw [← isBase]
      split <;> exact ⟨rfl, rfl, rfl⟩
    obtain ⟨sameSelected, sameTotal, sameDropped⟩ := sameBase
    rcases exists_first_joins lawful state.total state.selected sound.formed sound.placed
        fits.formed spanPlaced with all | ⟨before, existing, after, merged, split, earlier, joins⟩
    · rw [← sameSelected, ← sameTotal] at all
      rw [mergeLoop_all all]
      by_cases counted : 0 < refusals builder rules base.total span base.selected
      · simp only [counted, decide_true, if_true, pure, Except.pure]
        rw [sameSelected, sameTotal] at all counted
        refine ⟨_, rfl, .refused span _ all counted sameSelected sameTotal ?_⟩
        rw [Packing.refuse, sameSelected, sameTotal, sameDropped]
      · have none := Nat.eq_zero_of_not_pos counted
        have passed := all_passed_of_refusals all none
        rw [sameSelected, sameTotal] at passed
        simp only [none, Nat.lt_irrefl, decide_false, Bool.false_eq_true, if_false, Packing.refuse,
          Nat.add_zero, pure, Except.pure]
        simp only [sameSelected, sameTotal, sameDropped]
        split
        case isTrue => exact ⟨_, rfl, .full span _ passed rfl rfl rfl⟩
        case isFalse room =>
            rw [not_or, Nat.not_le, Int.not_lt] at room
            exact ⟨_, rfl, .appended span _ passed room.1 room.2 rfl rfl rfl⟩
    · rw [← sameTotal] at earlier joins
      rw [mergeLoop_joins (sameSelected.trans split) earlier joins]
      simp only [if_true, pure, Except.pure]
      rw [sameTotal] at earlier joins
      refine ⟨_, rfl, .joined span _ before existing after merged split earlier joins rfl ?_ ?_⟩
      · exact sameTotal ▸ rfl
      · rw [Packing.refuse, sameTotal, sameDropped]

theorem joined_of_verdict (lawful : rules.toUrlLibrary.Lawful)
    (sound : PackingSound builder rules places state) (formed : Formed rules span)
    (placed : Placed places span) {existing merged : TranscriptEvidenceSpan Time}
    (isSelected : existing ∈ state.selected)
    (joins : verdict builder rules state.total span existing = .ok (.joins merged)) :
    Joined builder rules places state.total span existing merged := by
  rcases verdict_ok lawful (sound.formed existing isSelected) formed
      (sound.placed existing isSelected) placed with ⟨passed, -⟩ | refused | ⟨other, isOther, joined⟩
  · rw [passed] at joins
    nomatch joins
  · rw [refused] at joins
    nomatch joins
  · rw [isOther] at joins
    cases joins
    exact joined

theorem not_shares_of_passed (lawful : rules.toUrlLibrary.Lawful)
    (sound : PackingSound builder rules places state) (formed : Formed rules span)
    (placed : Placed places span) {existing : TranscriptEvidenceSpan Time}
    (isSelected : existing ∈ state.selected)
    (passed : verdict builder rules state.total span existing = .ok .passed) :
    ¬ Shares existing span := by
  rcases verdict_ok lawful (sound.formed existing isSelected) formed
      (sound.placed existing isSelected) placed with ⟨-, apart⟩ | refused | ⟨other, isOther, -⟩
  · exact apart
  · rw [refused] at passed
    nomatch passed
  · rw [isOther] at passed
    nomatch passed

theorem PackingSound.turn (lawful : rules.toUrlLibrary.Lawful)
    (sound : PackingSound builder rules places state) (placed : Placed places source)
    (fits : ∀ span, fitted = some span → Fitted rules builder.perSpanCharacterBudget source span)
    (turn : Turn builder rules state fitted next) : PackingSound builder rules places next := by
  have spanPlaced : ∀ span, fitted = some span → Placed places span := by
    intro span isSome segment member
    rw [(fits span isSome).lineage]
    exact placed segment ((fits span isSome).inside.subset member)
  have unchanged (selected : next.selected = state.selected) (total : next.total = state.total) :
      PackingSound builder rules places next :=
    ⟨selected ▸ sound.formed, selected ▸ sound.placed, selected ▸ sound.fits,
      by rw [selected, total, sound.total], total ▸ sound.within, selected ▸ sound.few⟩
  cases turn with
  | unfit _ selected total => exact unchanged selected total
  | refused span _ _ _ selected total => exact unchanged selected total
  | full span _ _ selected total => exact unchanged selected total
  | appended span _ _ room within selected total =>
      have one {property : TranscriptEvidenceSpan Time → Prop}
          (before : ∀ other ∈ state.selected, property other) (last : property span) :
          ∀ other ∈ next.selected, property other := by
        rw [selected, List.forall_mem_append]
        exact ⟨before, by simpa using last⟩
      have isFitted := fits span rfl
      constructor
      · exact one sound.formed isFitted.formed
      · exact one sound.placed (spanPlaced span rfl)
      · exact one sound.fits isFitted.fits
      · rw [selected, total, List.map_append, List.sum_append, ← sound.total]
        simp
      · rw [total]
        exact within
      · rw [selected, List.length_append, List.length_singleton]
        exact room
  | joined span _ before existing after merged split _ joins selected total =>
      have isSelected : existing ∈ state.selected := split ▸ List.mem_append_right _ List.mem_cons_self
      have joined := joined_of_verdict lawful sound (fits span rfl).formed (spanPlaced span rfl)
        isSelected joins
      have one {property : TranscriptEvidenceSpan Time → Prop}
          (before : ∀ other ∈ state.selected, property other) (changed : property merged) :
          ∀ other ∈ next.selected, property other := by
        rw [split, List.forall_mem_append, List.forall_mem_cons] at before
        rw [selected, List.forall_mem_append, List.forall_mem_cons]
        exact ⟨before.1, changed, before.2.2⟩
      constructor
      · exact one sound.formed joined.cut.formed
      · exact one sound.placed joined.placed
      · exact one sound.fits joined.fits
      · have before := sound.total
        rw [split] at before
        rw [selected, total, before]
        simp only [List.map_append, List.map_cons, List.sum_append, List.sum_cons]
        omega
      · rw [total]
        exact joined.within
      · have few := sound.few
        rw [split] at few
        rw [selected]
        simpa using few

end Turn

/-! ## Segments that are shared -/

/-- No two selected spans share a segment. -/
def Apart (selected : List (TranscriptEvidenceSpan Time)) : Prop :=
  selected.Pairwise fun left right => ¬ Shares left right

instance [DecidableEq Time] (selected : List (TranscriptEvidenceSpan Time)) :
    Decidable (Apart selected) :=
  inferInstanceAs (Decidable (selected.Pairwise fun left right => ¬ Shares left right))

section Sharing

variable {builder : TranscriptContextBuilder} {rules : AskRules Time} {places : RawPlaces Time}
  {state : Packing Time} {span existing merged : TranscriptEvidenceSpan Time} {total : Int}

variable (single : ∀ lineage first second, places.Has lineage first → places.Has lineage second →
  first.segmentId = second.segmentId → first = second)

include single

variable {lineage : Lineage} {left right : List (EvidenceSegment Time)}

theorem mem_mergedSegments (inLeft : ∀ segment ∈ left, places.Has lineage segment)
    (inRight : ∀ segment ∈ right, places.Has lineage segment) (segment : EvidenceSegment Time) :
    segment ∈ mergedSegments left right ↔ segment ∈ left ∨ segment ∈ right := by
  constructor
  · exact mem_of_mem_mergedSegments
  · intro either
    obtain ⟨row, isRow, sameId⟩ := exists_mem_mergedSegments either
    have hasSegment : places.Has lineage segment := by
      rcases either with fromLeft | fromRight
      · exact inLeft segment fromLeft
      · exact inRight segment fromRight
    have hasRow := has_of_mem_mergedSegments inLeft inRight isRow
    exact single lineage row segment hasRow hasSegment sameId ▸ isRow

theorem Joined.shares_iff (joined : Joined builder rules places total span existing merged)
    (placed : Placed places existing) (spanPlaced : Placed places span)
    (other : TranscriptEvidenceSpan Time) :
    Shares other merged ↔ Shares other existing ∨ Shares other span := by
  have sameRun := sameLineage_iff.mp joined.same
  have one : sameLineage other merged = sameLineage other existing := by
    simp only [sameLineage, joined.cut.video, joined.cut.lineage]
  have two : sameLineage other span = sameLineage other existing := by
    simp only [sameLineage, sameRun.1, sameRun.2]
  have members := mem_mergedSegments single placed
    (sameRun.2 ▸ spanPlaced : ∀ segment ∈ span.segments, places.Has existing.lineage segment)
  simp only [Shares, one, two, joined.cut.carried, members]
  constructor
  · rintro ⟨same, segment, isOther, fromLeft | fromRight⟩
    · exact .inl ⟨same, segment, isOther, fromLeft⟩
    · exact .inr ⟨same, segment, isOther, fromRight⟩
  · rintro (⟨same, segment, isOther, fromLeft⟩ | ⟨same, segment, isOther, fromRight⟩)
    · exact ⟨same, segment, isOther, .inl fromLeft⟩
    · exact ⟨same, segment, isOther, .inr fromRight⟩

/-- A run that is merged with a part of it stays as it is. -/
theorem mergedSegments_of_subset (inLeft : ∀ segment ∈ left, places.Has lineage segment)
    (citable : Citable left) (subset : ∀ segment ∈ right, segment ∈ left) :
    mergedSegments left right = left := by
  have inRight : ∀ segment ∈ right, places.Has lineage segment := fun segment member =>
    inLeft segment (subset segment member)
  have ordered := List.pairwise_map.mp (List.isChain_iff_pairwise.mp
    ((List.isChain_map EvidenceSegment.originalOrdinal).mpr citable.ordered))
  have merged := ascending_mergedSegments inLeft inRight
  have irreflexive : ∀ segments : List (EvidenceSegment Time),
      segments.Pairwise (fun first second => first.originalOrdinal < second.originalOrdinal) →
        segments.Nodup := by
    intro segments pairwise
    refine pairwise.imp ?_
    rintro first second before rfl
    exact Nat.lt_irrefl _ before
  have sameMembers : (mergedSegments left right).Perm left := by
    rw [List.perm_ext_iff_of_nodup (irreflexive _ merged) (irreflexive _ ordered)]
    intro segment
    rw [mem_mergedSegments single inLeft inRight]
    exact ⟨fun either => either.elim id (subset segment), .inl⟩
  refine sameMembers.eq_of_pairwise ?_ merged ordered
  intro first second _ _ before after
  exact absurd before (Nat.lt_asymm after)

theorem joins_of_subset (lawful : rules.toUrlLibrary.Lawful)
    (sound : PackingSound builder rules places state) (formed : Formed rules span)
    (isSelected : existing ∈ state.selected) (same : sameLineage existing span = true)
    (subset : ∀ segment ∈ span.segments, segment ∈ existing.segments) :
    ∃ merged, verdict builder rules state.total span existing = .ok (.joins merged) := by
  have existingFormed := sound.formed existing isSelected
  have placed := sound.placed existing isSelected
  have unchanged := mergedSegments_of_subset single placed existingFormed.citable subset
  obtain ⟨relation, isRelation, overlaps, -⟩ := segmentRelation_ok existingFormed formed
  obtain ⟨segment, member⟩ := List.exists_mem_of_ne_nil _ formed.citable.nonempty
  have shares : Shares existing span := ⟨same, segment, subset segment member, member⟩
  have isOverlap := overlaps.mpr shares.localOrdinals
  obtain ⟨merged, isMerged, cut⟩ := mergeSpans_ok lawful existingFormed
    (unchanged.symm ▸ existingFormed.citable : Citable (mergedSegments existing.segments span.segments))
  have sameQuote : merged.quoteText = existing.quoteText := by
    rw [cut.formed.quote, cut.carried, unchanged, existingFormed.quote]
  refine ⟨merged, ?_⟩
  have fits := sound.fits existing isSelected
  have within := sound.within
  rw [verdict, same, isRelation, isOverlap]
  simp only [Bool.true_eq_false, if_false, bind, Except.bind, isMerged, sameQuote, pure, Except.pure]
  rw [if_neg (by simp), if_neg (Nat.not_lt_of_le fits), if_neg (by omega)]

end Sharing

/-! ## Turns that deliver once -/

/-- The new span has to do with one selected span at most: all are passed, or one is over budget
with it and all others are passed, or it joins one, those before are passed and those behind share
nothing with it. -/
def SteadyAt (builder : TranscriptContextBuilder) (rules : AskRules Time) (state : Packing Time) :
    Option (TranscriptEvidenceSpan Time) → Prop
  | none => True
  | some span =>
      (∀ other ∈ state.selected, verdict builder rules state.total span other = .ok .passed) ∨
      ∃ before existing after, state.selected = before ++ existing :: after ∧
        (∀ other ∈ before, verdict builder rules state.total span other = .ok .passed) ∧
        ((verdict builder rules state.total span existing = .ok .refused ∧
            ∀ other ∈ after, verdict builder rules state.total span other = .ok .passed) ∨
          (∃ merged, verdict builder rules state.total span existing = .ok (.joins merged)) ∧
            ∀ other ∈ after, ¬ Shares other span)

section Steady

variable {builder : TranscriptContextBuilder} {rules : AskRules Time} {places : RawPlaces Time}
  {state next : Packing Time} {span source : TranscriptEvidenceSpan Time}
  {fitted : Option (TranscriptEvidenceSpan Time)}

theorem exists_only_refused {total : Int} {selected : List (TranscriptEvidenceSpan Time)}
    (all : ∀ other ∈ selected, verdict builder rules total span other = .ok .passed ∨
      verdict builder rules total span other = .ok .refused)
    (one : refusals builder rules total span selected = 1) :
    ∃ before existing after, selected = before ++ existing :: after ∧
      (∀ other ∈ before, verdict builder rules total span other = .ok .passed) ∧
      verdict builder rules total span existing = .ok .refused ∧
      ∀ other ∈ after, verdict builder rules total span other = .ok .passed := by
  induction selected with
  | nil => nomatch one
  | cons first rest inductionHypothesis =>
      rw [List.forall_mem_cons] at all
      rcases all.1 with passed | refused
      · have count : refusals builder rules total span rest = 1 := by
          simpa [refusals, passed] using one
        obtain ⟨before, existing, after, split, earlier, isRefused, later⟩ :=
          inductionHypothesis all.2 count
        refine ⟨first :: before, existing, after, by rw [split]; rfl, ?_, isRefused, later⟩
        exact List.forall_mem_cons.mpr ⟨passed, earlier⟩
      · have count : refusals builder rules total span rest = 0 := by
          simpa [refusals, refused] using one
        exact ⟨[], first, rest, rfl, List.forall_mem_nil _, refused,
          all_passed_of_refusals all.2 count⟩

theorem refusals_le_one_iff
    (all : ∀ other ∈ state.selected, verdict builder rules state.total span other = .ok .passed ∨
      verdict builder rules state.total span other = .ok .refused) :
    refusals builder rules state.total span state.selected ≤ 1 ↔
      SteadyAt builder rules state (some span) := by
  constructor
  · intro few
    rcases Nat.le_one_iff_eq_zero_or_eq_one.mp few with none | one
    · exact .inl (all_passed_of_refusals all none)
    · obtain ⟨before, existing, after, split, earlier, refused, later⟩ := exists_only_refused all one
      exact .inr ⟨before, existing, after, split, earlier, .inl ⟨refused, later⟩⟩
  · rintro (passed | ⟨before, existing, after, split, earlier, ⟨refused, later⟩ | ⟨⟨merged, joins⟩, -⟩⟩)
    · rw [refusals_eq_zero passed]
      exact Nat.zero_le 1
    · have before := refusals_eq_zero earlier
      have after := refusals_eq_zero later
      rw [refusals] at before after
      rw [split, refusals, List.countP_append, List.countP_cons, before, after, refused]
      simp
    · rcases all existing (split ▸ List.mem_append_right _ List.mem_cons_self) with passed | refused
      · rw [passed] at joins
        nomatch joins
      · rw [refused] at joins
        nomatch joins

theorem split_unique {Value : Type*} {keep : Value → Prop} {before other : List Value}
    {first second : Value} {after more : List Value}
    (same : before ++ first :: after = other ++ second :: more)
    (early : ∀ value ∈ before, keep value) (otherEarly : ∀ value ∈ other, keep value)
    (isFirst : ¬ keep first) (isSecond : ¬ keep second) :
    before = other ∧ first = second ∧ after = more := by
  induction before generalizing other with
  | nil =>
      cases other with
      | nil =>
          obtain ⟨rfl, rfl⟩ := List.cons.inj same
          exact ⟨rfl, rfl, rfl⟩
      | cons value other =>
          obtain ⟨rfl, -⟩ := List.cons.inj same
          exact absurd (otherEarly _ List.mem_cons_self) isFirst
  | cons value before inductionHypothesis =>
      rw [List.forall_mem_cons] at early
      cases other with
      | nil =>
          obtain ⟨rfl, -⟩ := List.cons.inj same
          exact absurd early.1 isSecond
      | cons otherValue other =>
          rw [List.forall_mem_cons] at otherEarly
          obtain ⟨rfl, rest⟩ := List.cons.inj same
          obtain ⟨rfl, rfl, rfl⟩ := inductionHypothesis rest early.2 otherEarly.2
          exact ⟨rfl, rfl, rfl⟩

variable {before after : List (TranscriptEvidenceSpan Time)}

theorem steady_of_joins {existing merged : TranscriptEvidenceSpan Time}
    (split : state.selected = before ++ existing :: after)
    (earlier : ∀ other ∈ before, verdict builder rules state.total span other = .ok .passed ∨
      verdict builder rules state.total span other = .ok .refused)
    (joins : verdict builder rules state.total span existing = .ok (.joins merged))
    (steady : SteadyAt builder rules state (some span)) :
    refusals builder rules state.total span before = 0 ∧ ∀ other ∈ after, ¬ Shares other span := by
  have notJoins : ∀ {other}, verdict builder rules state.total span other = .ok .passed ∨
      verdict builder rules state.total span other = .ok .refused →
        ¬ ∃ merged, verdict builder rules state.total span other = .ok (.joins merged) := by
    rintro other (passed | refused) ⟨otherMerged, isJoins⟩
    · rw [passed] at isJoins
      nomatch isJoins
    · rw [refused] at isJoins
      nomatch isJoins
  have isSelected : existing ∈ state.selected := split ▸ List.mem_append_right _ List.mem_cons_self
  rcases steady with passed | ⟨first, other, rest, otherSplit, passed, ⟨refused, later⟩ |
    ⟨otherJoins, later⟩⟩
  · exact absurd ⟨merged, joins⟩ (notJoins (.inl (passed existing isSelected)))
  · refine absurd ⟨merged, joins⟩ (notJoins ?_)
    rw [otherSplit, List.mem_append, List.mem_cons] at isSelected
    rcases isSelected with isFirst | rfl | isRest
    · exact .inl (passed existing isFirst)
    · exact .inr refused
    · exact .inl (later existing isRest)
  · obtain ⟨rfl, rfl, rfl⟩ := split_unique (split.symm.trans otherSplit)
      (fun value isValue => notJoins (earlier value isValue))
      (fun value isValue => notJoins (.inl (passed value isValue)))
      (not_not_intro ⟨merged, joins⟩) (not_not_intro otherJoins)
    exact ⟨refusals_eq_zero passed, later⟩

/-- Spans with one among them. -/
theorem apart_split :
    Apart (before ++ span :: after) ↔
      Apart (before ++ after) ∧ (∀ other ∈ before ++ after, ¬ Shares other span) := by
  have swap : ∀ other : TranscriptEvidenceSpan Time, Shares other span ↔ Shares span other :=
    fun other => ⟨Shares.symm, Shares.symm⟩
  simp only [Apart, List.pairwise_append, List.pairwise_cons, List.forall_mem_cons,
    List.forall_mem_append, swap]
  constructor
  · rintro ⟨first, ⟨behind, second⟩, across⟩
    exact ⟨⟨first, second, fun other isOther => (across other isOther).2⟩,
      fun other isOther => (across other isOther).1, behind⟩
  · rintro ⟨⟨first, second, across⟩, ahead, behind⟩
    exact ⟨first, ⟨behind, second⟩, fun other isOther =>
      ⟨ahead other isOther, across other isOther⟩⟩

end Steady

section Count

variable [DecidableEq Time] {builder : TranscriptContextBuilder} {rules : AskRules Time}
  {places : RawPlaces Time} {state next : Packing Time} {source : TranscriptEvidenceSpan Time}
  {fitted : Option (TranscriptEvidenceSpan Time)}

/-- What a turn should count: one for a span that is not added. -/
def dropCount (selected : List (TranscriptEvidenceSpan Time))
    (fitted : Option (TranscriptEvidenceSpan Time)) : Nat :=
  if Added selected fitted then 0 else 1

/-- What a turn does to what is shared and to the count, and when it does what it should. -/
structure TurnCounts (builder : TranscriptContextBuilder) (rules : AskRules Time)
    (state : Packing Time) (fitted : Option (TranscriptEvidenceSpan Time)) (next : Packing Time) :
    Prop where
  apart_of_next : Apart next.selected → Apart state.selected
  atLeast : state.dropped + dropCount next.selected fitted ≤ next.dropped
  exactly : Apart state.selected →
    ((Apart next.selected ∧ next.dropped = state.dropped + dropCount next.selected fitted) ↔
      SteadyAt builder rules state fitted)

variable (single : ∀ lineage first second, places.Has lineage first → places.Has lineage second →
  first.segmentId = second.segmentId → first = second)

include single

theorem Turn.counts (lawful : rules.toUrlLibrary.Lawful)
    (sound : PackingSound builder rules places state) (placed : Placed places source)
    (fits : ∀ span, fitted = some span → Fitted rules builder.perSpanCharacterBudget source span)
    (turn : Turn builder rules state fitted next) : TurnCounts builder rules state fitted next := by
  have spanPlaced : ∀ span, fitted = some span → Placed places span := by
    intro span isSome segment member
    rw [(fits span isSome).lineage]
    exact placed segment ((fits span isSome).inside.subset member)
  have notAdded : ∀ span, fitted = some span →
      (∀ other ∈ state.selected, verdict builder rules state.total span other = .ok .passed ∨
        verdict builder rules state.total span other = .ok .refused) →
      dropCount state.selected (some span) = 1 := by
    intro span isSome all
    refine if_neg ?_
    rintro ⟨existing, isSelected, same, subset⟩
    obtain ⟨merged, joins⟩ := joins_of_subset single lawful sound (fits span isSome).formed
      isSelected same subset
    rcases all existing isSelected with passed | refused
    · rw [joins] at passed
      nomatch passed
    · rw [joins] at refused
      nomatch refused
  cases turn with
  | unfit _ selected _ dropped =>
      have count : dropCount next.selected (none : Option (TranscriptEvidenceSpan Time)) = 1 :=
        if_neg id
      constructor
      · rw [selected]
        exact id
      · rw [count, dropped]
      · intro apart
        rw [count, dropped, selected]
        exact ⟨fun _ => trivial, fun _ => ⟨apart, rfl⟩⟩
  | refused span _ all counted selected _ dropped =>
      have count := notAdded span rfl all
      rw [← selected] at count
      constructor
      · rw [selected]
        exact id
      · rw [count, dropped]
        omega
      · intro apart
        rw [← refusals_le_one_iff all, count, dropped, selected]
        constructor
        · rintro ⟨-, same⟩
          omega
        · intro few
          exact ⟨apart, by omega⟩
  | full span _ all selected _ dropped =>
      have count := notAdded span rfl fun other isOther => .inl (all other isOther)
      rw [← selected] at count
      constructor
      · rw [selected]
        exact id
      · rw [count, dropped]
      · intro apart
        rw [count, dropped, selected]
        exact ⟨fun _ => .inl all, fun _ => ⟨apart, rfl⟩⟩
  | appended span _ all _ _ selected _ dropped =>
      have count : dropCount next.selected (some span) = 0 := by
        refine if_pos ⟨span, ?_, sameLineage_iff.mpr ⟨rfl, rfl⟩, fun segment member => member⟩
        rw [selected]
        exact List.mem_append_right _ List.mem_cons_self
      have splits := @apart_split _ span state.selected []
      rw [List.append_nil, ← selected] at splits
      constructor
      · exact fun apart => (splits.mp apart).1
      · rw [count, dropped]
        exact Nat.le_refl _
      · intro apart
        rw [count, dropped, splits]
        refine ⟨fun _ => .inl all, fun _ => ⟨⟨apart, fun other isOther => ?_⟩, rfl⟩⟩
        exact not_shares_of_passed lawful sound (fits span rfl).formed (spanPlaced span rfl) isOther
          (all other isOther)
  | joined span _ before existing after merged split earlier joins selected _ dropped =>
      have isSelected : existing ∈ state.selected :=
        split ▸ List.mem_append_right _ List.mem_cons_self
      have formed := (fits span rfl).formed
      have placedHere := spanPlaced span rfl
      have joined := joined_of_verdict lawful sound formed placedHere isSelected joins
      have sharesIff := joined.shares_iff single (sound.placed existing isSelected) placedHere
      have count : dropCount next.selected (some span) = 0 := by
        have sameRun := sameLineage_iff.mp joined.same
        refine if_pos ⟨merged, ?_, sameLineage_iff.mpr ⟨?_, ?_⟩, fun segment member => ?_⟩
        · rw [selected]
          exact List.mem_append_right _ List.mem_cons_self
        · rw [joined.cut.video, sameRun.1]
        · rw [joined.cut.lineage, sameRun.2]
        · rw [joined.cut.carried, mem_mergedSegments single (sound.placed existing isSelected)
            (sameRun.2 ▸ placedHere)]
          exact .inr member
      have before_iff := @apart_split _ existing before after
      have after_iff := @apart_split _ merged before after
      rw [← split] at before_iff
      rw [← selected] at after_iff
      constructor
      · rw [before_iff, after_iff]
        rintro ⟨others, apart⟩
        exact ⟨others, fun other isOther shares =>
          apart other isOther ((sharesIff other).mpr (.inl shares))⟩
      · rw [count, dropped]
        omega
      · rw [before_iff, after_iff, count, dropped]
        rintro ⟨others, apart⟩
        constructor
        · rintro ⟨⟨-, apartNext⟩, none⟩
          have passed := all_passed_of_refusals earlier (by omega)
          refine .inr ⟨before, existing, after, split, passed, .inr ⟨⟨merged, joins⟩, ?_⟩⟩
          intro other isOther shares
          exact apartNext other (List.mem_append_right _ isOther) ((sharesIff other).mpr (.inr shares))
        · intro steady
          obtain ⟨none, later⟩ := steady_of_joins split earlier joins steady
          refine ⟨⟨others, fun other isOther shares => ?_⟩, by rw [none]⟩
          rcases (sharesIff other).mp shares with one | two
          · exact apart other isOther one
          · rcases List.mem_append.mp isOther with isBefore | isAfter
            · refine not_shares_of_passed lawful sound formed placedHere
                (split ▸ List.mem_append_left _ isBefore) ?_ two
              exact all_passed_of_refusals earlier none other isBefore
            · exact later other isAfter two

end Count

/-! ## All spans -/

section Run

variable [DecidableEq Time] (builder : TranscriptContextBuilder) (rules : AskRules Time)

/-- The number of spans whose fitted segments were not added in their turn. -/
def notAdded : Packing Time → List (TranscriptEvidenceSpan Time) → Nat
  | _, [] => 0
  | state, source :: rest =>
      match fitSpan rules source builder.perSpanCharacterBudget, builder.addSpan rules state source with
      | .ok fitted, .ok next => dropCount next.selected fitted + notAdded next rest
      | _, _ => 0

omit [DecidableEq Time] in
/-- Every turn is steady. -/
def SteadyRun : Packing Time → List (TranscriptEvidenceSpan Time) → Prop
  | _, [] => True
  | state, source :: rest =>
      ∀ fitted next, fitSpan rules source builder.perSpanCharacterBudget = .ok fitted →
        builder.addSpan rules state source = .ok next →
          SteadyAt builder rules state fitted ∧ SteadyRun next rest

/-- The variables before the first span. -/
def Packing.empty (Time : Type) : Packing Time := ⟨[], 0, false, 0⟩

/-- What the context promises: each segment once, within the budgets, and a count of what was
dropped. -/
structure Delivers (spans : List (TranscriptEvidenceSpan Time)) (result : ContextBuildResult Time) :
    Prop where
  apart : Apart result.spans
  few : result.spans.length ≤ builder.maxSpans
  quotes : ∀ span ∈ result.spans, span.quoteText.length ≤ builder.perSpanCharacterBudget
  together : (result.spans.map fun span => span.quoteText.length).sum ≤ builder.totalCharacterBudget
  dropped : result.droppedSpanCount = notAdded builder rules (Packing.empty Time) spans

variable {builder rules} {places : RawPlaces Time}
  (single : ∀ lineage first second, places.Has lineage first → places.Has lineage second →
    first.segmentId = second.segmentId → first = second)

include single

/-- The loop over the spans counts too much and shares segments unless every turn is steady. -/
theorem foldlM_addSpan (lawful : rules.toUrlLibrary.Lawful)
    {sources : List (TranscriptEvidenceSpan Time)} {state : Packing Time}
    (formed : ∀ source ∈ sources, Formed rules source)
    (placed : ∀ source ∈ sources, Placed places source)
    (sound : PackingSound builder rules places state) :
    ∃ final, sources.foldlM (builder.addSpan rules) state = .ok final ∧
      PackingSound builder rules places final ∧
      (Apart final.selected → Apart state.selected) ∧
      state.dropped + notAdded builder rules state sources ≤ final.dropped ∧
      (Apart state.selected →
        ((Apart final.selected ∧
            final.dropped = state.dropped + notAdded builder rules state sources) ↔
          SteadyRun builder rules state sources)) := by
  induction sources generalizing state with
  | nil =>
      exact ⟨state, rfl, sound, id, Nat.le_refl _, fun apart =>
        ⟨fun _ => trivial, fun _ => ⟨apart, rfl⟩⟩⟩
  | cons source rest inductionHypothesis =>
      rw [List.forall_mem_cons] at formed placed
      obtain ⟨fitted, next, isFitted, fits, isNext, turn⟩ :=
        addSpan_turn lawful sound formed.1 placed.1
      have nextSound := sound.turn lawful placed.1 fits turn
      have counts := turn.counts single lawful sound placed.1 fits
      obtain ⟨final, isFinal, finalSound, apartNext, atLeast, exactly⟩ :=
        inductionHypothesis formed.2 placed.2 nextSound
      have count : notAdded builder rules state (source :: rest) =
          dropCount next.selected fitted + notAdded builder rules next rest := by
        rw [notAdded, isFitted, isNext]
      have steadyRun : SteadyRun builder rules state (source :: rest) ↔
          SteadyAt builder rules state fitted ∧ SteadyRun builder rules next rest := by
        rw [SteadyRun]
        constructor
        · intro steady
          exact steady fitted next isFitted isNext
        · rintro steady other after isOther isAfter
          rw [isFitted] at isOther
          rw [isNext] at isAfter
          cases isOther
          cases isAfter
          exact steady
      refine ⟨final, ?_, finalSound, fun apart => counts.apart_of_next (apartNext apart), ?_, ?_⟩
      · rw [List.foldlM_cons, isNext]
        exact isFinal
      · have := counts.atLeast
        omega
      · intro apart
        rw [count, steadyRun]
        constructor
        · rintro ⟨apartFinal, same⟩
          have := counts.atLeast
          have steady := (counts.exactly apart).mp ⟨apartNext apartFinal, by omega⟩
          have sameNext := ((counts.exactly apart).mpr steady).2
          exact ⟨steady, (exactly (apartNext apartFinal)).mp ⟨apartFinal, by omega⟩⟩
        · rintro ⟨steady, steadyRest⟩
          obtain ⟨apartAfter, sameNext⟩ := (counts.exactly apart).mpr steady
          obtain ⟨apartFinal, same⟩ := (exactly apartAfter).mpr steadyRest
          exact ⟨apartFinal, by omega⟩

end Run

/-- Segments with one id are one segment. -/
def SameSegments (spans : List (TranscriptEvidenceSpan Time)) : Prop :=
  ∀ left ∈ spans, ∀ right ∈ spans, left.lineage = right.lineage →
    ∀ first ∈ left.segments, ∀ second ∈ right.segments,
      first.segmentId = second.segmentId → first = second

/-- The context of spans of one source is built, and it delivers each segment once and counts each
dropped span once if and only if every span has to do with one selected span at most. -/
theorem build_delivers_iff [DecidableEq Time] {builder : TranscriptContextBuilder}
    {rules : AskRules Time} (lawful : rules.toUrlLibrary.Lawful)
    {spans : List (TranscriptEvidenceSpan Time)} (formed : ∀ span ∈ spans, Formed rules span)
    (oneSource : OneSource spans) (sameSegments : SameSegments spans) (query intent : String) :
    ∃ result, builder.build rules query intent spans = .ok result ∧
      (Delivers builder rules spans result ↔
        SteadyRun builder rules (Packing.empty Time) spans) := by
  have single : ∀ lineage first second, (placesOf spans oneSource).Has lineage first →
      (placesOf spans oneSource).Has lineage second →
        first.segmentId = second.segmentId → first = second := by
    rintro lineage first second ⟨left, isLeft, rfl, isFirst⟩ ⟨right, isRight, same, isSecond⟩
    exact sameSegments left isLeft right isRight same.symm first isFirst second isSecond
  have empty : PackingSound builder rules (placesOf spans oneSource) (Packing.empty Time) :=
    ⟨List.forall_mem_nil _, List.forall_mem_nil _, List.forall_mem_nil _, rfl,
      Int.natCast_nonneg _, Nat.zero_le _⟩
  obtain ⟨final, isFinal, sound, -, -, exactly⟩ := foldlM_addSpan single lawful formed
    (fun span isSpan => placed_placesOf oneSource isSpan) empty
  obtain ⟨result, isResult, sameSpans, sameCount⟩ : ∃ result,
      builder.build rules query intent spans = .ok result ∧ result.spans = final.selected ∧
        result.droppedSpanCount = final.dropped := by
    rw [TranscriptContextBuilder.build]
    exact ⟨_, bind_eq_ok.mpr ⟨final, isFinal, rfl⟩, rfl, rfl⟩
  refine ⟨result, isResult, ?_⟩
  rw [← exactly List.Pairwise.nil]
  constructor
  · intro delivers
    rw [← sameSpans, ← sameCount]
    exact ⟨delivers.apart, delivers.dropped.trans (Nat.zero_add _).symm⟩
  · rintro ⟨apart, dropped⟩
    rw [← sameSpans] at apart
    rw [← sameCount] at dropped
    refine ⟨apart, sameSpans ▸ sound.few, sameSpans ▸ sound.fits, ?_, dropped.trans (Nat.zero_add _)⟩
    have within := sound.total ▸ sound.within
    have sameSum : Nat.cast (final.selected.map fun span => span.quoteText.length).sum =
        (final.selected.map fun span => (span.quoteText.length : Int)).sum := by
      rw [Nat.cast_list_sum, List.map_map]
      rfl
    rw [sameSpans]
    omega

/-! ## Three windows of one source -/

/-- `TranscriptContextBuilder()`. -/
def TranscriptContextBuilder.standard : TranscriptContextBuilder :=
  { perSpanCharacterBudget := 2500
    totalCharacterBudget := 12000
    maxSpans := 12
    perSpan_positive := by decide
    total_positive := by decide
    maxSpans_positive := by decide }

/-- The first window, one behind a gap, and one that overlaps both. -/
def overlappingWindows : List (TranscriptEvidenceSpan Nat) :=
  [sampleSpan [0, 1], sampleSpan [4, 5], sampleSpan [1, 2, 3, 4]]

/-- The third window is merged into the first one; that it also overlaps the second one is not
noticed. -/
theorem build_shares_segment :
    ((TranscriptContextBuilder.standard.build sampleRules "query" "intent"
        overlappingWindows).toOption.map fun result =>
          result.spans.map TranscriptEvidenceSpan.segmentOrdinals) =
      some [[0, 1, 2, 3, 4], [4, 5]] ∧
    ¬ ∃ result, TranscriptContextBuilder.standard.build sampleRules "query" "intent"
        overlappingWindows = .ok result ∧
      Delivers TranscriptContextBuilder.standard sampleRules overlappingWindows result := by
  have shared : ((TranscriptContextBuilder.standard.build sampleRules "query" "intent"
      overlappingWindows).toOption.map fun result => decide (Apart result.spans)) = some false := by
    decide +kernel
  refine ⟨by decide +kernel, ?_⟩
  rintro ⟨result, isResult, delivers⟩
  rw [isResult] at shared
  exact absurd delivers.apart (of_decide_eq_false (Option.some.inj shared))

/-- Two windows that overlap each other. -/
theorem build_delivers_two :
    ∃ result, TranscriptContextBuilder.standard.build sampleRules "query" "intent"
        [sampleSpan [0, 1], sampleSpan [1, 2]] = .ok result ∧
      (Delivers TranscriptContextBuilder.standard sampleRules [sampleSpan [0, 1], sampleSpan [1, 2]]
          result ↔
        SteadyRun TranscriptContextBuilder.standard sampleRules (Packing.empty Nat)
          [sampleSpan [0, 1], sampleSpan [1, 2]]) := by
  refine build_delivers_iff sampleRules_lawful ?_ (by decide +kernel) ?_ "query" "intent"
  · rw [List.forall_mem_cons, List.forall_mem_singleton]
    exact ⟨⟨by decide +kernel, rfl, linked_sampleSpan [0, 1]⟩,
      ⟨by decide +kernel, rfl, linked_sampleSpan [1, 2]⟩⟩
  · rw [SameSegments]
    decide +kernel

end Shiliu.Ask
