/-
Module: Shiliu.Ask.WidePacking
Purpose: What the wide packer delivers: every segment with a text of every span of a rank within 30,
  once, in the order of first occurrences. A blank or repeated segment ends the span before it.
Trusted boundary: none
Main exports: spoken, wideStream, Conflict, WideInvariant, wideBuild_delivers
-/
import Shiliu.Ask.F1Context
import Shiliu.Ask.RawRuns

set_option linter.all false

namespace Shiliu.Ask

open Shiliu.Library Shiliu.Storage

variable {Time : Type}

/-! ## The stream -/

/-- The pieces that are not blank. -/
def spoken (pieces : List (Lineage × EvidenceSegment Time)) :
    List (Lineage × EvidenceSegment Time) :=
  pieces.filter fun piece => !piece.2.blank

/-- The first provenance entry has a rank, and it is at most 30. -/
def withinThirty (span : TranscriptEvidenceSpan Time) : Bool :=
  (span.retrievalProvenance.head?.bind ProvenanceEntry.rank).any fun rank => rank ≤ 30

/-- The pieces the packer goes through. -/
def wideStream (spans : List (TranscriptEvidenceSpan Time)) : List (Lineage × EvidenceSegment Time) :=
  delivered (spans.filter withinThirty)

/-- Two pieces of one coordinate with different texts, and the error that names the coordinate. -/
def Conflict (rules : AskRules Time) (stream : List (Lineage × EvidenceSegment Time))
    (failure : AskFailure) : Prop :=
  ∃ first ∈ spoken stream, ∃ second ∈ spoken stream, coordinate first = coordinate second ∧
    first.2.sourceText ≠ second.2.sourceText ∧
    failure = .valueError
      ("conflicting original segment text at " ++ rules.reprCoordinate (coordinate first))

/-- The pieces of one coordinate have one text. -/
def Agreed (stream : List (Lineage × EvidenceSegment Time)) : Prop :=
  ∀ first ∈ spoken stream, ∀ second ∈ spoken stream, coordinate first = coordinate second →
    first.2.sourceText = second.2.sourceText

/-- What the selected spans make of the stream so far. -/
structure WideDelivers (rules : AskRules Time) (stream : List (Lineage × EvidenceSegment Time))
    (selected : List (TranscriptEvidenceSpan Time)) : Prop where
  order : (delivered selected).map coordinate = distinct ((spoken stream).map coordinate)
  known : ∀ piece ∈ delivered selected, piece ∈ spoken stream
  runs : ∀ span ∈ selected, span.pieces <:+: stream
  formed : ∀ span ∈ selected, Formed rules span

/-- What holds of the variables of the packer, too. -/
structure WideInvariant (rules : AskRules Time) (places : RawPlaces Time)
    (stream : List (Lineage × EvidenceSegment Time)) (state : WideState Time) : Prop where
  delivers : WideDelivers rules stream state.selected
  placed : ∀ span ∈ state.selected, Placed places span
  seen : state.seen =
    (delivered state.selected).map fun piece => (coordinate piece, piece.2.sourceText)
  last : state.barrier = false → ∀ span ∈ state.selected.getLast?, span.pieces <:+ stream
  agreed : Agreed stream

/-! ## One segment -/

section Step

variable {rules : AskRules Time} {places : RawPlaces Time}
  {stream : List (Lineage × EvidenceSegment Time)} {state : WideState Time}
  {piece : Lineage × EvidenceSegment Time}

theorem spoken_append {more : List (Lineage × EvidenceSegment Time)} :
    spoken (stream ++ more) = spoken stream ++ spoken more :=
  List.filter_append ..

theorem spoken_of_blank (blank : piece.2.blank = true) : spoken (stream ++ [piece]) = spoken stream := by
  rw [spoken_append]
  simp [spoken, blank]

theorem spoken_of_text (text : piece.2.blank = false) :
    spoken (stream ++ [piece]) = spoken stream ++ [piece] := by
  rw [spoken_append]
  simp [spoken, text]

theorem Conflict.append {failure : AskFailure} (conflict : Conflict rules stream failure)
    (more : List (Lineage × EvidenceSegment Time)) : Conflict rules (stream ++ more) failure := by
  obtain ⟨first, isFirst, second, isSecond, rest⟩ := conflict
  rw [Conflict, spoken_append]
  exact ⟨first, List.mem_append_left _ isFirst, second, List.mem_append_left _ isSecond, rest⟩

/-- Going past a piece that selects nothing. -/
theorem WideInvariant.pass (invariant : WideInvariant rules places stream state)
    (order : distinct ((spoken (stream ++ [piece])).map coordinate) =
      distinct ((spoken stream).map coordinate))
    (agreed : Agreed (stream ++ [piece])) :
    WideInvariant rules places (stream ++ [piece]) { state with barrier := true } where
  delivers :=
    { order := invariant.delivers.order.trans order.symm
      known := fun other isOther =>
        spoken_append ▸ List.mem_append_left _ (invariant.delivers.known other isOther)
      runs := fun span isSpan => (invariant.delivers.runs span isSpan).trans (List.infix_append' [] _ _)
      formed := invariant.delivers.formed }
  placed := invariant.placed
  seen := invariant.seen
  last := fun open_ => nomatch open_
  agreed := agreed

variable {key : RawCoordinate} {pieces : List (Lineage × EvidenceSegment Time)}

theorem mem_coordinates (invariant : WideInvariant rules places stream state) :
    key ∈ (delivered state.selected).map coordinate ↔ key ∈ (spoken stream).map coordinate := by
  rw [invariant.delivers.order, mem_distinct]

theorem WideInvariant.select (invariant : WideInvariant rules places stream state)
    {selected : List (TranscriptEvidenceSpan Time)} (text : piece.2.blank = false)
    (fresh : coordinate piece ∉ (delivered state.selected).map coordinate)
    (grown : delivered selected = delivered state.selected ++ [piece])
    (runs : ∀ span ∈ selected, span.pieces <:+: stream ++ [piece])
    (formed : ∀ span ∈ selected, Formed rules span) (placed : ∀ span ∈ selected, Placed places span)
    (last : ∀ span ∈ selected.getLast?, span.pieces <:+ stream ++ [piece]) :
    WideInvariant rules places (stream ++ [piece])
      ⟨selected, state.seen ++ [(coordinate piece, piece.2.sourceText)], false⟩ where
  delivers :=
    { order := by
        have unheard := (mem_coordinates invariant).not.mp fresh
        rw [grown, spoken_of_text text, List.map_append, List.map_append, List.map_singleton,
          distinct_concat, if_neg unheard, invariant.delivers.order]
      known := by
        intro other isOther
        rw [spoken_of_text text]
        rw [grown] at isOther
        rcases List.mem_append.mp isOther with earlier | isPiece
        · exact List.mem_append_left _ (invariant.delivers.known other earlier)
        · exact List.mem_append_right _ isPiece
      runs := runs
      formed := formed }
  placed := placed
  seen := by
    rw [grown, invariant.seen, List.map_append, List.map_singleton]
  last := fun _ => last
  agreed := by
    have unheard : ∀ other ∈ spoken stream, coordinate other ≠ coordinate piece := by
      intro other isOther same
      exact (mem_coordinates invariant).not.mp fresh (same ▸ List.mem_map_of_mem isOther)
    intro first isFirst second isSecond same
    rw [spoken_of_text text, List.mem_append, List.mem_singleton] at isFirst isSecond
    rcases isFirst with isFirst | rfl <;> rcases isSecond with isSecond | rfl
    · exact invariant.agreed first isFirst second isSecond same
    · exact absurd same (unheard first isFirst)
    · exact absurd same.symm (unheard second isSecond)
    · rfl

theorem exists_of_lookup {text : String}
    (found : (pieces.map fun piece => (coordinate piece, piece.2.sourceText)).lookup key =
      some text) :
    ∃ piece ∈ pieces, coordinate piece = key ∧ piece.2.sourceText = text := by
  obtain ⟨before, after, split, -⟩ := List.lookup_eq_some_iff.mp found
  have member : (key, text) ∈ pieces.map fun piece => (coordinate piece, piece.2.sourceText) :=
    split ▸ List.mem_append_right _ List.mem_cons_self
  obtain ⟨piece, isPiece, same⟩ := List.mem_map.mp member
  exact ⟨piece, isPiece, congrArg Prod.fst same, congrArg Prod.snd same⟩

theorem fresh_of_lookup
    (absent : (pieces.map fun piece => (coordinate piece, piece.2.sourceText)).lookup key = none) :
    key ∉ pieces.map coordinate := by
  intro member
  obtain ⟨piece, isPiece, rfl⟩ := List.mem_map.mp member
  have := List.lookup_eq_none_iff.mp absent (coordinate piece, piece.2.sourceText)
    (List.mem_map_of_mem isPiece)
  simp at this

variable {span : TranscriptEvidenceSpan Time} {segment : EvidenceSegment Time}

theorem widePlace_blank (state : WideState Time) (blank : segment.blank = true) :
    widePlace rules span state segment = .ok { state with barrier := true } := by
  rw [widePlace, if_pos blank]

theorem widePlace_seen {known : String} (text : segment.blank = false)
    (found : state.seen.lookup ⟨span.lineage, segment.originalOrdinal⟩ = some known) :
    widePlace rules span state segment =
      if known ≠ segment.sourceText then
        .error (.valueError ("conflicting original segment text at " ++
          rules.reprCoordinate ⟨span.lineage, segment.originalOrdinal⟩))
      else .ok { state with barrier := true } := by
  rw [widePlace, if_neg (by rw [text]; exact Bool.false_ne_true), found]

theorem widePlace_new {single : TranscriptEvidenceSpan Time} (text : segment.blank = false)
    (absent : state.seen.lookup ⟨span.lineage, segment.originalOrdinal⟩ = none)
    (isSingle : spanWithSegments rules span [segment] none none none = .ok single) :
    (widePlace rules span state segment = .ok ⟨state.selected ++ [single],
        state.seen ++ [(⟨span.lineage, segment.originalOrdinal⟩, segment.sourceText)], false⟩) ∨
      ∃ last ∈ state.selected.getLast?, state.barrier = false ∧ sameLineage last single = true ∧
        last.followedBy segment = true ∧
        widePlace rules span state segment = (mergeSpans rules last single).map fun merged =>
          ⟨state.selected.dropLast ++ [merged],
            state.seen ++ [(⟨span.lineage, segment.originalOrdinal⟩, segment.sourceText)], false⟩ := by
  rw [widePlace, if_neg (by rw [text]; exact Bool.false_ne_true), absent, isSingle]
  cases before : state.selected.getLast? with
  | none => exact .inl rfl
  | some last =>
      by_cases joins : (!state.barrier && sameLineage last single && last.followedBy segment) = true
      · simp only [Bool.and_eq_true, Bool.not_eq_true'] at joins
        refine .inr ⟨last, rfl, joins.1.1, joins.1.2, joins.2, ?_⟩
        simp only [bind, Except.bind, joins, Bool.not_false, Bool.and_self, if_true]
        cases mergeSpans rules last single <;> rfl
      · refine .inl ?_
        simp only [bind, Except.bind, if_neg joins]
        rfl

/-- The body of the loop over the segments goes on, or raises at a conflict. -/
theorem widePlace_step (lawful : rules.toUrlLibrary.Lawful) (linked : span.Linked rules)
    (has : places.Has span.lineage segment) (invariant : WideInvariant rules places stream state) :
    (∃ next, widePlace rules span state segment = .ok next ∧
      WideInvariant rules places (stream ++ [(span.lineage, segment)]) next) ∨
    ∃ failure, widePlace rules span state segment = .error failure ∧
      Conflict rules (stream ++ [(span.lineage, segment)]) failure := by
  cases text : segment.blank with
  | true =>
      have spokenHere : spoken (stream ++ [(span.lineage, segment)]) = spoken stream :=
        spoken_of_blank text
      refine .inl ⟨_, widePlace_blank state text, invariant.pass ?_ ?_⟩
      · rw [spokenHere]
      · rw [Agreed, spokenHere]
        exact invariant.agreed
  | false =>
      have spokenHere : spoken (stream ++ [(span.lineage, segment)]) =
          spoken stream ++ [(span.lineage, segment)] := spoken_of_text text
      cases found : state.seen.lookup ⟨span.lineage, segment.originalOrdinal⟩ with
      | some known =>
          rw [widePlace_seen text found]
          rw [invariant.seen] at found
          obtain ⟨first, isFirst, sameKey, rfl⟩ := exists_of_lookup found
          have isSpoken := invariant.delivers.known first isFirst
          by_cases differs : first.2.sourceText ≠ segment.sourceText
          · rw [if_pos differs]
            refine .inr ⟨_, rfl, first, ?_, (span.lineage, segment), ?_, sameKey, differs, ?_⟩
            · exact spokenHere ▸ List.mem_append_left _ isSpoken
            · exact spokenHere ▸ List.mem_append_right _ List.mem_cons_self
            · rw [sameKey]
          · rw [if_neg differs]
            rw [not_not] at differs
            have heard : coordinate (span.lineage, segment) ∈ (spoken stream).map coordinate :=
              List.mem_map.mpr ⟨first, isSpoken, sameKey⟩
            refine .inl ⟨_, rfl, invariant.pass ?_ ?_⟩
            · rw [spokenHere, List.map_append, List.map_singleton, distinct_concat, if_pos heard]
            · -- the texts of one coordinate are that of its first piece
              have sameText : ∀ other ∈ spoken (stream ++ [(span.lineage, segment)]),
                  ∀ key, coordinate other = key → ∃ early ∈ spoken stream, coordinate early = key ∧
                    early.2.sourceText = other.2.sourceText := by
                intro other isOther key isKey
                rw [spokenHere, List.mem_append, List.mem_singleton] at isOther
                rcases isOther with earlier | rfl
                · exact ⟨other, earlier, isKey, rfl⟩
                · exact ⟨first, isSpoken, sameKey.trans isKey, differs⟩
              intro one isOne two isTwo same
              obtain ⟨early, isEarly, earlyKey, earlyText⟩ := sameText one isOne _ rfl
              obtain ⟨late, isLate, lateKey, lateText⟩ := sameText two isTwo _ same.symm
              rw [← earlyText, ← lateText]
              exact invariant.agreed early isEarly late isLate (earlyKey.trans lateKey.symm)
      | none =>
          obtain ⟨single, isSingle, cut, singlePlaced, singlePieces⟩ := exists_single lawful linked has
          have fresh := fresh_of_lookup (invariant.seen ▸ found)
          have formed := invariant.delivers.formed
          have runs : ∀ other ∈ state.selected,
              other.pieces <:+: stream ++ [(span.lineage, segment)] := fun other isOther =>
            (invariant.delivers.runs other isOther).trans (List.infix_append' [] _ _)
          rcases widePlace_new text found isSingle with
            apart | ⟨last, isLast, open_, same, follows, joins⟩
          · refine .inl ⟨_, apart, invariant.select text fresh ?_ ?_ ?_ ?_ ?_⟩
            · rw [delivered_append, delivered_singleton, singlePieces]
            · rw [List.forall_mem_append, List.forall_mem_singleton, singlePieces]
              exact ⟨runs, (List.suffix_append _ _).isInfix⟩
            · rw [List.forall_mem_append, List.forall_mem_singleton]
              exact ⟨formed, cut.formed⟩
            · rw [List.forall_mem_append, List.forall_mem_singleton]
              exact ⟨invariant.placed, singlePlaced⟩
            · rw [List.getLast?_concat]
              rintro other isOther
              obtain rfl : single = other := Option.some.inj isOther
              rw [singlePieces]
              exact List.suffix_append _ _
          · have member : last ∈ state.selected := List.mem_of_getLast? isLast
            obtain ⟨merged, isMerged, mergedCut, mergedPlaced, mergedPieces⟩ :=
              exists_appended lawful (formed last member) (invariant.placed last member) cut has same
                follows
            have split : state.selected = state.selected.dropLast ++ [last] :=
              (List.dropLast_append_getLast? last isLast).symm
            have kept : ∀ other ∈ state.selected.dropLast, other ∈ state.selected :=
              (List.dropLast_sublist state.selected).subset
            have goesOn : merged.pieces <:+ stream ++ [(span.lineage, segment)] := by
              rw [mergedPieces]
              exact (List.suffix_append_inj_of_length_eq rfl).mpr
                ⟨invariant.last open_ last isLast, rfl⟩
            rw [joins, isMerged]
            refine .inl ⟨_, rfl, invariant.select text fresh ?_ ?_ ?_ ?_ ?_⟩
            · rw [split, delivered_append, delivered_append, delivered_singleton,
                delivered_singleton, mergedPieces, List.dropLast_concat, List.append_assoc]
            · rw [List.forall_mem_append, List.forall_mem_singleton]
              exact ⟨fun other isOther => runs other (kept other isOther), goesOn.isInfix⟩
            · rw [List.forall_mem_append, List.forall_mem_singleton]
              exact ⟨fun other isOther => formed other (kept other isOther), mergedCut.formed⟩
            · rw [List.forall_mem_append, List.forall_mem_singleton]
              exact ⟨fun other isOther => invariant.placed other (kept other isOther), mergedPlaced⟩
            · rw [List.getLast?_concat]
              rintro other isOther
              obtain rfl : merged = other := Option.some.inj isOther
              exact goesOn

end Step

/-! ## All spans -/

section Build

variable {rules : AskRules Time} {places : RawPlaces Time}
  {stream : List (Lineage × EvidenceSegment Time)} {state : WideState Time}
  {span : TranscriptEvidenceSpan Time}

theorem foldlM_widePlace (lawful : rules.toUrlLibrary.Lawful) (linked : span.Linked rules)
    (placed : Placed places span) (invariant : WideInvariant rules places stream state) :
    (∃ next, span.segments.foldlM (widePlace rules span) state = .ok next ∧
      WideInvariant rules places (stream ++ span.pieces) next) ∨
    ∃ failure, span.segments.foldlM (widePlace rules span) state = .error failure ∧
      Conflict rules (stream ++ span.pieces) failure := by
  have outcome := @foldlM_cases _ _ _ (widePlace rules span) span.segments
    (fun done => WideInvariant rules places (stream ++ done.map fun segment => (span.lineage, segment)))
    (fun done => Conflict rules (stream ++ done.map fun segment => (span.lineage, segment)))
    ?_ ?_ [] state (by rwa [List.map_nil, List.append_nil])
  · exact outcome
  · intro done segment before member good
    rw [List.map_append, ← List.append_assoc]
    exact widePlace_step lawful linked (placed segment member) good
  · intro done more failure conflict
    rw [List.map_append, ← List.append_assoc]
    exact conflict.append _

/-- The provenance of the span says its rank. -/
def TranscriptEvidenceSpan.Ranked (span : TranscriptEvidenceSpan Time) : Prop :=
  ∃ first rest, span.retrievalProvenance = first :: rest ∧ first.rank.isSome

theorem wideStream_concat (spans : List (TranscriptEvidenceSpan Time)) :
    wideStream (spans ++ [span]) =
      if withinThirty span then wideStream spans ++ span.pieces else wideStream spans := by
  rw [wideStream, List.filter_append, delivered_append]
  split
  case isTrue within =>
      rw [List.filter_singleton, within]
      exact congrArg _ delivered_singleton
  case isFalse beyond =>
      rw [List.filter_singleton, Bool.eq_false_iff.mpr beyond]
      exact List.append_nil _

variable {spans : List (TranscriptEvidenceSpan Time)}

theorem Conflict.more {failure : AskFailure} (conflict : Conflict rules (wideStream spans) failure)
    (more : List (TranscriptEvidenceSpan Time)) :
    Conflict rules (wideStream (spans ++ more)) failure := by
  have grows : wideStream (spans ++ more) = wideStream spans ++ wideStream more := by
    rw [wideStream, List.filter_append, delivered_append]
    rfl
  rw [grows]
  exact conflict.append _

/-- The body of the loop over the spans. -/
theorem widePlaceSpan_step (lawful : rules.toUrlLibrary.Lawful) (linked : span.Linked rules)
    (placed : Placed places span) (ranked : span.Ranked)
    (invariant : WideInvariant rules places (wideStream spans) state) :
    (∃ next, widePlaceSpan rules state span = .ok next ∧
      WideInvariant rules places (wideStream (spans ++ [span])) next) ∨
    ∃ failure, widePlaceSpan rules state span = .error failure ∧
      Conflict rules (wideStream (spans ++ [span])) failure := by
  obtain ⟨first, rest, provenance, isRanked⟩ := ranked
  obtain ⟨rank, isRank⟩ := Option.isSome_iff_exists.mp isRanked
  have within : withinThirty span = decide (rank ≤ 30) := by
    rw [withinThirty, provenance, List.head?_cons, Option.bind_some, isRank, Option.any_some]
  rw [widePlaceSpan, provenance, wideStream_concat, within]
  simp only [isRank, decide_eq_true_eq]
  by_cases beyond : 30 < rank
  · rw [if_pos beyond, if_neg (by omega)]
    exact .inl ⟨state, rfl, invariant⟩
  · rw [if_neg beyond, if_pos (by omega)]
    exact foldlM_widePlace lawful linked placed invariant

/-- The wide packer raises at two pieces of one coordinate with different texts, or delivers the
first piece of every coordinate that has a text. -/
theorem wideBuild_delivers (lawful : rules.toUrlLibrary.Lawful)
    {spans : List (TranscriptEvidenceSpan Time)} (linked : ∀ span ∈ spans, span.Linked rules)
    (ranked : ∀ span ∈ spans, span.Ranked) (oneSource : OneSource spans) (query intent : String) :
    (∃ failure, wideBuild rules query intent spans = .error failure ∧
      Conflict rules (wideStream spans) failure) ∨
    ∃ result, wideBuild rules query intent spans = .ok result ∧ Agreed (wideStream spans) ∧
      WideDelivers rules (wideStream spans) result.spans := by
  have start : WideInvariant rules (placesOf spans oneSource) (wideStream []) ⟨[], [], false⟩ :=
    { delivers := ⟨rfl, List.forall_mem_nil _, List.forall_mem_nil _, List.forall_mem_nil _⟩
      placed := List.forall_mem_nil _
      seen := rfl
      last := by simp
      agreed := List.forall_mem_nil _ }
  have outcome := @foldlM_cases _ _ _ (widePlaceSpan rules) spans
    (fun done => WideInvariant rules (placesOf spans oneSource) (wideStream done))
    (fun done => Conflict rules (wideStream done))
    (fun done span state member good => widePlaceSpan_step lawful (linked span member)
      (placed_placesOf oneSource member) (ranked span member) good)
    (fun done more failure conflict => conflict.more more) [] ⟨[], [], false⟩ start
  rw [List.nil_append] at outcome
  rw [wideBuild]
  rcases outcome with ⟨final, isFinal, invariant⟩ | ⟨failure, raised, conflict⟩
  · exact .inr ⟨_, bind_eq_ok.mpr ⟨final, isFinal, rfl⟩, invariant.agreed, invariant.delivers⟩
  · exact .inl ⟨failure, bind_eq_error.mpr (.inl raised), conflict⟩

end Build

/-- Two windows that overlap. -/
theorem wideBuild_delivers_two :
    (∃ failure, wideBuild sampleRules "query" "intent" [sampleSpan [0, 1], sampleSpan [1, 2]] =
        .error failure ∧
      Conflict sampleRules (wideStream [sampleSpan [0, 1], sampleSpan [1, 2]]) failure) ∨
    ∃ result, wideBuild sampleRules "query" "intent" [sampleSpan [0, 1], sampleSpan [1, 2]] =
        .ok result ∧ Agreed (wideStream [sampleSpan [0, 1], sampleSpan [1, 2]]) ∧
      WideDelivers sampleRules (wideStream [sampleSpan [0, 1], sampleSpan [1, 2]]) result.spans := by
  refine wideBuild_delivers sampleRules_lawful ?_ ?_ (by decide +kernel) "query" "intent"
  · rw [List.forall_mem_cons, List.forall_mem_singleton]
    exact ⟨linked_sampleSpan [0, 1], linked_sampleSpan [1, 2]⟩
  · rw [List.forall_mem_cons, List.forall_mem_singleton]
    exact ⟨⟨⟨some 1, ""⟩, [], rfl, rfl⟩, ⟨⟨some 1, ""⟩, [], rfl, rfl⟩⟩

end Shiliu.Ask
