/-
Module: Shiliu.Evidence.RefreshRounds
Purpose: What one round of the targeted refresh does. It asks for the open aspects in order, up to the
  first answer that is unsafe and while tools remain; of what was merged the references that are known
  and the contributions are given by what was offered, not by how it was merged.
Trusted boundary: none
Main exports: throughFirst, askAspects_asked, knownAs, Contributed, mergeAll_cases, childDecision_ok
-/
import Shiliu.Evidence.Continuation

set_option linter.all false

namespace Shiliu.Evidence

open Shiliu.Library

/-! ## Asking -/

section Prefix

variable {Element : Type} (test : Element → Bool) (elements : List Element)

/-- The elements up to the first that passes a test, that one with them. -/
def throughFirst : List Element → List Element
  | [] => []
  | element :: rest => if test element then [element] else element :: throughFirst rest

theorem throughFirst_isPrefix : throughFirst test elements <+: elements := by
  induction elements with
  | nil => exact List.prefix_rfl
  | cons element rest inductionHypothesis =>
      rw [throughFirst]
      split
      · exact ⟨rest, rfl⟩
      · exact (List.prefix_cons_inj element).mpr inductionHypothesis

variable {test elements}

theorem throughFirst_of_none (none : ∀ element ∈ elements, test element = false) :
    throughFirst test elements = elements := by
  induction elements with
  | nil => rfl
  | cons element rest inductionHypothesis =>
      rw [List.forall_mem_cons] at none
      rw [throughFirst, none.1, if_neg Bool.false_ne_true, inductionHypothesis none.2]

end Prefix

section Asking

variable (refresh : RefreshCallback) (requirements : List EvidenceRequirement)
  (current : EvidenceDecision) (roundNumber : Nat)

/-- The query of an aspect. -/
def queryOf (aspectId : String) : String := (descriptionOf requirements aspectId).getD ""

/-- What the callback answers for an aspect. -/
def answerTo (aspectId : String) : RefreshObservation :=
  refresh aspectId (queryOf requirements aspectId) roundNumber

/-- The call of the callback for an aspect. -/
def callFor (aspectId : String) : RefreshCall :=
  ⟨current, aspectId, queryOf requirements aspectId, roundNumber⟩

/-- The answer is for another aspect, or stops the run. -/
def endsAsking (aspectId : String) : Bool :=
  let observation := answerTo refresh requirements roundNumber aspectId
  observation.aspectId ≠ aspectId ∨ (observationStop observation).isSome

/-- The aspects a round asks for. -/
def askedOf (aspects : List String) (remainingTools : Nat) : List String :=
  throughFirst (endsAsking refresh requirements roundNumber) (aspects.take remainingTools)

/-- What the loop over the aspects has done at its end. -/
structure Asked (aspects : List String) (asking : Asking) (ended : Asking × AskingEnd) : Prop where
  calls : ended.1.calls = asking.calls ++
    (askedOf refresh requirements roundNumber aspects asking.remainingTools).map
      (callFor requirements current roundNumber)
  remaining : ended.1.remainingTools = asking.remainingTools -
    (askedOf refresh requirements roundNumber aspects asking.remainingTools).length
  fingerprints : ended.1.queryFingerprints = asking.queryFingerprints ++
    (askedOf refresh requirements roundNumber aspects asking.remainingTools).map fun aspectId =>
      (aspectId, queryOf requirements aspectId)
  complete_iff : ended.2 = .complete ↔ aspects.length ≤ asking.remainingTools ∧
    ∀ aspectId ∈ aspects, endsAsking refresh requirements roundNumber aspectId = false
  observations : ended.2 = .complete → ended.1.observations =
    asking.observations ++ aspects.map (answerTo refresh requirements roundNumber)
  raises : ∀ failure, ended.2 = .raises failure →
    ∃ aspectId ∈ askedOf refresh requirements roundNumber aspects asking.remainingTools,
      (answerTo refresh requirements roundNumber aspectId).aspectId ≠ aspectId

variable {refresh requirements current roundNumber} {aspects : List String}

theorem askAspects_asked (asking : Asking)
    (described : ∀ aspectId ∈ aspects, ∃ query, descriptionOf requirements aspectId = some query)
    (once : aspects.Nodup)
    (fresh : ∀ aspectId ∈ aspects,
      (aspectId, queryOf requirements aspectId) ∉ asking.queryFingerprints) :
    Asked refresh requirements current roundNumber aspects asking
      (askAspects refresh requirements current roundNumber aspects asking) := by
  induction aspects generalizing asking with
  | nil => constructor <;> simp [askAspects, askedOf, throughFirst]
  | cons aspectId rest inductionHypothesis =>
      rw [List.forall_mem_cons] at described fresh
      obtain ⟨⟨query, isQuery⟩, describedRest⟩ := described
      rw [List.nodup_cons] at once
      have sameQuery : queryOf requirements aspectId = query := by rw [queryOf, isQuery]; rfl
      have isNew := fresh.1
      rw [sameQuery] at isNew
      cases isRemaining : asking.remainingTools with
      | zero => constructor <;> simp [askAspects, isRemaining, askedOf, throughFirst]
      | succ remaining =>
          simp only [askAspects, isRemaining, Nat.add_one_ne_zero, if_false, isQuery, if_neg isNew,
            Nat.add_sub_cancel]
          have isAnswer : answerTo refresh requirements roundNumber aspectId =
              refresh aspectId query roundNumber := by rw [answerTo, sameQuery]
          have asked : askedOf refresh requirements roundNumber (aspectId :: rest) (remaining + 1) =
              if endsAsking refresh requirements roundNumber aspectId then [aspectId]
              else aspectId :: askedOf refresh requirements roundNumber rest remaining := by
            rw [askedOf, List.take_succ_cons, throughFirst]
            rfl
          split
          next escaped =>
            have ends : endsAsking refresh requirements roundNumber aspectId = true := by
              simp [endsAsking, isAnswer, escaped]
            rw [if_pos ends] at asked
            constructor <;>
              simp [isRemaining, asked, callFor, sameQuery, ends, isAnswer, escaped]
          next answered =>
          split
          next stop failure isStop =>
            have ends : endsAsking refresh requirements roundNumber aspectId = true := by
              simp [endsAsking, isAnswer, isStop]
            rw [if_pos ends] at asked
            constructor <;> simp [isRemaining, asked, callFor, sameQuery, ends]
          next safe =>
            have goesOn : endsAsking refresh requirements roundNumber aspectId = false := by
              simpa [endsAsking, isAnswer, safe] using answered
            rw [if_neg (by simp [goesOn])] at asked
            have step := inductionHypothesis
              { asking with
                queryFingerprints := asking.queryFingerprints ++ [(aspectId, query)]
                remainingTools := remaining
                calls := asking.calls ++ [⟨current, aspectId, query, roundNumber⟩]
                observations := asking.observations ++ [refresh aspectId query roundNumber] }
              describedRest once.2 (by
                intro other member
                rw [List.mem_append, List.mem_singleton, Prod.mk.injEq]
                rintro (seen | ⟨rfl, -⟩)
                · exact fresh.2 other member seen
                · exact once.1 member)
            constructor
            · rw [step.calls, isRemaining, asked]
              simp [callFor, sameQuery]
            · rw [step.remaining, isRemaining, asked]
              simp
            · rw [step.fingerprints, isRemaining, asked]
              simp [sameQuery]
            · rw [step.complete_iff, isRemaining]
              simp [goesOn]
            · intro complete
              rw [step.observations complete]
              simp [isAnswer]
            · intro failure raised
              obtain ⟨other, member, escaped⟩ := step.raises failure raised
              rw [isRemaining, asked]
              exact ⟨other, List.mem_cons_of_mem _ member, escaped⟩

theorem askAspects_repeated {aspectId query : String} {rest : List String} {asking : Asking}
    (described : descriptionOf requirements aspectId = some query)
    (seen : (aspectId, query) ∈ asking.queryFingerprints) :
    ∃ stop failure, askAspects refresh requirements current roundNumber (aspectId :: rest) asking =
      (asking, .stops stop failure) := by
  rw [askAspects]
  split
  · exact ⟨_, _, rfl⟩
  · simp only [described, if_pos seen]
    exact ⟨_, _, rfl⟩

theorem askedOf_isPrefix (aspects : List String) (remainingTools : Nat) :
    askedOf refresh requirements roundNumber aspects remainingTools <+: aspects := by
  have taken := List.take_prefix remainingTools aspects
  exact (throughFirst_isPrefix _ _).trans taken

theorem askedOf_length (aspects : List String) (remainingTools : Nat) :
    (askedOf refresh requirements roundNumber aspects remainingTools).length ≤ remainingTools :=
  (throughFirst_isPrefix _ _).length_le.trans (List.length_take_le _ _)

theorem askedOf_of_complete {remainingTools : Nat} (enough : aspects.length ≤ remainingTools)
    (safe : ∀ aspectId ∈ aspects, endsAsking refresh requirements roundNumber aspectId = false) :
    askedOf refresh requirements roundNumber aspects remainingTools = aspects := by
  rw [askedOf, List.take_of_length_le enough]
  exact throughFirst_of_none safe

end Asking

/-! ## Merging -/

section Merging

/-- What is known under an id once references were offered: what was known before, else the first
eligible one that was offered. -/
def knownAs (known offered : List AuthorityReference) (referenceId : String) :
    Option AuthorityReference :=
  (lastWith AuthorityReference.referenceId known referenceId).or
    (offered.find? fun reference => eligible reference ∧ reference.referenceId = referenceId)

/-- A reference is offered that differs from what is known under its id by then. -/
def Drifts (known offered : List AuthorityReference) : Prop :=
  ∃ before reference after, offered = before ++ reference :: after ∧
    ∃ existing, knownAs known before reference.referenceId = some existing ∧ existing ≠ reference

/-- A contribution has the id once ids were dropped and references offered. -/
def Contributed (known : List AuthorityReference) (contributions : List EvidenceContribution)
    (dropped : List String) (offered : List AuthorityReference) (referenceId : String) : Prop :=
  referenceId ∈ contributions.map EvidenceContribution.referenceId ∨ referenceId ∈ dropped ∨
    ∃ reference ∈ offered, reference.referenceId = referenceId ∧
      (lastWith AuthorityReference.referenceId known referenceId = none ∨
        lastWith AuthorityReference.referenceId known referenceId = some reference ∧
          ¬eligible reference)

variable {known offered : List AuthorityReference} {reference : AuthorityReference}

theorem drifts_concat : Drifts known (offered ++ [reference]) ↔ Drifts known offered ∨
    ∃ existing, knownAs known offered reference.referenceId = some existing ∧
      existing ≠ reference := by
  constructor
  · rintro ⟨before, other, after, split, drift⟩
    rcases List.eq_nil_or_concat' after with rfl | ⟨rest, last, rfl⟩
    · obtain ⟨rfl, same⟩ := List.append_inj' split rfl
      cases same
      exact .inr drift
    · rw [← List.cons_append, ← List.append_assoc] at split
      obtain ⟨rfl, -⟩ := List.append_inj' split rfl
      exact .inl ⟨before, other, rest, rfl, drift⟩
  · rintro (⟨before, other, after, rfl, drift⟩ | drift)
    · exact ⟨before, other, after ++ [reference], by simp, drift⟩
    · exact ⟨offered, reference, [], rfl, drift⟩

theorem lastWith_concat {Entry Key : Type*} [DecidableEq Key] {keyOf : Entry → Key}
    (entries : List Entry) (entry : Entry) (key : Key) :
    lastWith keyOf (entries ++ [entry]) key =
      if keyOf entry = key then some entry else lastWith keyOf entries key := by
  rw [lastWith, List.reverse_append, List.reverse_singleton, List.singleton_append, List.find?_cons]
  by_cases same : keyOf entry = key <;> simp [same, lastWith]

/-- What was offered has left the merging with these references and contributions. -/
structure Merged (start : Merging) (dropped : List String) (offered : List AuthorityReference)
    (merging : Merging) : Prop where
  known : ∀ referenceId, lastWith AuthorityReference.referenceId merging.known referenceId =
    knownAs start.known offered referenceId
  contributed : ∀ referenceId,
    referenceId ∈ merging.contributions.map EvidenceContribution.referenceId ↔
      Contributed start.known start.contributions dropped offered referenceId
  drift : merging.lineageDrift = true ↔ Drifts start.known offered

/-- What neither dropped ids nor references change. -/
structure KeepsRest (before after : Merging) : Prop where
  coverage : after.coverage = before.coverage
  conflicts : after.conflicts = before.conflicts
  searchRefs : after.searchRefs = before.searchRefs

theorem KeepsRest.trans {first second third : Merging} (one : KeepsRest first second)
    (two : KeepsRest second third) : KeepsRest first third :=
  ⟨two.coverage.trans one.coverage, two.conflicts.trans one.conflicts,
    two.searchRefs.trans one.searchRefs⟩

variable {referenceId : String} {existing : AuthorityReference}

theorem contribute_ok {merging : Merging} {kind : ContributionKind} {aspectId : String}
    (named : IsReferenceId referenceId) :
    merging.contribute kind referenceId aspectId = .ok { merging with
      contributions := merging.contributions ++ [⟨kind, referenceId, [aspectId]⟩] } := by
  simp [Merging.contribute, evidenceContribution, ensure, named, bind, Except.bind, pure, Except.pure]

variable {start merging : Merging} {dropped : List String} (aspectId : String)

theorem Merged.drop (merged : Merged start dropped offered merging)
    (named : IsReferenceId referenceId) :
    ∃ next, mergeDropped aspectId merging referenceId = .ok next ∧
      Merged start (dropped ++ [referenceId]) offered next ∧ KeepsRest merging next := by
  refine ⟨_, contribute_ok named, ⟨merged.known, ?_, merged.drift⟩, rfl, rfl, rfl⟩
  · intro other
    simp only [List.map_append, List.mem_append, merged.contributed, Contributed, List.map_cons,
      List.map_nil, List.mem_singleton, or_assoc]
    rw [or_comm (b := other = referenceId)]

theorem Merged.contributed_of_known (merged : Merged start dropped offered merging)
    (unknown : lastWith AuthorityReference.referenceId start.known referenceId = none)
    (isKnown : knownAs start.known offered referenceId = some existing) :
    referenceId ∈ merging.contributions.map EvidenceContribution.referenceId := by
  rw [knownAs, unknown, Option.none_or] at isKnown
  have found := List.find?_some isKnown
  simp only [decide_eq_true_eq] at found
  exact (merged.contributed _).mpr
    (.inr (.inr ⟨existing, List.mem_of_find?_eq_some isKnown, found.2, .inl unknown⟩))

theorem knownAs_concat (referenceId : String) :
    knownAs known (offered ++ [reference]) referenceId = (knownAs known offered referenceId).or
      (if eligible reference ∧ reference.referenceId = referenceId then some reference else none) := by
  rw [knownAs, List.find?_append, knownAs, Option.or_assoc]
  by_cases both : eligible reference ∧ reference.referenceId = referenceId <;> simp [both]

theorem knownAs_concat_of_some
    (isKnown : knownAs known offered reference.referenceId = some existing) (referenceId : String) :
    knownAs known (offered ++ [reference]) referenceId = knownAs known offered referenceId := by
  rw [knownAs_concat]
  by_cases same : reference.referenceId = referenceId
  · rw [← same, isKnown, Option.some_or]
  · rw [if_neg fun both => same both.2, Option.or_none]

theorem contributed_concat {contributions : List EvidenceContribution} :
    Contributed known contributions dropped (offered ++ [reference]) referenceId ↔
      Contributed known contributions dropped offered referenceId ∨
        reference.referenceId = referenceId ∧
          (lastWith AuthorityReference.referenceId known referenceId = none ∨
            lastWith AuthorityReference.referenceId known referenceId = some reference ∧
              ¬eligible reference) := by
  simp only [Contributed, List.mem_append, List.mem_singleton, or_and_right, exists_or,
    exists_eq_left, or_assoc]

theorem Merged.contributed_same (merged : Merged start dropped offered merging)
    (isKnown : knownAs start.known offered reference.referenceId = some existing)
    (kept : existing = reference → eligible reference) (referenceId : String) :
    referenceId ∈ merging.contributions.map EvidenceContribution.referenceId ↔
      Contributed start.known start.contributions dropped (offered ++ [reference]) referenceId := by
  rw [contributed_concat, ← merged.contributed]
  refine ⟨.inl, ?_⟩
  rintro (already | ⟨rfl, unknown | ⟨isStart, bad⟩⟩)
  · exact already
  · exact merged.contributed_of_known unknown isKnown
  · rw [knownAs, isStart, Option.some_or, Option.some.injEq] at isKnown
    exact absurd (kept isKnown.symm) bad

theorem Merged.contributed_more (merged : Merged start dropped offered merging)
    (added : ∀ existing, knownAs start.known offered reference.referenceId = some existing →
      existing = reference ∧ ¬eligible reference) (referenceId : String) :
    referenceId ∈ merging.contributions.map EvidenceContribution.referenceId ∨
        referenceId = reference.referenceId ↔
      Contributed start.known start.contributions dropped (offered ++ [reference]) referenceId := by
  rw [contributed_concat, ← merged.contributed]
  refine or_congr_right ⟨?_, fun same => same.1.symm⟩
  rintro rfl
  refine ⟨rfl, ?_⟩
  cases isStart : lastWith AuthorityReference.referenceId start.known reference.referenceId with
  | none => exact .inl rfl
  | some existing =>
      obtain ⟨rfl, bad⟩ := added existing (by rw [knownAs, isStart, Option.some_or])
      exact .inr ⟨rfl, bad⟩

theorem Merged.offer (merged : Merged start dropped offered merging)
    (eligibles : List AuthorityReference) (named : IsReferenceId reference.referenceId) :
    ∃ next, mergeReference aspectId (merging, eligibles) reference = .ok next ∧
      Merged start dropped (offered ++ [reference]) next.1 ∧ KeepsRest merging next.1 := by
  have isKnown := merged.known reference.referenceId
  simp only [mergeReference, isKnown]
  cases isExisting : knownAs start.known offered reference.referenceId with
  | some existing =>
      have known := fun referenceId =>
        (merged.known referenceId).trans (knownAs_concat_of_some isExisting referenceId).symm
      by_cases same : existing = reference
      · subst same
        have drift : merging.lineageDrift = true ↔ Drifts start.known (offered ++ [existing]) := by
          simp [merged.drift, drifts_concat, isExisting]
        by_cases good : eligible existing = true
        · refine ⟨_, by simp [good]; rfl,
            ⟨?_, merged.contributed_same isExisting fun _ => good, drift⟩, rfl, rfl, rfl⟩
          intro referenceId
          rw [lastWith_concat, ← known]
          split
          · next same => rw [← same, isKnown, isExisting]
          · rfl
        · refine ⟨_, by simp [good, contribute_ok named, bind, Except.bind]; rfl,
            ⟨known, ?_, drift⟩, rfl, rfl, rfl⟩
          intro referenceId
          rw [← merged.contributed_more (fun other isOther => ?_)]
          · simp
          · exact ⟨Option.some.inj (isOther.symm.trans isExisting), good⟩
      · refine ⟨_, by simp [same]; rfl, ⟨known,
          merged.contributed_same isExisting fun equal => absurd equal same, ?_⟩, rfl, rfl, rfl⟩
        simp [drifts_concat, isExisting, same]
  | none =>
      have drift : merging.lineageDrift = true ↔ Drifts start.known (offered ++ [reference]) := by
        simp [merged.drift, drifts_concat, isExisting]
      have contributed := @Merged.contributed_more _ reference _ _ _ merged (by simp [isExisting])
      by_cases good : eligible reference = true
      · refine ⟨_, by simp [good, contribute_ok named, bind, Except.bind]; rfl,
          ⟨?_, ?_, drift⟩, rfl, rfl, rfl⟩
        · intro referenceId
          rw [lastWith_concat, knownAs_concat, merged.known]
          by_cases same : reference.referenceId = referenceId
          · subst same
            simp [isExisting, good]
          · simp [same]
        · intro referenceId
          rw [← contributed]
          simp
      · refine ⟨_, by simp [good, contribute_ok named, bind, Except.bind]; rfl,
          ⟨?_, ?_, drift⟩, rfl, rfl, rfl⟩
        · intro referenceId
          rw [knownAs_concat, merged.known, if_neg fun both => good both.1, Option.or_none]
        · intro referenceId
          rw [← contributed]
          simp

variable {observation : RefreshObservation}

/-- The ids an observation drops can be contributed. -/
def DropsNamed (observation : RefreshObservation) : Prop :=
  ∀ referenceId ∈ observation.droppedReferenceIds, IsReferenceId referenceId

theorem Merged.drops (merged : Merged start dropped offered merging) {ids : List String}
    (named : ∀ referenceId ∈ ids, IsReferenceId referenceId) :
    ∃ next, ids.foldlM (mergeDropped aspectId) merging = .ok next ∧
      Merged start (dropped ++ ids) offered next ∧ KeepsRest merging next := by
  have ran := @foldlM_ok _ _ _ (mergeDropped aspectId) ids
    (fun done next => Merged start (dropped ++ done) offered next ∧ KeepsRest merging next)
    (fun done referenceId state member holds => by
      obtain ⟨good, kept⟩ := holds
      obtain ⟨next, isNext, goodNext, keptNext⟩ :=
        good.drop aspectId (named referenceId member)
      exact ⟨next, isNext, by rwa [← List.append_assoc], kept.trans keptNext⟩)
    [] merging ⟨by rwa [List.append_nil], rfl, rfl, rfl⟩
  exact ran

theorem Merged.offers (merged : Merged start dropped offered merging)
    {references : List AuthorityReference}
    (named : ∀ reference ∈ references, IsReferenceId reference.referenceId) :
    ∃ next, references.foldlM (mergeReference aspectId) (merging, []) = .ok next ∧
      Merged start dropped (offered ++ references) next.1 ∧ KeepsRest merging next.1 := by
  have ran := @foldlM_ok _ _ _ (mergeReference aspectId) references
    (fun done next => Merged start dropped (offered ++ done) next.1 ∧ KeepsRest merging next.1)
    (fun done reference state member holds => by
      obtain ⟨good, kept⟩ := holds
      obtain ⟨next, isNext, goodNext, keptNext⟩ :=
        good.offer aspectId state.2 (named reference member)
      exact ⟨next, isNext, by rwa [← List.append_assoc], kept.trans keptNext⟩)
    [] (merging, []) ⟨by rwa [List.append_nil], rfl, rfl, rfl⟩
  exact ran

/-- What the observations that were merged have left. -/
structure MergedAll (start : Merging) (done : List RefreshObservation) (merging : Merging) :
    Prop where
  merged : Merged start (done.flatMap RefreshObservation.droppedReferenceIds)
    (done.flatMap RefreshObservation.authorityReferences) merging
  conflicts : merging.conflicts = start.conflicts ++ done.flatMap RefreshObservation.conflicts
  searchRefs : merging.searchRefs =
    start.searchRefs ++ done.flatMap RefreshObservation.searchExecutions
  aspects : merging.coverage.map AspectCoverage.aspectId =
    start.coverage.map AspectCoverage.aspectId
  untouched : ∀ item ∈ merging.coverage,
    item.aspectId ∉ done.map RefreshObservation.aspectId → item ∈ start.coverage

theorem mergeDropped_error {ids : List String} (merging : Merging)
    (unnamed : ∃ referenceId ∈ ids, ¬IsReferenceId referenceId) :
    ∃ failure, ids.foldlM (mergeDropped aspectId) merging = .error failure := by
  induction ids generalizing merging with
  | nil => simp at unnamed
  | cons first rest inductionHypothesis =>
      rw [List.foldlM_cons]
      by_cases named : IsReferenceId first
      · rw [mergeDropped, contribute_ok named]
        apply inductionHypothesis
        obtain ⟨referenceId, member, bad⟩ := unnamed
        rcases List.mem_cons.mp member with rfl | later
        · exact absurd named bad
        · exact ⟨referenceId, later, bad⟩
      · refine ⟨.invalid "reference_id", ?_⟩
        simp [mergeDropped, Merging.contribute, evidenceContribution, ensure, named, bind,
          Except.bind]

theorem dictValues_ne_nil {Entry : Type} {keyOf : Entry → String} {entries : List Entry}
    (nonempty : entries ≠ []) : dictValues keyOf entries ≠ [] := by
  obtain ⟨entry, member⟩ := List.exists_mem_of_ne_nil entries nonempty
  have isKey : keyOf entry ∈ entries.map keyOf := List.mem_map_of_mem member
  obtain ⟨last, isLast⟩ := exists_lastWith.mpr isKey
  exact List.ne_nil_of_mem (List.mem_filterMap.mpr ⟨_, mem_distinct.mpr isKey, isLast⟩)

theorem refreshedCoverage_ok (references : List AuthorityReference) (status : CoverageStatus)
    (claimed : status = .covered ∨ status = .partiallyCovered → references ≠ []) :
    ∃ coverage, refreshedCoverage aspectId status references = .ok coverage ∧
      coverage.aspectId = aspectId :=
  ⟨_, dif_pos claimed, rfl⟩

theorem MergedAll.observe {done : List RefreshObservation} (before : MergedAll start done merging)
    (covered : observation.aspectId ∈ start.coverage.map AspectCoverage.aspectId)
    (named : DropsNamed observation) :
    ∃ next, mergeObservation merging observation = .ok next ∧
      MergedAll start (done ++ [observation]) next := by
  obtain ⟨dropping, isDropping, dropped, keptDropping⟩ :=
    before.merged.drops observation.aspectId named
  obtain ⟨⟨offering, eligibles⟩, isOffering, offered, keptOffering⟩ :=
    dropped.offers observation.aspectId observation.references_named
  have kept : KeepsRest merging offering := keptDropping.trans keptOffering
  rw [← before.aspects] at covered
  obtain ⟨item, isItem, sameAspect⟩ := List.mem_map.mp covered
  have found : (offering.coverage.find? fun item =>
      item.aspectId = observation.aspectId).isSome = true := by
    rw [kept.coverage]
    exact List.find?_isSome.mpr ⟨item, isItem, decide_eq_true sameAspect⟩
  obtain ⟨prior, isPrior⟩ := Option.isSome_iff_exists.mp found
  let combined := dictValues AuthorityReference.referenceId (prior.authorityReferences ++ eligibles)
  obtain ⟨coverage, isCoverage, aspect⟩ :=
    refreshedCoverage_ok observation.aspectId combined
      (if observation.aspectComplete ∧ eligibles ≠ [] then .covered
        else if combined ≠ [] then .partiallyCovered else .open_) (by
      split
      next complete => exact fun _ => dictValues_ne_nil (by simp [complete.2])
      split
      next nonempty => exact fun _ => nonempty
      · simp)
  refine ⟨_, by
    simp only [mergeObservation, isDropping, isOffering, isPrior, bind, Except.bind]
    rw [isCoverage]
    rfl, ?_⟩
  constructor
  · simp only [List.flatMap_append, List.flatMap_singleton]
    exact ⟨offered.known, offered.contributed, offered.drift⟩
  · simp [kept.conflicts, before.conflicts]
  · simp [kept.searchRefs, before.searchRefs]
  · rw [← before.aspects, ← kept.coverage, List.map_map]
    refine List.map_congr_left fun item _ => ?_
    rw [Function.comp_apply]
    split
    next same => rw [aspect, same]
    · rfl
  · intro item member apart
    rw [List.map_append, List.mem_append, not_or] at apart
    obtain ⟨other, isOther, same⟩ := List.mem_map.mp member
    split at same
    · rw [← same, aspect] at apart
      exact absurd (List.mem_singleton_self _) apart.2
    · rw [kept.coverage, same] at isOther
      exact before.untouched item isOther apart.1

/-- Merging goes through exactly when every id that was dropped can be contributed. -/
theorem mergeAll_cases {observations : List RefreshObservation}
    (covered : ∀ observation ∈ observations,
      observation.aspectId ∈ start.coverage.map AspectCoverage.aspectId)
    (clear : start.lineageDrift = false) :
    ((∀ observation ∈ observations, DropsNamed observation) ∧
        ∃ final, observations.foldlM mergeObservation start = .ok final ∧
          MergedAll start observations final) ∨
      (¬∀ observation ∈ observations, DropsNamed observation) ∧
        ∃ failure, observations.foldlM mergeObservation start = .error failure := by
  have begins : MergedAll start [] start := by
    refine ⟨⟨?_, ?_, ?_⟩, by simp, by simp, rfl, fun item member _ => member⟩
    · simp [knownAs]
    · simp [Contributed]
    · simp [clear, Drifts]
  have ran := @foldlM_cases _ _ _ mergeObservation observations
    (fun done merging => MergedAll start done merging ∧ ∀ observation ∈ done, DropsNamed observation)
    (fun done _ => ∃ observation ∈ done, ¬DropsNamed observation)
    (fun done observation merging member holds => by
      obtain ⟨before, named⟩ := holds
      by_cases namedHere : DropsNamed observation
      · obtain ⟨next, isNext, after⟩ := before.observe (covered observation member) namedHere
        refine .inl ⟨next, isNext, after, fun other isOther => ?_⟩
        rcases List.mem_append.mp isOther with earlier | last
        · exact named other earlier
        · rwa [List.mem_singleton.mp last]
      · obtain ⟨failure, raised⟩ := mergeDropped_error observation.aspectId merging
          (by simpa [DropsNamed] using namedHere)
        exact .inr ⟨failure, by simp [mergeObservation, raised, bind, Except.bind],
          observation, by simp, namedHere⟩)
    (fun done more _ fails => by
      obtain ⟨observation, member, bad⟩ := fails
      exact ⟨observation, List.mem_append_left more member, bad⟩)
    [] start ⟨begins, by simp⟩
  rw [List.nil_append] at ran
  rcases ran with ⟨final, isFinal, merged, named⟩ | ⟨failure, raised, observation, member, bad⟩
  · exact .inl ⟨named, final, isFinal, merged⟩
  · exact .inr ⟨fun named => bad (named observation member), failure, raised⟩

end Merging

/-! ## The decision of a round -/

section Decision

variable {digests : ContinuationDigests} {current child : EvidenceDecision} {roundNumber : Nat}
  {recordedAt : AwareTime} {merged : Merging}

theorem childDecision_stands
    (decided : childDecision digests current roundNumber recordedAt merged = .ok child) :
    DecisionStands child ∧ ∀ item ∈ child.fields.coverage, item ∈ merged.coverage := by
  simp only [childDecision, bind_eq_ok, mapError_eq_ok] at decided
  obtain ⟨check, -, value, isValue, created⟩ := decided
  refine ⟨.of_created created, fun item member => ?_⟩
  obtain ⟨instant, -, -, -, rfl⟩ := createEvidenceDecision_ok.mp created
  have isItem := (normalized_coverage_perm value).mem_iff.mp member
  rw [evidenceDecisionInput_fields isValue] at isItem
  obtain ⟨requirement, -, found⟩ := List.mem_filterMap.mp isItem
  exact List.mem_of_find?_eq_some found

/-- No decision that has this parent gets its id. -/
def NoSelfParent (digests : ContinuationDigests) (parent : String) : Prop :=
  ∀ inputHash authorityHash, digests.decisionId (some parent) inputHash authorityHash ≠ parent

/-- The number of the conflicts and the times allow a new decision. -/
structure MayDecide (current : EvidenceDecision) (recordedAt : AwareTime)
    (conflicts : List ConflictObservation) : Prop where
  bounded : conflicts.length ≤ maxConflicts
  checked : current.fields.libraryFreshness.recordedCheckTime.instant ≤ recordedAt.instant
  observed : ∀ conflict ∈ conflicts, conflict.observedAt.instant ≤ recordedAt.instant

theorem childFields_valid (stands : DecisionStands current)
    (advice : current.fields.semanticAdvice.length ≤ maxSemanticAdvice)
    (aspects : merged.coverage.map AspectCoverage.aspectId =
      current.fields.coverage.map AspectCoverage.aspectId)
    (bounded : merged.conflicts.length ≤ maxConflicts) (check : CorpusNewMaterialCheck) :
    (childFields current merged check).Valid := by
  have found : (childFields current merged check).coverage.map AspectCoverage.aspectId =
      current.fields.requirements.map EvidenceRequirement.aspectId := by
    refine map_filterMap_eq fun requirement member => ?_
    have covered : requirement.aspectId ∈ merged.coverage.map AspectCoverage.aspectId := by
      rw [aspects, stands.same_aspects]
      exact List.mem_map_of_mem member
    obtain ⟨item, isItem, same⟩ := List.mem_map.mp covered
    have isSome : (merged.coverage.find? fun item =>
        item.aspectId = requirement.aspectId).isSome = true :=
      List.find?_isSome.mpr ⟨item, isItem, decide_eq_true same⟩
    obtain ⟨other, isOther⟩ := Option.isSome_iff_exists.mp isSome
    exact ⟨other, isOther, by simpa using List.find?_some isOther⟩
  exact {
    requirements := stands.requirements
    requirements_unique := stands.requirements_unique
    coverage_unique := found ▸ stands.requirements_unique
    same_aspects := by
      rw [found]
      exact ⟨List.Subset.refl _, List.Subset.refl _⟩
    inferred := stands.inferred
    conflicts := bounded
    semanticAdvice := advice }

theorem childDecision_ok (stands : DecisionStands current)
    (advice : current.fields.semanticAdvice.length ≤ maxSemanticAdvice)
    (aspects : merged.coverage.map AspectCoverage.aspectId =
      current.fields.coverage.map AspectCoverage.aspectId) (foreign : NoSelfParent digests current.decisionId) :
    (∃ child, childDecision digests current roundNumber recordedAt merged = .ok child) ↔
      MayDecide current recordedAt merged.conflicts := by
  constructor
  · rintro ⟨child, decided⟩
    simp only [childDecision, bind_eq_ok, mapError_eq_ok] at decided
    obtain ⟨check, isCheck, value, isValue, created⟩ := decided
    obtain ⟨instant, isInstant, timely, -, -⟩ := createEvidenceDecision_ok.mp created
    cases isInstant
    simp only [validateTimeCausality, ensure_then_eq_ok, ensure_eq_ok, List.all_eq_true,
      decide_eq_true_eq, evidenceDecisionInput_fields isValue] at timely
    refine ⟨(evidenceDecisionInput_ok.mp ⟨value, isValue⟩).conflicts, ?_, timely.2⟩
    rw [roundCheck] at isCheck
    split at isCheck
    next inOrder => exact inOrder
    · cases isCheck
  · intro may
    obtain ⟨check, isCheck, recorded⟩ : ∃ check, roundCheck current recordedAt
        (digests.queryHash roundNumber current.openAspects) merged.newIds = .ok check ∧
          check.recordedCheckTime = recordedAt := ⟨_, dif_pos may.checked, rfl⟩
    obtain ⟨value, isValue⟩ := evidenceDecisionInput_ok.mpr
      (childFields_valid stands advice aspects may.bounded check)
    have fields := evidenceDecisionInput_fields isValue
    have timely : validateTimeCausality value.toDecisionFields recordedAt = .ok () := by
      simp only [validateTimeCausality, ensure_then_eq_ok, ensure_eq_ok, List.all_eq_true,
        decide_eq_true_eq, fields]
      exact ⟨le_of_eq (congrArg AwareTime.instant recorded), may.observed⟩
    have parent : value.parentDecisionId = some current.decisionId := by rw [fields]; rfl
    refine ⟨_, bind_eq_ok.mpr ⟨check, isCheck, bind_eq_ok.mpr ⟨value, mapError_eq_ok.mpr isValue,
      mapError_eq_ok.mpr (createEvidenceDecision_ok.mpr ⟨recordedAt, rfl, timely, ?_, rfl⟩)⟩⟩⟩
    intro same
    rw [parent, Option.some_inj] at same
    have isParent : (normalized value.toDecisionFields).parentDecisionId = some current.decisionId :=
      (normalized_parentDecisionId _).trans parent
    simp only [decisionBody, isParent] at same
    exact foreign _ _ same.symm

end Decision

end Shiliu.Evidence
