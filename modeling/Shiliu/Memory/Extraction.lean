/-
Module: Shiliu.Memory.Extraction
Purpose: What an extracted proposal can do to the memories of the user. It goes through the user's
  own write paths, so its frame is shown across the three of them: a duplicate only has its sources
  merged, a revision reaches an active memory nobody pinned or edited, and an addition is a row of
  its own.
Trusted boundary: none
Main exports: SameFacts, Revised, LeavesRows, applyExtracted_leaves, extraction_respects_user
-/
import Shiliu.Memory.Forgetting

namespace Shiliu.Memory

open Shiliu.Library Shiliu.Storage

/-! ## The frame -/

/-- The user has a say in this memory, or it is not in use. -/
def MemoryFacts.isProtected (row : MemoryFacts) : Bool :=
  row.pinned || row.userEdited || row.status ≠ .active

/-- Everything about a memory but the messages it is backed by. -/
structure SameFacts (before after : MemoryRow) : Prop where
  text : after.text = before.text
  kind : after.kind = before.kind
  subjectKey : after.subjectKey = before.subjectKey
  scope : after.scope = before.scope
  status : after.status = before.status
  pinned : after.pinned = before.pinned
  userEdited : after.userEdited = before.userEdited
  origin : after.origin = before.origin
  validFrom : after.validFrom = before.validFrom
  expiresAt : after.expiresAt = before.expiresAt
  validityNote : after.validityNote = before.validityNote
  validityTimezone : after.validityTimezone = before.validityTimezone
  timeContext : after.timeContext = before.timeContext
  version : after.version = before.version

theorem SameFacts.refl (row : MemoryRow) : SameFacts row row := by
  constructor <;> rfl

/-- A memory that was written by an extraction: nobody's edit, with the origin and the pin it had. -/
structure Revised (before after : MemoryRow) : Prop where
  userEdited : after.userEdited = false
  origin : after.origin = before.origin
  pinned : after.pinned = before.pinned

/-- A memory that an extraction has created. -/
structure CreatedByExtraction (row : MemoryRow) : Prop where
  userEdited : row.userEdited = false
  origin : row.origin = .extracted
  pinned : row.pinned = false

/-- What an extraction leaves of each memory: one that was there keeps its facts, or is revised if
it was not protected; one that was not there is an extracted one. -/
structure LeavesRows (before after : MemoryStore) : Prop where
  kept : ∀ row ∈ before.memories, ∃ later, after.memories.lookup row.id = some later ∧
    (SameFacts row later ∨ (row.isProtected = false ∧ Revised row later))
  created : ∀ later ∈ after.memories, before.memories.lookup later.id = none →
    CreatedByExtraction later

theorem LeavesRows.refl (store : MemoryStore) : LeavesRows store store where
  kept := fun row member => ⟨row, Table.lookup_of_mem member, .inl (.refl row)⟩
  created := by
    intro later member absent
    cases (Table.lookup_of_mem member).symm.trans absent

theorem LeavesRows.of_sets {before after : MemoryStore} {row : MemoryRow}
    (sets : SetsRow before.memories after.memories row)
    (present : ∀ old, before.memories.lookup row.key = some old →
      SameFacts old row ∨ (old.isProtected = false ∧ Revised old row))
    (new : before.memories.lookup row.key = none → CreatedByExtraction row) :
    LeavesRows before after where
  kept := by
    intro old member
    have found := sets old.id
    have isOld := Table.lookup_of_mem member
    by_cases same : old.id = row.key
    · rw [if_pos same] at found
      exact ⟨row, found, present old (same ▸ isOld)⟩
    · rw [if_neg same] at found
      exact ⟨old, found.trans isOld, .inl (.refl old)⟩
  created := by
    intro later member absent
    rcases sets.mem member with rfl | ⟨earlier, _⟩
    · exact new absent
    · cases (Table.lookup_of_mem earlier).symm.trans absent

/-! ## The three ends of a proposal -/

section Ends

variable {rules : TextRules} {store : MemoryStore} {now : IsoTime} {memoryId : String}
  {heapOrder : String → Nat} {guard : Except Failure Unit}

theorem sameFacts_mergedRow (request : SaveRequest) (row : MemoryRow) :
    SameFacts row (mergedRow request row) := by
  unfold mergedRow
  simp only
  split <;> constructor <;> rfl

theorem saveExplicit_leaves {request : SaveRequest} {after : MemoryStore} {facts : MemoryFacts}
    (extracted : request.origin = .extracted) (unpinned : request.pinned = false)
    (returned : saveExplicit rules store now memoryId heapOrder guard request =
      .ok (after, facts)) : LeavesRows store after := by
  obtain ⟨target, isTarget, committed⟩ := map_eq_ok.mp returned
  obtain rfl := congrArg Prod.fst committed
  obtain ⟨prior, rfl⟩ | ⟨scope, text, validity, temporal, row, isRow, rfl⟩ |
    ⟨scope, kind, text, subjectKey, validity, temporal, status, absent, rfl⟩ :=
      saveTarget_ok isTarget
  · exact .refl store
  · have member := (duplicateOf_spec isRow).1
    have keeps : adopts request row = false := by simp [adopts, extracted]
    simp only [commitSave, keeps, Bool.false_eq_true, if_false]
    refine .of_sets (mergeDuplicate_sets member) ?_ ?_
    · intro old isOld
      rw [mergedRow_key, show row.key = row.id from rfl] at isOld
      obtain rfl := Option.some_inj.mp ((Table.lookup_of_mem member).symm.trans isOld)
      exact .inl (sameFacts_mergedRow request row)
    · intro missing
      rw [mergedRow_key] at missing
      cases (Table.lookup_of_mem member).symm.trans missing
  · refine .of_sets (createMemory_sets absent) ?_ ?_
    · intro old isOld
      have sameKey : (projectedRow rules request (createdRow now memoryId request scope kind text
          subjectKey validity temporal (store.memoryEpoch + 1))).key = memoryId := by
        unfold projectedRow
        split <;> rfl
      rw [sameKey, absent] at isOld
      cases isOld
    · intro _
      unfold projectedRow
      split <;> exact ⟨by simp [createdRow, ftsColumns, extracted],
        by simp [createdRow, ftsColumns, extracted], by simp [createdRow, ftsColumns, unpinned]⟩

theorem correct_leaves {request : CorrectRequest} {after : MemoryStore} {facts : MemoryFacts}
    {target : MemoryRow} (isTarget : store.memories.lookup request.memoryId = some target)
    (free : target.isProtected = false) (unedited : request.userEdited = false)
    (returned : correct rules store now guard request = .ok (after, facts)) :
    LeavesRows store after := by
  obtain ⟨settledOn, isSettled, committed⟩ := map_eq_ok.mp returned
  obtain rfl := congrArg Prod.fst committed
  cases settledOn with
  | replay prior => exact .refl store
  | change row corrected =>
      obtain ⟨text, passed⟩ := correctTarget_change isSettled
      obtain ⟨isRow, live, subjectKey, kind, validity, temporal, rfl⟩ := checkCorrection_ok passed
      obtain rfl := Option.some_inj.mp (isTarget.symm.trans isRow)
      have member := Table.mem_of_lookup isRow
      refine .of_sets (commitCorrection_sets member rfl) ?_ ?_
      · intro old isOld
        obtain rfl := Option.some_inj.mp ((Table.lookup_of_mem member).symm.trans isOld)
        exact .inr ⟨free, unedited, rfl, rfl⟩
      · intro missing
        cases (Table.lookup_of_mem member).symm.trans missing

/-- The inner call of a proposal that was let pass. -/
theorem extractTarget_cases {request : ExtractRequest} {target : ExtractTarget}
    (found : extractTarget rules store request = .ok target) :
    (∃ result, target = .settled result) ∨
      (∃ inner row, target = .revise inner ∧ store.memories.lookup inner.memoryId = some row ∧
        row.isProtected = false ∧ inner.userEdited = false) ∨
      ∃ inner, target = .add inner ∧ inner.origin = .extracted ∧ inner.pinned = false := by
  rcases extractTarget_ok found with settled | ⟨scope, text, subjectKey, -, -, rfl⟩
  · exact .inl settled
  unfold proposalTarget
  split
  · split
    · exact .inl ⟨none, rfl⟩
    · next row isRow =>
        split
        · next allowed =>
            obtain ⟨id, -, isRow⟩ := Option.bind_eq_some_iff.mp isRow
            simp only [revisable, decide_eq_true_eq, Bool.not_eq_true'] at allowed
            obtain ⟨-, active, unpinned, unedited, -⟩ := allowed
            refine .inr (.inl ⟨_, row, rfl, ?_, ?_, rfl⟩)
            · show store.memories.lookup row.id = some row
              exact Table.lookup_of_mem (Table.mem_of_lookup isRow)
            · simp [MemoryFacts.isProtected, active, unpinned, unedited]
        · exact .inl ⟨none, rfl⟩
  · exact .inr (.inr ⟨_, rfl, rfl, rfl⟩)

theorem applyExtracted_leaves {request : ExtractRequest} {after : MemoryStore}
    {result : Option MemoryFacts}
    (returned : applyExtracted rules store now memoryId heapOrder request = .ok (after, result)) :
    LeavesRows store after := by
  obtain ⟨target, found, applied⟩ := bind_eq_ok.mp returned
  rcases extractTarget_cases found with
    ⟨settled, rfl⟩ | ⟨inner, row, rfl, isRow, free, unedited⟩ | ⟨inner, rfl, extracted, unpinned⟩
  · cases applied
    exact .refl store
  · obtain ⟨done, corrected, same⟩ := map_eq_ok.mp applied
    obtain rfl := congrArg Prod.fst same
    exact correct_leaves isRow free unedited corrected
  · obtain ⟨done, saved, same⟩ := map_eq_ok.mp applied
    obtain rfl := congrArg Prod.fst same
    exact saveExplicit_leaves extracted unpinned saved

end Ends

/-- The automatic policy is off, or it was switched since the extraction was planned. -/
def PolicyMoved (store : MemoryStore) (request : ExtractRequest) : Prop :=
  store.autoMemoryEnabled = false ∨
    ∃ generation, request.expectedAutoGeneration = some generation ∧
      generation ≠ store.autoMemoryGeneration

/-- Whatever is proposed, a memory that is pinned, edited or not active keeps all but its sources,
nothing is written under a policy that is off or has moved on, and what is revised or created is
nobody's edit: a revision keeps the origin and the pin, a creation is extracted and unpinned. -/
theorem extraction_respects_user (rules : TextRules) (store : MemoryStore) (now : IsoTime)
    (memoryId : String) (heapOrder : String → Nat) (request : ExtractRequest) :
    (∀ row ∈ store.memories, row.isProtected = true → ∃ later,
      (settled store (applyExtracted rules store now memoryId heapOrder request)).memories.lookup
        row.id = some later ∧ SameFacts row later) ∧
    (PolicyMoved store request →
      settled store (applyExtracted rules store now memoryId heapOrder request) = store) ∧
    LeavesRows store (settled store (applyExtracted rules store now memoryId heapOrder request)) := by
  have leaves : LeavesRows store
      (settled store (applyExtracted rules store now memoryId heapOrder request)) :=
    settled_of_ok (.refl store) fun _ _ returned => applyExtracted_leaves returned
  refine ⟨?_, ?_, leaves⟩
  · intro row member protected_
    obtain ⟨later, isLater, same | ⟨free, -⟩⟩ := leaves.kept row member
    · exact ⟨later, isLater, same⟩
    · rw [protected_] at free
      cases free
  · intro moved
    have refused : policyAllows store request.expectedAutoGeneration = false := by
      rcases moved with off | ⟨generation, expected, differs⟩
      · simp [policyAllows, off]
      · simp [policyAllows, expected, differs]
    refine @settled_of_ok store _ (fun after => after = store) rfl _ fun after result returned => ?_
    obtain ⟨target, found, applied⟩ := bind_eq_ok.mp returned
    rcases extractTarget_ok found with ⟨settled, rfl⟩ | ⟨_, _, _, allowed, _⟩
    · cases applied
      rfl
    · rw [refused] at allowed
      cases allowed

end Shiliu.Memory
