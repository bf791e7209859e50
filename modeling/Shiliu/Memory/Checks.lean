/-
Module: Shiliu.Memory.Checks
Purpose: The checks `MemoryService` makes before it writes: texts, subjects, scopes, source
  messages, validity bounds, receipts, and the search for a memory that says the same.
Trusted boundary: none
Main exports: plainRules, validateText, validateSubject, validateValidity, receipt, duplicateOf
-/
import Mathlib.Data.List.Sort
import Mathlib.Data.String.Basic
import Shiliu.Library.Outcome
import Shiliu.Memory.Rows

namespace Shiliu.Memory

open Shiliu.Library Shiliu.Storage

/-! ## Texts -/

/-- `text.split()`. -/
def words (text : String) : List String :=
  ((text.toList.splitOnP isSpace).filter (· ≠ [])).map String.ofList

/-- How texts of plain lower-case words are read: nothing to fold, no expression of time, every
word a token of its own. The hash is any function that tells texts apart. -/
def plainRules : TextRules :=
  { lower := id
    contentHash := fun text => "sha256:" ++ text
    nfkc := id
    document := fun text => " ".intercalate (words text)
    toTsvector := fun tokens => (words tokens).dedup
    timeContext := fun statement statedAt sourceMessageId =>
      .ok ⟨statedAt, sourceMessageId, "Asia/Shanghai", prefixOf statement 1000, []⟩
    eventSignature := fun events => " ".intercalate (events.map TimeEvent.expression)
    validity := fun _ _ => .ok none
    timeTokens := fun _ => []
    cancelsTime := fun _ _ => false
    requestsTimeChange := fun _ => false
    plausibleDecision := fun _ => true
    knownZone := fun name => name = "Asia/Shanghai"
    parseTime := fun _ => .error (.valueError "invalid_memory_time")
    printTime := fun time => toString time.seconds
    changeMessageId := fun id => "an_" ++ toString id
    tsvector_document_empty := by decide +kernel }

/-- `_validate_text`. -/
def validateText (text : String) : Except Failure String := do
  let clean := " ".intercalate (words text)
  ensure (clean ≠ "" ∧ clean.length ≤ 400) (.valueError "invalid_memory_text")
  return clean

/-- `_validate_subject`. -/
def validateSubject (rules : TextRules) (value : String) : Except Failure String := do
  let clean := "_".intercalate (words (rules.lower (strip value)))
  ensure (clean ≠ "" ∧ clean.length ≤ 120) (.valueError "invalid_subject_key")
  return clean

/-- `if kind not in MEMORY_KINDS: raise`. -/
def requireKind (kind : String) : Except Failure MemoryKind :=
  match memoryKindOf kind with
  | some kind => .ok kind
  | none => .error (.valueError "invalid_memory_kind")

/-! ## Scopes and sources -/

/-- `_validate_scope`. -/
def validateScope (store : MemoryStore) (scopeKind : String) (scopeId : Option Int) :
    Except Failure Scope :=
  if scopeKind = "user" then
    if scopeId = none then .ok .user else .error (.valueError "invalid_memory_scope")
  else
    match scopeId with
    | none => .error (.valueError "invalid_memory_scope")
    | some id =>
        if scopeKind = "space" ∧ 1 ≤ id ∧ id.toNat ∈ store.enabledSpaces then
          .ok (.space id.toNat)
        else .error (.valueError "invalid_memory_scope")

/-- `_validate_scope` of the columns of a row. -/
def validateRowScope (store : MemoryStore) (scope : Scope) : Except Failure Scope :=
  match scope with
  | .user => validateScope store "user" none
  | .space id => validateScope store "space" (some id)

/-- A message may be a source of facts in the scope. -/
def Scope.admits (scope : Scope) (message : SourceMessage) : Bool :=
  match scope with
  | .user => true
  | .space id => message.spaceId = id

/-- `_validate_sources`. -/
def validateSources (store : MemoryStore) (ids : List String) (scope : Scope) :
    Except Failure Unit :=
  ensure (ids.all fun id => (store.messages.lookup id).any scope.admits)
    (.assistantConflict "memory_source_out_of_scope")

/-- The trigger on `source_message_ids_json`. The ids of other writes were checked when they were
first stored, and messages are never deleted. -/
def checkReferences (store : MemoryStore) (ids : List String) : Except Failure Unit :=
  ensure (ids.all fun id => (store.messages.lookup id).isSome) .foreignKeyViolation

/-! ## Validity -/

/-- A bound a caller gave, or one kept from the row. -/
inductive BoundInput where
  | text (raw : Option String)
  | stored (time : Option IsoTime)

/-- `normalize`. The text of a stored bound reads as the bound. -/
def normalizeBound (rules : TextRules) : BoundInput → Except Failure (Option IsoTime)
  | .stored time => .ok time
  | .text none => .ok none
  | .text (some raw) =>
      if raw = "" then .ok none
      else (rules.parseTime ((strip raw).replace "Z" "+00:00")).map some

/-- The validity columns. -/
structure Validity where
  validFrom : Option IsoTime
  expiresAt : Option IsoTime
  note : String
  timezone : Option String

/-- `_validate_validity`. -/
def validateValidity (rules : TextRules) (validFrom expiresAt : BoundInput) (note : String)
    (timezone : Option String) : Except Failure Validity := do
  let note := prefixOf (" ".intercalate (words note)) 400
  let timezoneName := (timezone.filter (· ≠ "")).map strip
  ensure (!truthy timezoneName ∨ timezoneName = some "explicit_offset" ∨
    timezoneName.any rules.knownZone) (.valueError "invalid_memory_timezone")
  let start ← normalizeBound rules validFrom
  let stop ← normalizeBound rules expiresAt
  ensure (start.all fun start => stop.all fun stop => start.seconds < stop.seconds)
    (.valueError "invalid_memory_time_range")
  return {
    validFrom := start
    expiresAt := stop
    note := note
    timezone :=
      if (start.isSome ∨ stop.isSome) ∧ !truthy timezoneName then some "explicit_offset"
      else timezoneName }

/-! ## Receipts and duplicates -/

/-- `_receipt`. -/
def receipt (store : MemoryStore) (operationKey : String) : Except Failure (Option Receipt) := do
  ensure (strip operationKey ≠ "") (.valueError "operation_key_required")
  return store.receipts.lookup operationKey

/-- The rows of the query for duplicates. -/
def sameFact (scope : Scope) (text : String) (validity : Validity) (row : MemoryRow) : Bool :=
  row.scope = scope ∧ row.text = text ∧ (row.status = .active ∨ row.status = .needsReview) ∧
    row.validFrom = validity.validFrom ∧ row.expiresAt = validity.expiresAt

/-- `ORDER BY version DESC`, rows of one version in the order the database happens to return
them. -/
def newestFirst (heapOrder : String → Nat) (first second : MemoryRow) : Prop :=
  second.version < first.version ∨
    second.version = first.version ∧ heapOrder first.id ≤ heapOrder second.id

instance (heapOrder : String → Nat) : DecidableRel (newestFirst heapOrder) :=
  fun _ _ => inferInstanceAs (Decidable (_ ∨ _))

/-- The duplicate `save_explicit` settles on: the first with the same event signature. -/
def duplicateOf (rules : TextRules) (store : MemoryStore) (heapOrder : String → Nat)
    (scope : Scope) (text : String) (validity : Validity) (temporal : Option TimeContext) :
    Option MemoryRow :=
  ((store.memories.rows.filter (sameFact scope text validity)).insertionSort
    (newestFirst heapOrder)).find? fun row =>
      rules.eventSignature (eventsOf row.timeContext) = rules.eventSignature (eventsOf temporal)

theorem duplicateOf_spec {rules : TextRules} {store : MemoryStore} {heapOrder : String → Nat}
    {scope : Scope} {text : String} {validity : Validity} {temporal : Option TimeContext}
    {row : MemoryRow}
    (found : duplicateOf rules store heapOrder scope text validity temporal = some row) :
    row ∈ store.memories ∧ row.scope = scope ∧ row.text = text ∧
      (row.status = .active ∨ row.status = .needsReview) := by
  have among := List.mem_of_find?_eq_some found
  rw [List.mem_insertionSort, List.mem_filter] at among
  obtain ⟨member, same⟩ := among
  simp only [sameFact, decide_eq_true_eq] at same
  exact ⟨member, same.1, same.2.1, same.2.2.1⟩

end Shiliu.Memory
