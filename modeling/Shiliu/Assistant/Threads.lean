/-
Module: Shiliu.Assistant.Threads
Purpose: `list_threads`, one page of the threads of a space, and what a caller reads who follows
  `next_cursor` to the end. The query compares stored timestamps, which have microseconds; the
  cursor is taken from the rendered page, which shows whole seconds.
Trusted boundary: none
Main exports: ThreadSummary, listThreads, browseThreads, eligibleThreads, listThreads_lossless_iff
-/
import Shiliu.Assistant.Rows
import Shiliu.Library.Keyset

namespace Shiliu.Assistant

open Shiliu.Library Shiliu.Storage

/-! ## Rendered rows -/

/-- One element of `"threads"`. -/
structure ThreadSummary where
  id : String
  spaceId : Nat
  title : String
  createdAt : IsoTime
  updatedAt : IsoTime
  runStatus : Option RunStatus
  lastErrorCode : Option String

/-- `"next_cursor"`. -/
structure ThreadCursor where
  beforeUpdatedAt : IsoTime
  beforeId : String

structure ThreadPage where
  threads : List ThreadSummary
  nextCursor : Option ThreadCursor

/-- The first user message of a thread. -/
def firstInput (store : AssistantStore) (threadId : String) : Option String :=
  ((store.messages.rows.filter fun message =>
    message.threadId = threadId ∧ message.role = .user).argmin Message.seq).map Message.content

/-- `str(title or first_input or "新对话").strip().replace("\n"," ")[:48]`. -/
def shownTitle (title : String) (firstInput : Option String) : String :=
  let chosen := if title ≠ "" then title
    else if truthy firstInput then firstInput.getD "" else "新对话"
  prefixOf (String.ofList ((strip chosen).toList.map fun letter =>
    if letter = '\n' then ' ' else letter)) 48

def threadSummary (store : AssistantStore) (thread : Thread) : ThreadSummary :=
  { id := thread.id
    spaceId := thread.spaceId
    title := shownTitle thread.title (firstInput store thread.id)
    createdAt := isoTime thread.createdAt
    updatedAt := isoTime thread.updatedAt
    runStatus := (store.latestRun thread.id).map Run.status
    lastErrorCode := (store.latestRun thread.id).bind Run.lastErrorCode }

/-- The cursor a page ends with. -/
def ThreadSummary.cursor (summary : ThreadSummary) : ThreadCursor :=
  ⟨summary.updatedAt, summary.id⟩

/-! ## The query -/

/-- `(t.updated_at,t.id)`. -/
def Thread.key (thread : Thread) : Instant ×ₗ String :=
  toLex (thread.updatedAt, thread.id)

/-- The threads the query selects, before its cursor: those of the space in which the user has
said something. -/
def isEligible (store : AssistantStore) (context : ResourceContext) (spaceId : Nat)
    (thread : Thread) : Bool :=
  thread.context = context ∧ thread.spaceId = spaceId ∧
    store.messages.rows.any fun message => message.threadId = thread.id ∧ message.role = .user

/-- `(%s::timestamptz IS NULL OR (t.updated_at,t.id)<(%s::timestamptz,%s))`. -/
def isBefore (before : Option (Instant × String)) (thread : Thread) : Bool :=
  match before with
  | none => true
  | some (updatedAt, id) => thread.key < toLex (updatedAt, id)

/-- The rows of the query, without its limit. -/
def threadRows (store : AssistantStore) (context : ResourceContext) (spaceId : Nat)
    (before : Option (Instant × String)) : List Thread :=
  Keyset.descending Thread.key (store.threads.rows.filter fun thread =>
    isEligible store context spaceId thread && isBefore before thread)

/-- `before_updated_at` and `before_id`, both or neither. -/
def cursorArguments : Option Instant → Option String → Option (Option (Instant × String))
  | none, none => some none
  | some updatedAt, some id => some (some (updatedAt, id))
  | _, _ => none

/-- `list_threads`. -/
def listThreads (store : AssistantStore) (context : ResourceContext) (spaceId : Nat) (limit : Int)
    (beforeUpdatedAt : Option Instant) (beforeId : Option String) : Except Failure ThreadPage :=
  match store.space context spaceId with
  | none => .error .keyError
  | some _ =>
      match cursorArguments beforeUpdatedAt beforeId with
      | none => .error (.valueError "invalid_thread_cursor")
      | some before =>
          if ¬ (1 ≤ limit ∧ limit ≤ 100) then .error (.valueError "invalid_thread_cursor")
          else
            let rows := (threadRows store context spaceId before).take (limit.toNat + 1)
            let page := (rows.take limit.toNat).map (threadSummary store)
            .ok { threads := page
                  nextCursor := if limit.toNat < rows.length
                    then page.getLast?.map ThreadSummary.cursor else none }

/-- Call `list_threads` with the `next_cursor` of the page before, until it is `None`. The answer
is `none` when `fuel` calls did not reach the end. -/
def browseThreads (store : AssistantStore) (context : ResourceContext) (spaceId : Nat)
    (limit : Int) : (fuel : Nat) → Option ThreadCursor → Except Failure (Option (List ThreadSummary))
  | 0, _ => .ok none
  | fuel + 1, cursor =>
      match listThreads store context spaceId limit
          (cursor.map fun next => next.beforeUpdatedAt.instant) (cursor.map fun next => next.beforeId)
      with
      | .error failure => .error failure
      | .ok page =>
          match page.nextCursor with
          | none => .ok (some page.threads)
          | some next =>
              match browseThreads store context spaceId limit fuel (some next) with
              | .error failure => .error failure
              | .ok rest => .ok (rest.map (page.threads ++ ·))

/-! ## What there is to read -/

/-- Every eligible thread once, in descending order of `(updated_at, id)`. -/
def eligibleThreads (store : AssistantStore) (context : ResourceContext) (spaceId : Nat) :
    List Thread :=
  Keyset.descending Thread.key (store.threads.rows.filter (isEligible store context spaceId))

theorem threadKeys_nodup (store : AssistantStore) (select : Thread → Bool) :
    ((store.threads.rows.filter select).map Thread.key).Nodup := by
  have ids : ((store.threads.rows.map Thread.key).map fun key => (ofLex key).2).Nodup := by
    rw [List.map_map]
    exact store.threads.unique
  exact (List.Nodup.of_map _ ids).sublist (List.filter_sublist.map Thread.key)

theorem eligibleThreads_sorted (store : AssistantStore) (context : ResourceContext)
    (spaceId : Nat) :
    (eligibleThreads store context spaceId).Pairwise fun first second => second.key < first.key :=
  Keyset.descending_sorted (threadKeys_nodup store _)

/-- The query selects from the eligible threads and keeps their order. -/
theorem threadRows_eq_filter (store : AssistantStore) (context : ResourceContext) (spaceId : Nat)
    (before : Option (Instant × String)) :
    threadRows store context spaceId before =
      (eligibleThreads store context spaceId).filter (isBefore before) := by
  rw [threadRows, eligibleThreads, ← Keyset.descending_filter (threadKeys_nodup store _),
    List.filter_filter]
  simp only [Bool.and_comm]

/-! ## Pages as keyset pages -/

/-- The cursor of the page that ends with a thread. -/
def threadCursor (thread : Thread) : ThreadCursor :=
  ⟨isoTime thread.updatedAt, thread.id⟩

/-- The key the query compares with. -/
def ThreadCursor.bound (cursor : ThreadCursor) : Instant ×ₗ String :=
  toLex (cursor.beforeUpdatedAt.instant, cursor.beforeId)

/-- Rendering rounds down. -/
theorem bound_threadCursor_le (thread : Thread) : (threadCursor thread).bound ≤ thread.key := by
  rw [Thread.key, ThreadCursor.bound, Prod.Lex.toLex_le_toLex]
  rcases (wholeSecond_le thread.updatedAt).lt_or_eq with earlier | same
  · exact Or.inl earlier
  · exact Or.inr ⟨same, le_refl _⟩

theorem threadRows_cursor (store : AssistantStore) (context : ResourceContext) (spaceId : Nat)
    (cursor : Option ThreadCursor) :
    threadRows store context spaceId
        (cursor.map fun next => (next.beforeUpdatedAt.instant, next.beforeId)) =
      Keyset.below Thread.key ThreadCursor.bound (eligibleThreads store context spaceId) cursor := by
  rw [threadRows_eq_filter]
  cases cursor with
  | none => exact List.filter_eq_self.mpr fun thread _ => rfl
  | some next => rfl

theorem cursorArguments_cursor (cursor : Option ThreadCursor) :
    cursorArguments (cursor.map fun next => next.beforeUpdatedAt.instant)
        (cursor.map fun next => next.beforeId) =
      some (cursor.map fun next => (next.beforeUpdatedAt.instant, next.beforeId)) := by
  cases cursor <;> rfl

theorem listThreads_eq_cut {store : AssistantStore} {context : ResourceContext} {spaceId : Nat}
    (exists_ : (store.space context spaceId).isSome) {limit : Int} (valid : 1 ≤ limit ∧ limit ≤ 100)
    (cursor : Option ThreadCursor) :
    ∃ page : Keyset.Page Thread ThreadCursor,
      page = Keyset.cut limit.toNat threadCursor (Keyset.below Thread.key ThreadCursor.bound
        (eligibleThreads store context spaceId) cursor) ∧
      listThreads store context spaceId limit
          (cursor.map fun next => next.beforeUpdatedAt.instant)
          (cursor.map fun next => next.beforeId) =
        .ok ⟨page.items.map (threadSummary store), page.next⟩ := by
  obtain ⟨space, isSpace⟩ := Option.isSome_iff_exists.mp exists_
  refine ⟨_, rfl, ?_⟩
  rw [← threadRows_cursor]
  unfold listThreads
  simp only [isSpace, cursorArguments_cursor, valid, and_self, not_true_eq_false, if_false,
    Keyset.cut, List.take_take, List.length_take, List.getLast?_map, Option.map_map,
    Nat.min_eq_left (Nat.le_succ limit.toNat), Except.ok.injEq, ThreadPage.mk.injEq, true_and]
  by_cases more : limit.toNat < (threadRows store context spaceId
      (cursor.map fun next => (next.beforeUpdatedAt.instant, next.beforeId))).length
  · rw [if_pos more, if_pos (lt_min (Nat.lt_succ_self _) more)]
    rfl
  · rw [if_neg more, if_neg fun isLess => more (lt_min_iff.mp isLess).2]

theorem browseThreads_eq_follow {store : AssistantStore} {context : ResourceContext}
    {spaceId : Nat} (exists_ : (store.space context spaceId).isSome) {limit : Int}
    (valid : 1 ≤ limit ∧ limit ≤ 100) (fuel request : Nat) (cursor : Option ThreadCursor) :
    browseThreads store context spaceId limit fuel cursor =
      .ok ((Keyset.follow (fun _ cursor => Keyset.cut limit.toNat threadCursor
        (Keyset.below Thread.key ThreadCursor.bound (eligibleThreads store context spaceId) cursor))
          fuel request cursor).map fun threads => threads.map (threadSummary store)) := by
  induction fuel generalizing request cursor with
  | zero => rfl
  | succ fuel inductionHypothesis =>
      obtain ⟨page, isPage, answer⟩ := listThreads_eq_cut exists_ valid cursor
      rw [browseThreads, answer, Keyset.follow, ← isPage]
      cases next : page.next with
      | none => rfl
      | some cursor =>
          simp only [inductionHypothesis (request + 1) (some cursor), Option.map_map]
          simp [Function.comp_def]

/-! ## Nothing lost, nothing repeated -/

/-- No page boundary falls between two threads that the rendered cursor cannot tell apart: behind
every full page, the next thread lies below the cut-off key of the thread before it. -/
def BoundariesKept (order : List Thread) (limit : Nat) : Prop :=
  ∀ boundary last next, (order.take ((boundary + 1) * limit)).getLast? = some last →
    order[(boundary + 1) * limit]? = some next →
      next.key < toLex (wholeSecond last.updatedAt, last.id)

/-- Following `next_cursor` reads every eligible thread of the space, once and in order, exactly
when no page boundary is cut off. More calls than there are threads always reach the end. -/
theorem listThreads_lossless_iff (store : AssistantStore) (context : ResourceContext)
    (spaceId : Nat) (isSpace : (store.space context spaceId).isSome) (limit : Int)
    (valid : 1 ≤ limit ∧ limit ≤ 100) (fuel : Nat)
    (enough : (eligibleThreads store context spaceId).length < fuel) :
    browseThreads store context spaceId limit fuel none =
        .ok (some ((eligibleThreads store context spaceId).map (threadSummary store))) ↔
      BoundariesKept (eligibleThreads store context spaceId) limit.toNat := by
  have positive : 0 < limit.toNat := by omega
  have sorted := eligibleThreads_sorted store context spaceId
  rw [browseThreads_eq_follow isSpace valid fuel 0 none]
  obtain ⟨items, among, read⟩ := Keyset.follow_sublist positive
    (Keyset.below_advances sorted bound_threadCursor_le) fuel 0 none (List.suffix_refl _) enough
  have sameList : (Except.ok (some (items.map (threadSummary store))) :
        Except Failure (Option (List ThreadSummary))) =
        .ok (some ((eligibleThreads store context spaceId).map (threadSummary store))) ↔
      items = eligibleThreads store context spaceId := by
    constructor
    · intro same
      injection same with same
      injection same with same
      have lengths := congrArg List.length same
      rw [List.length_map, List.length_map] at lengths
      exact among.eq_of_length lengths
    · rintro rfl
      rfl
  rw [read, Option.map_some, sameList, ← Option.some_inj, ← read]
  exact Keyset.follow_below_iff positive sorted bound_threadCursor_le enough

/-! ### Two threads of one second -/

/-- A space whose two threads were touched 300 and 700 milliseconds after one second. -/
def sameSecondStore : AssistantStore where
  workspaces := ["ws"]
  spaces := (Table.empty Space.id).insert
    ⟨1, ⟨"ws", "me"⟩, "space", "", [], [], true, .onDemand, 1, true⟩
  threads := ((Table.empty Thread.id).insert
    ⟨"athr_a", ⟨"ws", "me"⟩, 1, "first", 1000000, 1300000⟩).insert
    ⟨"athr_b", ⟨"ws", "me"⟩, 1, "second", 1000000, 1700000⟩
  runs := Table.empty Run.id
  messages := ((Table.empty Message.id).insert
    ⟨"amsg_a", "athr_a", none, 1, .user, "question", ProviderPayload.empty, 1300000⟩).insert
    ⟨"amsg_b", "athr_b", none, 1, .user, "question", ProviderPayload.empty, 1700000⟩
  events := Table.empty RunEvent.key
  insertionHighwater := 0

/-- One thread a page, the second thread is never listed, whatever the number of calls. -/
theorem listThreads_loses_sameSecond :
    (eligibleThreads sameSecondStore ⟨"ws", "me"⟩ 1).map Thread.id = ["athr_b", "athr_a"] ∧
      ∀ fuel, 2 < fuel → ∃ read, browseThreads sameSecondStore ⟨"ws", "me"⟩ 1 1 fuel none =
        .ok (some read) ∧ read.map ThreadSummary.id = ["athr_b"] := by
  refine ⟨by decide +kernel, fun fuel more => ?_⟩
  obtain ⟨extra, rfl⟩ := Nat.exists_eq_add_of_le' more
  exact ⟨_, rfl, by decide +kernel⟩

/-- Two threads a page, there is no boundary. -/
theorem listThreads_lossless_iff_onePage :
    browseThreads sameSecondStore ⟨"ws", "me"⟩ 1 2 3 none =
        .ok (some ((eligibleThreads sameSecondStore ⟨"ws", "me"⟩ 1).map
          (threadSummary sameSecondStore))) ↔
      BoundariesKept (eligibleThreads sameSecondStore ⟨"ws", "me"⟩ 1) 2 :=
  listThreads_lossless_iff sameSecondStore ⟨"ws", "me"⟩ 1 (by decide +kernel) 2 (by decide) 3
    (by decide +kernel)

end Shiliu.Assistant
