/-
Module: Shiliu.Sources.ReadChain
Purpose: Reading a source page by page. A turn is a call of `read`, perhaps clipped before it is
  delivered; the next call passes the cursor of what was delivered. Every turn delivers the slice its
  position names and goes on where it stops, so the pages are the text from the first offset on,
  once. The first offset has to lie in the text: a query hit is found in the folded text, which can
  be longer.
Trusted boundary: none
Main exports: Turn, follow, ReadsOnce, deliver_slice, reading_exactly_once, folded_hit_past_end
-/
import Shiliu.Sources.Reading
import Shiliu.Sources.Visibility

set_option linter.all false

namespace Shiliu.Sources

open Shiliu.Library
open Shiliu.Storage
open Shiliu.Collection

variable {Token : Type} {rules : TextRules} {codec : CursorCodec Token}

/-! ## Turns -/

/-- One call: the collection and the snapshots it finds, the budget it reads with, and the length
the result is clipped to before it is delivered, if it is. -/
structure Turn where
  store : CollectionStore
  snapshots : SnapshotStore
  maxCharacters : Int
  clip : Option Int

/-- The result that is delivered. -/
def deliver (rules : TextRules) (codec : CursorCodec Token) (request : ReadRequest Token)
    (turn : Turn) : ReadResult Token :=
  let result := read rules codec turn.store turn.snapshots request turn.maxCharacters
  match turn.clip with
  | none => result
  | some length => clipReadResult codec result length

/-- The request that goes on from a cursor. -/
def ReadRequest.goOn (request : ReadRequest Token) (cursor : Token) : ReadRequest Token :=
  { request with cursor := some cursor, query := none }

/-- The results delivered, turn by turn, until one comes without a cursor. -/
def follow (rules : TextRules) (codec : CursorCodec Token) :
    ReadRequest Token → List Turn → List (ReadResult Token)
  | _, [] => []
  | request, turn :: rest =>
      let result := deliver rules codec request turn
      match result.nextCursor with
      | none => [result]
      | some cursor => result :: follow rules codec (request.goOn cursor) rest

/-- The text a result delivers. -/
def ReadResult.delivered (result : ReadResult Token) : Text :=
  result.items.flatMap fun item => item.content.getD []

/-! ## What page by page means -/

/-- The result delivers one slice of the text and says which, and its flags say whether any text is
left. -/
structure Delivers (text : Text) (result : ReadResult Token) (piece : Piece Char) : Prop where
  item : ∃ item, result.items = [item] ∧ item.content.getD [] = piece.content ∧
    item.contentPosition = ⟨piece.start, piece.stop, text.length⟩
  coverage : ∃ coverage, result.coverage = some coverage ∧
    coverage.readPosition = ⟨piece.start, piece.stop, text.length⟩
  isSlice : piece.Of text
  truncated : result.truncated = true ↔ piece.stop < text.length
  cursor : result.nextCursor.isSome = true ↔ piece.stop < text.length

/-- The results are the text from an offset on, each part once; when no cursor is left nothing is
missing, and as many turns as there are characters, and one more, leave no cursor. -/
structure ReadsOnce (text : Text) (start : Nat) (turns : Nat)
    (results : List (ReadResult Token)) : Prop where
  described : ∃ pieces, List.Forall₂ (Delivers text) results pieces ∧ Chained start pieces
  begins : ∃ rest, text.drop start = results.flatMap ReadResult.delivered ++ rest
  complete : ∀ last ∈ results.getLast?, last.nextCursor = none →
    results.flatMap ReadResult.delivered = text.drop start
  ends : text.length - start < turns → ∀ last ∈ results.getLast?, last.nextCursor = none

/-- The source stays in the scope, and its snapshot stays what it is. -/
structure Serves (request : ReadRequest Token) (ref : SourceRef) (captured : CapturedSource)
    (turn : Turn) : Prop where
  accepted : readAccepts turn.store request.scope ref.videoId = true
  immutable : ∃ loaded, turn.snapshots.load ref.videoId captured.revision.text = some loaded ∧
    loaded.snapshot = captured.snapshot

/-- The budgets a caller may use. -/
structure Turn.Allowed (turn : Turn) : Prop where
  least : 1 ≤ turn.maxCharacters
  most : turn.maxCharacters ≤ 40000
  clipped : ∀ length ∈ turn.clip, 1 ≤ length

/-! ## Cursors -/

theorem decode_encodeReadCursor {videoId offset : Nat} {view : View} (revision : Revision)
    (positive : 0 < videoId) :
    decodeReadCursor codec (encodeReadCursor codec videoId revision.text view offset) =
      some ⟨videoId, revision.text, view, offset⟩ := by
  rw [decodeReadCursor, encodeReadCursor, codec.decode_encode]
  simp only [revision.isHash, Bool.not_true, Bool.false_eq_true, false_or]
  rw [if_neg (by omega)]
  simp

/-- What a plan says of the request it was made for. -/
structure ReadPlan.For (codec : CursorCodec Token) (request : ReadRequest Token)
    (plan : ReadPlan) : Prop where
  ref : request.sourceRef = some plan.sourceRef
  agrees : request.revision = none ∨ plan.sourceRef.revision = none ∨
    request.revision = plan.sourceRef.revision.map Revision.text
  resolved : ∀ revision,
    (plan.sourceRef.revision.map Revision.text).or request.revision = some revision →
      plan.revision = some revision

theorem planRead_ok {request : ReadRequest Token} {maxCharacters : Int} {plan : ReadPlan}
    (planned : planRead codec request maxCharacters = .ok plan) : plan.For codec request := by
  unfold planRead at planned
  split at planned
  · cases planned
  · rename_i ref isRef
    dsimp only at planned
    split at planned
    · cases planned
    · rename_i agrees
      have agreed : request.revision = none ∨ ref.revision = none ∨
          request.revision = ref.revision.map Revision.text := by
        by_contra other
        rw [not_or, not_or] at other
        exact agrees ⟨other.1, by simpa using other.2.1, other.2.2⟩
      split at planned
      · cases planned
      · split at planned
        · cases planned
        · split at planned
          · cases planned
            exact ⟨isRef, agreed, fun _ isResolved => isResolved⟩
          · split at planned
            · cases planned
            · rename_i value _
              split at planned
              · cases planned
              · split at planned
                · cases planned
                · rename_i unresolved
                  cases planned
                  refine ⟨isRef, agreed, fun revision isResolved => ?_⟩
                  rw [not_and_or, not_not, not_not] at unresolved
                  rcases unresolved with missing | same
                  · rw [missing] at isResolved
                    cases isResolved
                  · rw [← isResolved, same]

/-- The cursor of a result is accepted by the next call. -/
theorem planRead_goOn {request : ReadRequest Token} {plan : ReadPlan} {revision : Revision}
    (offset : Nat) {maxCharacters : Int} (isFor : plan.For codec request)
    (opened : ∀ named, plan.revision = some named → named = revision.text)
    (least : 1 ≤ maxCharacters) (most : maxCharacters ≤ 40000) :
    planRead codec
        (request.goOn (encodeReadCursor codec plan.sourceRef.videoId revision.text request.view
          offset)) maxCharacters =
      .ok ⟨plan.sourceRef, some revision.text, offset⟩ := by
  have agreed : ¬ (request.revision ≠ none ∧ plan.sourceRef.revision.map Revision.text ≠ none ∧
      request.revision ≠ plan.sourceRef.revision.map Revision.text) := by
    rintro ⟨given, named, different⟩
    rcases isFor.agrees with missing | unnamed | same
    · exact given missing
    · exact named (by rw [unnamed, Option.map_none])
    · exact different same
  have resolves : ¬ ((plan.sourceRef.revision.map Revision.text).or request.revision ≠ none ∧
      (plan.sourceRef.revision.map Revision.text).or request.revision ≠ some revision.text) := by
    rintro ⟨given, different⟩
    obtain ⟨named, isNamed⟩ := Option.ne_none_iff_exists'.mp given
    rw [isNamed, opened named (isFor.resolved named isNamed)] at different
    exact different rfl
  unfold planRead
  simp only [ReadRequest.goOn, isFor.ref, if_neg agreed]
  rw [if_neg (by omega), if_neg (by simp), decode_encodeReadCursor revision
    plan.sourceRef.positive]
  simp only [ne_eq, not_true_eq_false, or_self, if_false]
  rw [if_neg resolves]

/-! ## One turn -/

/-- A result that delivers a piece of a view, with the cursor that goes on after it. -/
structure Page (codec : CursorCodec Token) (ref : SourceRef) (revision : Revision) (view : View)
    (text : Text) (result : ReadResult Token) (piece : Piece Char) : Prop
    extends Delivers text result piece where
  refs : result.sourceRefs = [{ ref with revision := some revision }]
  requested : ∀ coverage, result.coverage = some coverage → coverage.requestedView = view
  next : ∀ cursor, result.nextCursor = some cursor →
    cursor = encodeReadCursor codec ref.videoId revision.text view piece.stop

/-- The text of a view, none of it for an overview. -/
def viewText (snapshot : Snapshot) (view : View) : Text :=
  (viewContent snapshot view).getD []

theorem readCaptured_page {request : ReadRequest Token} {plan : ReadPlan} {maxCharacters : Nat}
    {captured : CapturedSource} {start : Nat}
    (isStart : startOffset rules (viewContent captured.snapshot request.view) plan.offset
      maxCharacters request.query = start)
    (inside : start ≤ (viewText captured.snapshot request.view).length) :
    Page codec plan.sourceRef captured.revision request.view
      (viewText captured.snapshot request.view)
      (readCaptured rules codec request plan maxCharacters captured)
      ⟨start, min (viewText captured.snapshot request.view).length (start + maxCharacters),
        slice (viewText captured.snapshot request.view) start
          (min (viewText captured.snapshot request.view).length (start + maxCharacters))⟩ := by
  have content : ∀ stop, ((viewContent captured.snapshot request.view).map fun text =>
      slice text start stop).getD [] = slice (viewText captured.snapshot request.view) start stop := by
    intro stop
    unfold viewText
    cases viewContent captured.snapshot request.view with
    | some text => rfl
    | none => simp [slice]
  subst isStart
  refine ⟨⟨⟨_, rfl, content _, rfl⟩, ⟨_, rfl, rfl⟩, ⟨?_, ?_, rfl⟩, ?_, ?_⟩, rfl, ?_, ?_⟩
  · exact Nat.le_min.mpr ⟨inside, Nat.le_add_right _ _⟩
  · exact Nat.min_le_left _ _
  · exact decide_eq_true_iff
  · exact Option.isSome_ite.trans decide_eq_true_iff
  · rintro coverage isCoverage
    obtain rfl := Option.some.inj isCoverage
    rfl
  · intro cursor isCursor
    exact (Option.some.inj (Option.ite_none_right_eq_some.mp isCursor).2).symm

theorem Page.clip {ref : SourceRef} {revision : Revision} {view : View} {text : Text}
    {result : ReadResult Token} {piece : Piece Char}
    (page : Page codec ref revision view text result piece) (length : Int) :
    ∃ clipped, Page codec ref revision view text (clipReadResult codec result length) clipped ∧
      clipped.start = piece.start ∧
      clipped.stop = min piece.stop (piece.start + length.toNat) := by
  obtain ⟨item, isItem, content, position⟩ := page.item
  obtain ⟨coverage, isCoverage, readPosition⟩ := page.coverage
  have ordered := page.isSlice.ordered
  have within := page.isSlice.within
  have size : piece.content.length = piece.stop - piece.start := by
    rw [page.isSlice.cut, length_slice within]
  unfold clipReadResult
  rw [isItem, List.foldl_cons, List.foldl_nil]
  cases isText : item.content with
  | none =>
      -- without content there is nothing to clip, and the piece is empty
      have empty : piece.stop - piece.start = 0 := by
        rw [← size, ← content, isText]
        rfl
      simp only [clipItem, isText, List.nil_append, ← isItem]
      exact ⟨piece, page, rfl, by omega⟩
  | some whole =>
      rw [isText, Option.getD_some] at content
      subst content
      have kept : (piece.content.take length.toNat).length = min length.toNat (piece.stop - piece.start) := by
        rw [List.length_take, size]
      have cut : piece.content.take length.toNat =
          slice text piece.start (min piece.stop (piece.start + length.toNat)) := by
        rw [page.isSlice.cut, take_slice]
      have stop : piece.start + (piece.content.take length.toNat).length =
          min piece.stop (piece.start + length.toNat) := by
        rw [kept]
        omega
      have isOf : Piece.Of text ⟨piece.start, min piece.stop (piece.start + length.toNat),
          piece.content.take length.toNat⟩ := ⟨by simp only; omega, by simp only; omega, cut⟩
      refine ⟨⟨piece.start, min piece.stop (piece.start + length.toNat), piece.content.take length.toNat⟩,
        ?_, rfl, rfl⟩
      simp only [clipItem, isText, isCoverage, position, stop, List.nil_append]
      split
      · -- the text goes on after the clip
        rename_i shorter
        have more : min piece.stop (piece.start + length.toNat) < text.length := by omega
        refine ⟨⟨⟨_, rfl, rfl, rfl⟩, ⟨_, rfl, rfl⟩, isOf, iff_of_true rfl more,
          iff_of_true rfl more⟩, page.refs, ?_, ?_⟩
        · intro other isOther
          obtain rfl := Option.some.inj isOther
          exact page.requested coverage isCoverage
        · intro cursor isCursor
          obtain rfl := Option.some.inj isCursor
          rw [page.refs, page.requested coverage isCoverage]
          rfl
      · rename_i complete
        have same : min piece.stop (piece.start + length.toNat) = piece.stop := by omega
        refine ⟨⟨⟨_, rfl, rfl, rfl⟩, ⟨_, rfl, rfl⟩, isOf, ?_, ?_⟩, page.refs, ?_, ?_⟩
        · simpa only [same] using page.truncated
        · simpa only [same] using page.cursor
        · intro other isOther
          obtain rfl := Option.some.inj isOther
          exact page.requested coverage isCoverage
        · simpa only [same] using page.next

section Turns

variable {request : ReadRequest Token} {plan : ReadPlan} {captured loaded : CapturedSource}
  {turn : Turn} {start : Nat}

/-- A source that was captured, or loaded again. -/
structure Reopens (captured loaded : CapturedSource) : Prop where
  revision : loaded.revision = captured.revision
  snapshot : loaded.snapshot = captured.snapshot

theorem deliver_page (planned : planRead codec request turn.maxCharacters = .ok plan)
    (accepted : readAccepts turn.store request.scope plan.sourceRef.videoId = true)
    (opened : turn.snapshots.captureOrLoad plan.sourceRef.videoId plan.revision = some loaded)
    (same : Reopens captured loaded) (allowed : turn.Allowed)
    (isStart : startOffset rules (viewContent captured.snapshot request.view) plan.offset
      turn.maxCharacters.toNat request.query = start)
    (inside : start ≤ (viewText captured.snapshot request.view).length) :
    ∃ piece, Page codec plan.sourceRef captured.revision request.view
        (viewText captured.snapshot request.view) (deliver rules codec request turn) piece ∧
      piece.start = start ∧
      (start < (viewText captured.snapshot request.view).length → start < piece.stop) := by
  have isRead : read rules codec turn.store turn.snapshots request turn.maxCharacters =
      readCaptured rules codec request plan turn.maxCharacters.toNat loaded := by
    simp [read, planned, accepted, opened]
  rw [← same.snapshot] at isStart inside
  have page : Page codec _ _ _ _ _ _ := readCaptured_page isStart inside
  have least := allowed.least
  rw [same.snapshot, same.revision] at page
  unfold deliver
  rw [isRead]
  cases isClip : turn.clip with
  | none =>
      refine ⟨_, page, rfl, fun left => ?_⟩
      simp only
      omega
  | some length =>
      have long := allowed.clipped length isClip
      obtain ⟨clipped, isPage, sameStart, stop⟩ := page.clip length
      refine ⟨clipped, isPage, sameStart, fun left => ?_⟩
      rw [stop]
      simp only
      omega

/-- The results are pages from an offset on, and stop at the end of the text. -/
def Reads (codec : CursorCodec Token) (ref : SourceRef) (revision : Revision) (view : View)
    (text : Text) (start turns : Nat) (results : List (ReadResult Token)) : Prop :=
  ∃ pieces, List.Forall₂ (Page codec ref revision view text) results pieces ∧
    Chained start pieces ∧
    (∀ last ∈ results.getLast?, last.nextCursor = none → lastStop start pieces = text.length) ∧
    (text.length - start < turns → ∀ last ∈ results.getLast?, last.nextCursor = none)

theorem follow_cons {rest : List Turn}
    (planned : planRead codec request turn.maxCharacters = .ok plan)
    (accepted : readAccepts turn.store request.scope plan.sourceRef.videoId = true)
    (opened : turn.snapshots.captureOrLoad plan.sourceRef.videoId plan.revision = some loaded)
    (same : Reopens captured loaded) (allowed : turn.Allowed)
    (isStart : startOffset rules (viewContent captured.snapshot request.view) plan.offset
      turn.maxCharacters.toNat request.query = start)
    (inside : start ≤ (viewText captured.snapshot request.view).length)
    (onward : ∀ stop ≤ (viewText captured.snapshot request.view).length,
      Reads codec plan.sourceRef captured.revision request.view
        (viewText captured.snapshot request.view) stop rest.length
        (follow rules codec (request.goOn (encodeReadCursor codec plan.sourceRef.videoId
          captured.revision.text request.view stop)) rest)) :
    Reads codec plan.sourceRef captured.revision request.view
      (viewText captured.snapshot request.view) start (rest.length + 1)
      (follow rules codec request (turn :: rest)) := by
  obtain ⟨piece, page, rfl, progress⟩ :=
    deliver_page planned accepted opened same allowed isStart inside
  have ordered := page.isSlice.ordered
  have within := page.isSlice.within
  rw [follow]
  cases isCursor : (deliver rules codec request turn).nextCursor with
  | none =>
      have finished : ¬ piece.stop < (viewText captured.snapshot request.view).length := by
        rw [← page.cursor, isCursor]
        simp
      refine ⟨[piece], .cons page .nil, ⟨rfl, trivial⟩, fun _ _ _ => ?_, fun _ last isLast => ?_⟩
      · simp only [lastStop]
        omega
      · obtain rfl := Option.some.inj isLast
        exact isCursor
  | some cursor =>
      have left : piece.stop < (viewText captured.snapshot request.view).length := by
        rw [← page.cursor, isCursor]
        rfl
      have moved := progress (by omega)
      obtain ⟨pieces, pages, chained, complete, ends⟩ := onward piece.stop within
      obtain rfl := page.next cursor isCursor
      refine ⟨piece :: pieces, .cons page pages, ⟨rfl, chained⟩, ?_, ?_⟩
      · intro last isLast finished
        rw [List.getLast?_cons] at isLast
        cases isTail : (follow rules codec (request.goOn (encodeReadCursor codec
            plan.sourceRef.videoId captured.revision.text request.view piece.stop))
              rest).getLast? with
        | none =>
            rw [isTail] at isLast
            obtain rfl := Option.some.inj isLast
            rw [Option.getD_none, isCursor] at finished
            cases finished
        | some tail =>
            rw [isTail] at isLast
            obtain rfl := Option.some.inj isLast
            exact complete tail isTail finished
      · intro enough last isLast
        rw [List.getLast?_cons] at isLast
        cases rest with
        | nil =>
            simp only [List.length_nil] at enough
            omega
        | cons next later =>
            have tail := ends (by omega)
            cases isTail : (follow rules codec (request.goOn (encodeReadCursor codec
                plan.sourceRef.videoId captured.revision.text request.view piece.stop))
                  (next :: later)).getLast? with
            | none =>
                rw [List.getLast?_eq_none_iff, follow] at isTail
                split at isTail <;> cases isTail
            | some final =>
                rw [isTail] at isLast
                obtain rfl := Option.some.inj isLast
                exact tail final isTail

theorem follow_goOn (isFor : plan.For codec request)
    (named : ∀ revision, plan.revision = some revision → revision = captured.revision.text)
    {turns : List Turn} (serves : ∀ turn ∈ turns, Serves request plan.sourceRef captured turn)
    (allowed : ∀ turn ∈ turns, turn.Allowed) {stop : Nat}
    (inside : stop ≤ (viewText captured.snapshot request.view).length) :
    Reads codec plan.sourceRef captured.revision request.view
      (viewText captured.snapshot request.view) stop turns.length
      (follow rules codec (request.goOn (encodeReadCursor codec plan.sourceRef.videoId
        captured.revision.text request.view stop)) turns) := by
  induction turns generalizing stop with
  | nil =>
      refine ⟨[], .nil, trivial, fun _ isLast => ?_, fun _ _ isLast => ?_⟩ <;> cases isLast
  | cons turn rest inductionHypothesis =>
      rw [List.forall_mem_cons] at serves allowed
      obtain ⟨loaded, isLoaded, sameSnapshot⟩ := serves.1.immutable
      have planned := planRead_goOn stop isFor named allowed.1.least allowed.1.most
      have sameRevision : loaded.revision = captured.revision :=
        Revision.ext (turn.snapshots.named _ _ _ isLoaded)
      refine follow_cons planned serves.1.accepted isLoaded ⟨sameRevision, sameSnapshot⟩ allowed.1
        ?_ inside fun next within => inductionHypothesis serves.2 allowed.2 within
      unfold startOffset ReadRequest.goOn
      split
      · rename_i noQuery
        cases noQuery
      · rfl

end Turns

/-! ## The whole chain -/

variable {text : Text} {results : List (ReadResult Token)}

theorem delivered_eq {result : ReadResult Token} {piece : Piece Char}
    (delivers : Delivers text result piece) : result.delivered = piece.content := by
  obtain ⟨item, isItem, content, -⟩ := delivers.item
  rw [ReadResult.delivered, isItem, List.flatMap_cons, List.flatMap_nil, List.append_nil, content]

theorem delivered_all {pieces : List (Piece Char)}
    (delivers : List.Forall₂ (Delivers text) results pieces) :
    results.flatMap ReadResult.delivered = pieces.flatMap Piece.content ∧
      ∀ piece ∈ pieces, piece.Of text := by
  induction delivers with
  | nil => exact ⟨rfl, fun _ isPiece => nomatch isPiece⟩
  | cons first _ inductionHypothesis =>
      obtain ⟨contents, each⟩ := inductionHypothesis
      rw [List.flatMap_cons, List.flatMap_cons, delivered_eq first, contents]
      exact ⟨rfl, List.forall_mem_cons.mpr ⟨first.isSlice, each⟩⟩

theorem readsOnce_of_reads {ref : SourceRef} {revision : Revision} {view : View} {start turns : Nat}
    (inside : start ≤ text.length)
    (reads : Reads codec ref revision view text start turns results) :
    ReadsOnce text start turns results := by
  obtain ⟨pieces, pages, chained, complete, ends⟩ := reads
  have delivers : List.Forall₂ (Delivers text) results pieces := pages.imp fun _ _ page => page.toDelivers
  obtain ⟨contents, each⟩ := delivered_all delivers
  have whole := drop_of_chained each chained inside
  refine ⟨⟨pieces, delivers, chained⟩, ⟨_, contents ▸ whole⟩, fun last isLast finished => ?_, ends⟩
  rw [whole, complete last isLast finished, List.drop_length, List.append_nil, contents]

theorem inside_of_readsOnce {start turns : Nat} (some_ : results ≠ [])
    (reads : ReadsOnce text start turns results) : start ≤ text.length := by
  obtain ⟨pieces, delivers, chained⟩ := reads.described
  cases delivers with
  | nil => exact absurd rfl some_
  | cons first _ =>
      obtain ⟨rfl, -⟩ := chained
      exact first.isSlice.ordered.trans first.isSlice.within

theorem follow_ne_nil (request : ReadRequest Token) (turn : Turn) (rest : List Turn) :
    follow rules codec request (turn :: rest) ≠ [] := by
  simp only [follow]
  split <;> exact List.cons_ne_nil _ _

/-- Reading page by page, with any budgets and any clips: the pages are the text of the view from
the first offset to the end, once, with positions and flags that follow the delivered slice, exactly
when the first offset lies in the text. -/
theorem reading_exactly_once (rules : TextRules) (codec : CursorCodec Token)
    (request : ReadRequest Token) (plan : ReadPlan) (captured : CapturedSource) (first : Turn)
    (rest : List Turn) (planned : planRead codec request first.maxCharacters = .ok plan)
    (opened : first.snapshots.captureOrLoad plan.sourceRef.videoId plan.revision = some captured)
    (serves : ∀ turn ∈ first :: rest, Serves request plan.sourceRef captured turn)
    (allowed : ∀ turn ∈ first :: rest, turn.Allowed) :
    let text := viewText captured.snapshot request.view
    let start := startOffset rules (viewContent captured.snapshot request.view) plan.offset
      first.maxCharacters.toNat request.query
    ReadsOnce text start (rest.length + 1) (follow rules codec request (first :: rest)) ↔
      start ≤ text.length := by
  intro text start
  constructor
  · exact inside_of_readsOnce (follow_ne_nil request first rest)
  · intro inside
    rw [List.forall_mem_cons] at serves allowed
    have named : ∀ revision, plan.revision = some revision → revision = captured.revision.text := by
      intro revision isNamed
      rw [isNamed] at opened
      exact (first.snapshots.named _ _ _ opened).symm
    refine readsOnce_of_reads inside (follow_cons planned serves.1.accepted opened ⟨rfl, rfl⟩
      allowed.1 rfl inside fun stop within => ?_)
    exact follow_goOn (planRead_ok planned) named serves.2 allowed.2 within

/-! ## A folded hit

In the folded text of `"ßßx"`, `"ssssx"`, the letter `x` comes later than the text is long. -/

/-- Case folding and splitting of the texts below. -/
def shortRules : TextRules where
  casefold text := text.flatMap fun symbol => if symbol = 'ß' then ['s', 's'] else [symbol.toLower]
  split text := (text.splitBy fun left right => left ≠ ' ' ∧ right ≠ ' ').filter (· ≠ [' '])
  strip text := (text.dropWhile (· = ' ')).reverse.dropWhile (· = ' ') |>.reverse

def plainCodec : CursorCodec CursorPayload where
  encode := id
  decode := some
  decode_encode _ := rfl

def shortSource : CapturedSource where
  revision := ⟨String.ofList (List.replicate 64 'a'), by decide⟩
  snapshotRef := "artifact:1"
  snapshot :=
    { description := none
      notes := []
      rawSubtitle := none
      transcript := none
      summary := some ['ß', 'ß', 'x'] }

def shortSnapshots : SnapshotStore where
  capture videoId := if videoId = 1 then some shortSource else none
  load videoId revision :=
    if videoId = 1 ∧ shortSource.revision.text = revision then some shortSource else none
  named _ _ _ found := by
    obtain ⟨⟨-, isRevision⟩, isSource⟩ := Option.ite_none_right_eq_some.mp found
    obtain rfl := Option.some.inj isSource
    exact isRevision

/-- A call on the collection of one listed video. -/
def shortTurn (maxCharacters : Int) (clip : Option Int) : Turn where
  store := runFrom stepUpkeep CollectionStore.empty listedOnce
  snapshots := shortSnapshots
  maxCharacters := maxCharacters
  clip := clip

def shortRequest (query : Option Text) : ReadRequest CursorPayload where
  scope := ⟨[], [], true⟩
  sourceRef := some ⟨1, none, by decide⟩
  view := .summary
  revision := none
  cursor := none
  query := query

theorem shortTurn_serves (maxCharacters : Int) (clip : Option Int) (query : Option Text) :
    Serves (shortRequest query) ⟨1, none, by decide⟩ shortSource (shortTurn maxCharacters clip) where
  accepted := by
    show readAccepts (runFrom stepUpkeep CollectionStore.empty listedOnce) ⟨[], [], true⟩ 1 = true
    decide +kernel
  immutable := ⟨shortSource, by simp [shortTurn, shortSnapshots], rfl⟩

/-- Two characters, clipped to one, and then the rest. -/
theorem reading_exactly_once_short :
    ReadsOnce ['ß', 'ß', 'x'] 0 2
        (follow shortRules plainCodec (shortRequest none) [shortTurn 2 (some 1), shortTurn 7 none]) ↔
      0 ≤ 3 :=
  reading_exactly_once shortRules plainCodec (shortRequest none) ⟨⟨1, none, by decide⟩, none, 0⟩
    shortSource (shortTurn 2 (some 1)) [shortTurn 7 none] rfl rfl
    (List.forall_mem_cons.mpr ⟨shortTurn_serves _ _ _, List.forall_mem_cons.mpr
      ⟨shortTurn_serves _ _ _, fun _ isTurn => nomatch isTurn⟩⟩)
    (List.forall_mem_cons.mpr ⟨⟨by decide, by decide, by decide⟩, List.forall_mem_cons.mpr
      ⟨⟨by decide, by decide, by decide⟩, fun _ isTurn => nomatch isTurn⟩⟩)

/-- The query is found past the end: nothing of the text is delivered, and the position says that
it runs from 4 to 3. -/
theorem folded_hit_past_end :
    let start := startOffset shortRules (viewContent shortSource.snapshot .summary) 0 1 (some ['x'])
    ¬ ReadsOnce (viewText shortSource.snapshot .summary) start 1
      (follow shortRules plainCodec (shortRequest (some ['x'])) [shortTurn 1 none]) := by
  intro start reads
  exact absurd (inside_of_readsOnce (follow_ne_nil _ _ _) reads) (by decide +kernel)

end Shiliu.Sources
