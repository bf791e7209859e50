/-
Module: Shiliu.Sources.Reading
Purpose: Reading one view of a source: `read` with its refusals and its cursor, `_source_view` with
  the offset of a query hit, and `clip_read_result`, which shortens a result before it is sent. A
  source is a captured snapshot; the snapshot store answers by revision, and a revision is always
  answered with the same texts. Case folding, splitting and stripping of text and the text form of a
  cursor are parameters.
Trusted boundary: none
Main exports: View, Snapshot, CapturedSource, startOffset, sourceView, read, clipReadResult
-/
import Shiliu.Library.Slices
import Shiliu.Sources.Scope

namespace Shiliu.Sources

open Shiliu.Library
open Shiliu.Storage
open Shiliu.Collection

abbrev Text := List Char

/-! ## Snapshots -/

/-- `_is_revision`. -/
def isRevision (value : String) : Bool :=
  value.length = 64 ∧ value.toList.all fun character => character ∈ "0123456789abcdef".toList

/-- The hash that names a snapshot. -/
@[ext] structure Revision where
  text : String
  isHash : isRevision text = true

inductive View where
  | overview
  | description
  | summary
  | notes
  | transcript
deriving DecidableEq

def View.name : View → String
  | .overview => "overview"
  | .description => "description"
  | .summary => "summary"
  | .notes => "notes"
  | .transcript => "transcript"

/-- What a snapshot holds of the texts `_source_view` shows: a column of its metadata, its notes and
its materials. -/
structure Snapshot where
  description : Option Text
  notes : List Text
  rawSubtitle : Option Text
  transcript : Option Text
  summary : Option Text

structure CapturedSource where
  revision : Revision
  snapshotRef : String
  snapshot : Snapshot

/-- `SourceSnapshotStore` at one time: `capture` of a video as it is now, `load` of a revision. A
video or a revision that is not there is a `KeyError`. -/
structure SnapshotStore where
  capture : Nat → Option CapturedSource
  load : Nat → String → Option CapturedSource
  named : ∀ videoId revision captured, load videoId revision = some captured →
    captured.revision.text = revision

/-- `_capture_or_load`. -/
def SnapshotStore.captureOrLoad (snapshots : SnapshotStore) (videoId : Nat)
    (revision : Option String) : Option CapturedSource :=
  match revision with
  | none => snapshots.capture videoId
  | some revision => snapshots.load videoId revision

inductive BodyCoverage where
  | metadataOnly
  | summaryBased
  | partialTranscript
  | fullAvailableTranscript

def BodyCoverage.name : BodyCoverage → String
  | .metadataOnly => "metadata_only"
  | .summaryBased => "summary_based"
  | .partialTranscript => "partial_transcript"
  | .fullAvailableTranscript => "full_available_transcript"

/-- `_coverage`. -/
def Snapshot.coverage (snapshot : Snapshot) : BodyCoverage :=
  if snapshot.rawSubtitle.getD [] ≠ [] then .fullAvailableTranscript
  else if snapshot.transcript.getD [] ≠ [] then .partialTranscript
  else if snapshot.summary.getD [] ≠ [] then .summaryBased
  else .metadataOnly

/-! ## Text -/

/-- `str.casefold`, `str.split` and `str.strip`. -/
structure TextRules where
  casefold : Text → Text
  split : Text → List Text
  strip : Text → Text

/-- `text.find(needle)`, for a text that is not empty. -/
def find (needle : Text) : Text → Option Nat
  | [] => none
  | first :: rest =>
      if needle.isPrefixOf (first :: rest) then some 0 else (find needle rest).map (· + 1)

/-- `text.strip() in {"", "-", "—"}`. -/
def isBlank (rules : TextRules) (text : Text) : Bool :=
  rules.strip text ∈ [[], ['-'], ['—']]

/-! ## Cursors -/

/-- The object a cursor stands for, as `_decode_read_cursor` looks at it: a missing field, or one of
another type, is `none`. -/
structure CursorPayload where
  version : Option Int
  videoId : Option Int
  revision : String
  view : Option View
  offset : Option Int

/-- The text form of a cursor: JSON in URL-safe base64. -/
structure CursorCodec (Token : Type) where
  encode : CursorPayload → Token
  decode : Token → Option CursorPayload
  decode_encode : ∀ payload, decode (encode payload) = some payload

variable {Token : Type}

structure ReadCursor where
  videoId : Nat
  revision : String
  view : View
  offset : Nat

/-- `_encode_read_cursor`. -/
def encodeReadCursor (codec : CursorCodec Token) (videoId : Nat) (revision : String) (view : View)
    (offset : Nat) : Token :=
  codec.encode
    { version := some 1
      videoId := some videoId
      revision := revision
      view := some view
      offset := some offset }

/-- `_decode_read_cursor`; `none` is its `ValueError`. -/
def decodeReadCursor (codec : CursorCodec Token) (cursor : Token) : Option ReadCursor :=
  match codec.decode cursor with
  | some ⟨some 1, some videoId, revision, some view, some offset⟩ =>
      if videoId ≤ 0 ∨ !isRevision revision ∨ offset < 0 then none
      else some ⟨videoId.toNat, revision, view, offset.toNat⟩
  | _ => none

/-! ## Requests and results -/

/-- A source reference as `_parse_source_ref` reads it. -/
structure SourceRef where
  videoId : Nat
  revision : Option Revision
  positive : 0 < videoId

/-- The arguments of `read`; `sourceRef` is `none` when the reference does not parse. -/
structure ReadRequest (Token : Type) where
  scope : SourceScope
  sourceRef : Option SourceRef
  view : View
  revision : Option String
  cursor : Option Token
  query : Option Text

inductive ReadStatus where
  | ok
  | empty
  | unavailable
  | invalidArguments

/-- `content_position`. -/
structure ContentPosition where
  start : Nat
  stop : Nat
  total : Nat

/-- The one item of a result, as far as the text goes. -/
structure SourceItem where
  sourceRef : SourceRef
  revision : Revision
  content : Option Text
  contentPosition : ContentPosition

inductive Selection where
  | relevantSpan
  | sequential

structure NextReadArgs (Token : Type) where
  sourceRef : SourceRef
  view : View
  cursor : Token

structure ReadCoverage (Token : Type) where
  requestedView : View
  requestedViewHasContent : Bool
  availableViews : List String
  bodyCoverage : BodyCoverage
  readPosition : ContentPosition
  readComplete : Bool
  selection : Selection
  nextReadArgs : Option (NextReadArgs Token)

/-- The `ToolResult` of `read`. -/
structure ReadResult (Token : Type) where
  status : ReadStatus
  summary : String
  errorCode : Option String
  items : List SourceItem
  resultRef : Option String
  sourceRefs : List SourceRef
  truncated : Bool
  nextCursor : Option Token
  coverage : Option (ReadCoverage Token)

/-- A result without a reading. -/
def refused (status : ReadStatus) (summary errorCode : String) : ReadResult Token where
  status := status
  summary := summary
  errorCode := some errorCode
  items := []
  resultRef := none
  sourceRefs := []
  truncated := false
  nextCursor := none
  coverage := none

/-! ## `_source_view` -/

/-- The text of a view; an overview has none. -/
def viewContent (snapshot : Snapshot) : View → Option Text
  | .overview => none
  | .description => some (snapshot.description.getD [])
  | .summary => some (snapshot.summary.getD [])
  | .notes => some (List.intercalate ['\n', '\n'] snapshot.notes)
  | .transcript =>
      let raw := snapshot.rawSubtitle.getD []
      some (if raw ≠ [] then raw else snapshot.transcript.getD [])

/-- Where the slice starts: at the first hit of a query, a little before it, or at the offset. The
hits are positions in the folded text. -/
def startOffset (rules : TextRules) (content : Option Text) (offset maxCharacters : Nat)
    (query : Option Text) : Nat :=
  match content, query with
  | some content, some query =>
      if content = [] ∨ query = [] then offset
      else
        let tokens := ((rules.split query).filter (· ≠ [])).map rules.casefold
        match (tokens.filterMap fun token => find token (rules.casefold content)).min? with
        | some first => first - min 500 (maxCharacters / 8)
        | none => offset
  | _, _ => offset

/-- `available_views`: the kinds of the available materials, sorted. -/
def availableViews (rules : TextRules) (snapshot : Snapshot) : List String :=
  [("description", !isBlank rules (snapshot.description.getD [])),
    ("summary", snapshot.summary.isSome),
    ("transcript", snapshot.rawSubtitle.isSome || snapshot.transcript.isSome),
    ("user_note", !snapshot.notes.isEmpty)].filterMap fun kind =>
      if kind.2 then some kind.1 else none

/-- `_source_view`. The id in the metadata of a snapshot is that of the video it was taken of. -/
def sourceView (rules : TextRules) (ref : SourceRef) (captured : CapturedSource) (view : View)
    (offset maxCharacters : Nat) (query : Option Text) : SourceItem :=
  let content := viewContent captured.snapshot view
  let total := (content.getD []).length
  let start := startOffset rules content offset maxCharacters query
  let stop := min total (start + maxCharacters)
  { sourceRef := { ref with revision := none }
    revision := captured.revision
    content := content.map fun text => slice text start stop
    contentPosition := ⟨start, stop, total⟩ }

/-! ## `read` -/

/-- What `read` knows before it looks at the source. -/
structure ReadPlan where
  sourceRef : SourceRef
  revision : Option String
  offset : Nat

/-- The part of `read` that looks at its arguments only. -/
def planRead (codec : CursorCodec Token) (request : ReadRequest Token) (maxCharacters : Int) :
    Except (ReadResult Token) ReadPlan :=
  match request.sourceRef with
  | none => .error (refused .invalidArguments "source_ref 无效" "invalid_source_ref")
  | some ref =>
      let named := ref.revision.map Revision.text
      if request.revision ≠ none ∧ named ≠ none ∧ request.revision ≠ named then
        .error (refused .invalidArguments "source_ref 中的版本与 revision 参数冲突"
          "revision_conflict")
      else if maxCharacters < 1 ∨ 40000 < maxCharacters then
        .error (refused .invalidArguments "单次读取限 1 至 40000 字符" "read_budget_invalid")
      else if request.query.getD [] ≠ [] ∧ request.cursor.isSome then
        .error (refused .invalidArguments
          "query 定位与 cursor 续读只能选一个；续读请只传 source_ref、view、cursor"
          "query_cursor_conflict")
      else
        let resolved := named.or request.revision
        match request.cursor with
        | none => .ok ⟨ref, resolved, 0⟩
        | some cursor =>
            match decodeReadCursor codec cursor with
            | none => .error (refused .invalidArguments "cursor 无效" "invalid_cursor")
            | some value =>
                if value.videoId ≠ ref.videoId ∨ value.view ≠ request.view then
                  .error (refused .invalidArguments "cursor 与来源或读取视图不匹配"
                    "cursor_scope_mismatch")
                else if resolved ≠ none ∧ resolved ≠ some value.revision then
                  .error (refused .invalidArguments "cursor 与来源版本冲突" "revision_conflict")
                else .ok ⟨ref, some value.revision, value.offset⟩

/-- The result of a source that was captured or loaded. -/
def readCaptured (rules : TextRules) (codec : CursorCodec Token) (request : ReadRequest Token)
    (plan : ReadPlan) (maxCharacters : Nat) (captured : CapturedSource) : ReadResult Token :=
  let item := sourceView rules plan.sourceRef captured request.view plan.offset maxCharacters
    request.query
  let position := item.contentPosition
  let truncated := decide (position.stop < position.total)
  let available := availableViews rules captured.snapshot
  let requestedEmpty := request.view ≠ .overview ∧ isBlank rules (item.content.getD [])
  { status := if requestedEmpty then .empty else .ok
    summary :=
      if requestedEmpty then
        "本轮请求的 " ++ request.view.name ++ " 视图没有正文；可用视图：" ++
          (if available = [] then "无" else String.intercalate ", " available) ++
          "。不能据此断言其他视图也为空"
      else "已读取 " ++ request.view.name ++ "；覆盖范围为 " ++ captured.snapshot.coverage.name
    errorCode := none
    items := [item]
    resultRef := some ("assistant-object:" ++ captured.snapshotRef)
    sourceRefs := [{ plan.sourceRef with revision := some captured.revision }]
    truncated := truncated
    nextCursor :=
      if truncated then
        some (encodeReadCursor codec plan.sourceRef.videoId captured.revision.text request.view
          position.stop)
      else none
    coverage := some
      { requestedView := request.view
        requestedViewHasContent := !decide requestedEmpty
        availableViews := available
        bodyCoverage := captured.snapshot.coverage
        readPosition := position
        readComplete := position.total = position.stop ∧ request.query.getD [] = []
        selection := if request.query.getD [] ≠ [] then .relevantSpan else .sequential
        nextReadArgs := none } }

/-- `read`, on the collection and the snapshots as they are at the call. -/
def read (rules : TextRules) (codec : CursorCodec Token) (store : CollectionStore)
    (snapshots : SnapshotStore) (request : ReadRequest Token) (maxCharacters : Int) :
    ReadResult Token :=
  match planRead codec request maxCharacters with
  | .error refusal => refusal
  | .ok plan =>
      if !readAccepts store request.scope plan.sourceRef.videoId then
        refused .unavailable "该来源不在当前 Space 范围内" "source_out_of_scope"
      else
        match snapshots.captureOrLoad plan.sourceRef.videoId plan.revision with
        | none => refused .unavailable "指定的来源版本不存在或已不可用" "source_revision_not_found"
        | some captured => readCaptured rules codec request plan maxCharacters.toNat captured

/-! ## `clip_read_result` -/

/-- The body of the loop of `clip_read_result`; what remains of the budget is threaded through. -/
def clipItem (codec : CursorCodec Token) (progress : ReadResult Token × Nat) (item : SourceItem) :
    ReadResult Token × Nat :=
  let (result, remaining) := progress
  match item.content, result.coverage with
  | some text, some coverage =>
      let kept := text.take remaining
      let stop := item.contentPosition.start + kept.length
      let position := { item.contentPosition with stop := stop }
      let clipped :=
        { result with
          items := result.items ++ [{ item with content := some kept, contentPosition := position }]
          coverage := some { coverage with readPosition := position } }
      if kept.length < text.length then
        let ref := result.sourceRefs.head?.getD item.sourceRef
        let cursor := encodeReadCursor codec ref.videoId (ref.revision.getD item.revision).text
          coverage.requestedView stop
        ({ clipped with
            truncated := true
            nextCursor := some cursor
            coverage := some
              { coverage with
                readPosition := position
                readComplete := false
                nextReadArgs := some ⟨ref, coverage.requestedView, cursor⟩ } },
          remaining - kept.length)
      else (clipped, remaining - kept.length)
  | _, _ => ({ result with items := result.items ++ [item] }, remaining)

/-- `clip_read_result`. -/
def clipReadResult (codec : CursorCodec Token) (result : ReadResult Token) (maxCharacters : Int) :
    ReadResult Token :=
  (result.items.foldl (clipItem codec) ({ result with items := [] }, maxCharacters.toNat)).1

end Shiliu.Sources
