/-
Module: Shiliu.Assistant.WorkingContext
Purpose: The working context of a run: its entries, the projections of its messages, and the request
  they are put together to. A request is validated and budgeted as the provider does it; the size of
  a request is any function of what is sent. `fitUnfrozenTools` pages the results that are not
  frozen by trials, each of which changes the candidate it works on.
Trusted boundary: the texts of rendered notes and of paged tool results, the fingerprints of
  messages and the estimate of tokens are parameters
Main exports: Composer, Provider, WorkingContextCandidate, reframe, trial, fitUnfrozenTools
-/
import Mathlib.Logic.Function.Basic
import Shiliu.Assistant.ModelSequence
import Shiliu.Library.Bisection
import Shiliu.Library.Distinct

set_option linter.all false

namespace Shiliu.Assistant.WorkingContext

open Shiliu.Library Shiliu.Storage

/-! ## Messages and their projections -/

/-- `identity` of a projection. -/
structure MessageIdentity where
  id : String
  seq : Int
  runId : Option String
  role : ModelRole
  createdAt : String

/-- What a message is shown as. -/
structure Projection where
  identity : MessageIdentity
  message : ModelMessage
  dependencyRefs : List String
  sourceMessageIds : List String
  materials : List String
  confirmed : Bool

/-- `model_projection` of a payload. -/
structure StoredProjection where
  formatVersion : Int
  sourceFingerprint : String
  projection : Projection

/-- A message of the thread, with what its payload says of the call it makes or answers. -/
structure RawMessage where
  id : String
  seq : Int
  runId : Option String
  role : ModelRole
  content : String
  createdAt : String
  toolCalls : List ToolCall
  toolCallId : Option String
  name : Option String
  dependencyRefs : List String
  stored : Option StoredProjection

/-- `_provider_message`. -/
def providerMessage (item : RawMessage) : Except ContextFailure ModelMessage :=
  match item.role with
  | .assistant =>
      if item.toolCalls ≠ [] then
        .ok ⟨.assistant, if item.content = "" then none else some item.content, item.toolCalls,
          none, none⟩
      else if item.id ≠ "" ∧ item.content ≠ "" then
        .ok ⟨.assistant, some ("【正式回答 message_id: " ++ item.id ++ "】\n" ++ item.content), [],
          none, none⟩
      else .ok ⟨.assistant, some item.content, [], none, none⟩
  | .tool =>
      match item.toolCallId with
      | none => .error .keyError
      | some callId =>
          .ok ⟨.tool, some (if item.content = "" then "{}" else item.content), [], some callId,
            item.name⟩
  | .user =>
      if item.id ≠ "" then
        .ok ⟨.user, some ("【用户消息 message_id: " ++ item.id ++ "；时间: " ++ item.createdAt ++
          "】\n" ++ item.content), [], none, none⟩
      else .ok ⟨.user, some item.content, [], none, none⟩
  | .system => .ok ⟨.system, some item.content, [], none, none⟩

/-! ## Entries, requests and budgets -/

/-- A block of application data. -/
structure ApplicationBlock where
  blockType : String
  key : String
  content : String
  dependencyRefs : List String
  sourceMessageIds : List String
  materials : List String
  confirmed : Bool

inductive Entry where
  | message (messageId : String)
  | block (block : ApplicationBlock)

def Entry.messageId? : Entry → Option String
  | .message messageId => some messageId
  | .block _ => none

/-- The note that replaced a prefix of the history. -/
structure CheckpointNote where
  id : String
  noteVersion : Int
  baseRevision : Int
  text : String
  replacedPrefixUntilSeq : Int
  replacedMessageIds : List String
  protectedMessageIds : List String
  sourceMessageIds : List String
  materialIndex : List String
  dependencies : List String
  sourceRunIds : List (Option String)

/-- `state` of a candidate. -/
structure ContextState where
  entries : List Entry
  protectedMessageIds : List String
  lastAttemptHistoryFrontier : Option Int
  checkpoint : Option (String × Int)

/-- The body of a request. -/
structure RequestBody where
  messages : List ModelMessage
  tools : List String
  maxTokens : Int
  stream : Bool

structure PreparedRequest where
  baseUrl : String
  model : String
  body : RequestBody
  inputTokens : Nat

structure RequestBudget where
  inputTokens : Nat
  inputLimitTokens : Int
  sharedWindowTokens : Int
  outputTokens : Int
  uncountedInputTokens : Int
  availableInputTokens : Int

def RequestBudget.fits (budget : RequestBudget) : Bool :=
  (budget.inputTokens : Int) ≤ budget.availableInputTokens

structure EndpointCapabilities where
  baseUrl : String
  model : String
  sharedWindowTokens : Int
  maxOutputTokens : Int
  uncountedInputTokens : Int

/-- A provider. `estimate` counts the tokens of the messages and tools of a request. -/
structure Provider where
  baseUrl : String
  model : String
  capabilities : Option EndpointCapabilities
  streams : Bool
  estimate : List ModelMessage → List String → Nat

/-- `value.rstrip('/')`. -/
def trimSlashes (value : String) : String :=
  String.ofList (value.toList.reverse.dropWhile (· = '/')).reverse

/-- `prepare_request`. -/
def Provider.prepareRequest (provider : Provider) (messages : List ModelMessage)
    (tools : List String) (maxTokens : Int) (stream : Bool) :
    Except ContextFailure PreparedRequest := do
  ensure (0 < maxTokens) (.pipelineError "bad_provider_request")
  return ⟨provider.baseUrl, provider.model, ⟨messages, tools, maxTokens, stream⟩,
    provider.estimate messages tools⟩

/-- `request_budget`. -/
def requestBudget (request : PreparedRequest) (capabilities : EndpointCapabilities)
    (inputLimitTokens : Int) : Except ContextFailure RequestBudget := do
  ensure (trimSlashes request.baseUrl = trimSlashes capabilities.baseUrl ∧
    request.model = capabilities.model) (.pipelineError "bad_provider_config")
  let output := request.body.maxTokens
  ensure (0 < inputLimitTokens ∧ 0 < output ∧ output ≤ capabilities.maxOutputTokens)
    (.pipelineError "provider_capacity_invalid")
  return ⟨request.inputTokens, inputLimitTokens, capabilities.sharedWindowTokens, output,
    capabilities.uncountedInputTokens, min inputLimitTokens
      (capabilities.sharedWindowTokens - output - capabilities.uncountedInputTokens)⟩

/-- `budget_request`. -/
def Provider.budgetRequest (provider : Provider) (request : PreparedRequest)
    (inputLimitTokens : Int) : Except ContextFailure RequestBudget :=
  match provider.capabilities with
  | none => .error (.pipelineError "provider_capabilities_unknown")
  | some capabilities => requestBudget request capabilities inputLimitTokens

/-! ## The composer -/

/-- What a tool result is shown as, whole or with a number of its characters. -/
structure Represented where
  content : String
  dependencyRefs : List String
  sourceMessageIds : List String
  materials : List String

structure Composer where
  systemRules : String
  /-- `task_notes.render`. -/
  render : CheckpointNote → String
  /-- `message_context_fingerprint`. -/
  fingerprint : RawMessage → String
  /-- `project_tool_result` and `read_evidence` of a tool result. -/
  represented : RawMessage → Option Nat → Represented

/-- The working context a request is made of. `messages` and `taskNote` are those of the thread. -/
structure WorkingContextCandidate where
  expectedRevision : Int
  state : ContextState
  projections : String → Option Projection
  request : PreparedRequest
  budget : RequestBudget
  messages : List RawMessage
  taskNote : Option (String × Int)
  checkpoint : Option CheckpointNote
  frozenIds : List String

/-- `message_ids`. -/
def messageIds (entries : List Entry) : List String :=
  entries.filterMap Entry.messageId?

/-- `by_id[mid]`: of two messages with one id the dictionary keeps the later one. -/
def messageById (messages : List RawMessage) (messageId : String) :
    Except ContextFailure RawMessage :=
  match messages.reverse.find? (·.id = messageId) with
  | none => .error .keyError
  | some item => .ok item

/-- `raw[mid]`. -/
def WorkingContextCandidate.rawMessage (candidate : WorkingContextCandidate) (messageId : String) :
    Except ContextFailure RawMessage :=
  messageById candidate.messages messageId

/-- `_projection`. -/
def Composer.projection (composer : Composer) (item : RawMessage) (bodyCharacters : Option Nat) :
    Except ContextFailure Projection :=
  match item.stored with
  | some stored => do
      ensure (stored.formatVersion = 1 ∧ stored.sourceFingerprint = composer.fingerprint item)
        (.assistantConflict "working_projection_incompatible")
      ensure (bodyCharacters = none) (.assistantConflict "working_projection_frozen")
      return stored.projection
  | none => do
      let message ← providerMessage item
      let identity := ⟨item.id, item.seq, item.runId, item.role, item.createdAt⟩
      if item.role = .tool then
        let shown := composer.represented item bodyCharacters
        return ⟨identity, { message with content := some shown.content },
          distinct (item.dependencyRefs ++ shown.dependencyRefs), shown.sourceMessageIds,
          shown.materials, false⟩
      else return ⟨identity, message, distinct item.dependencyRefs, [], [], false⟩

/-- The message an entry is sent as. -/
def entryMessage (projections : String → Option Projection) : Entry →
    Except ContextFailure ModelMessage
  | .message messageId =>
      match projections messageId with
      | none => .error .keyError
      | some projection => .ok projection.message
  | .block block => .ok (systemMessage block.content)

/-- What comes before the entries of a request. -/
def Composer.preamble (composer : Composer) (checkpoint : Option CheckpointNote) :
    List ModelMessage :=
  systemMessage composer.systemRules ::
    (checkpoint.map fun note => systemMessage (composer.render note)).toList

/-- `_request`. -/
def requestOf (composer : Composer) (provider : Provider) (entries : List Entry)
    (projections : String → Option Projection) (checkpoint : Option CheckpointNote)
    (tools : List String) (outputTokens inputLimitTokens : Int) :
    Except ContextFailure (PreparedRequest × RequestBudget) := do
  let shown ← entries.mapM (entryMessage projections)
  let messages := composer.preamble checkpoint ++ shown
  validateModelSequence messages
  let request ← provider.prepareRequest messages tools outputTokens provider.streams
  let budget ← provider.budgetRequest request inputLimitTokens
  return (request, budget)

/-- `reframe`. -/
def reframe (composer : Composer) (provider : Provider) (suffix : Option String)
    (candidate : WorkingContextCandidate) : Except ContextFailure WorkingContextCandidate := do
  let (request, budget) ← requestOf composer provider candidate.state.entries
    candidate.projections candidate.checkpoint candidate.request.body.tools
    candidate.request.body.maxTokens candidate.budget.inputLimitTokens
  if truthy suffix then
    let request ← provider.prepareRequest
      (request.body.messages ++ [systemMessage (suffix.getD "")]) request.body.tools
      request.body.maxTokens request.body.stream
    let budget ← provider.budgetRequest request candidate.budget.inputLimitTokens
    return { candidate with request := request, budget := budget }
  else return { candidate with request := request, budget := budget }

/-- The end of `prepare`: the messages among the entries of the state are projected, and the request
is put together. -/
def prepareCandidate (composer : Composer) (provider : Provider) (expectedRevision : Int)
    (state : ContextState) (messages : List RawMessage) (taskNote : Option (String × Int))
    (checkpoint : Option CheckpointNote) (tools : List String)
    (outputTokens inputLimitTokens : Int) : Except ContextFailure WorkingContextCandidate := do
  let projections ← (messageIds state.entries).foldlM (fun projections messageId => do
    let item ← messageById messages messageId
    let projection ← composer.projection item none
    return Function.update projections messageId (some projection))
    (fun _ => none : String → Option Projection)
  let (request, budget) ← requestOf composer provider state.entries projections checkpoint tools
    outputTokens inputLimitTokens
  return {
    expectedRevision := expectedRevision
    state := state
    projections := projections
    request := request
    budget := budget
    messages := messages
    taskNote := taskNote
    checkpoint := checkpoint
    frozenIds := (messages.filter fun item => item.stored.isSome).map RawMessage.id }

/-! ## Fitting the results that are not frozen -/

/-- `name in {'collection_read', 'knowledge_read'} or name.startswith('context7_')`. -/
def pageableName (name : String) : Bool :=
  name = "collection_read" ∨ name = "knowledge_read" ∨ name.startsWith "context7_"

/-- A message of the context that can be paged. -/
def WorkingContextCandidate.isPageable (candidate : WorkingContextCandidate) (messageId : String) :
    Except ContextFailure Bool :=
  if messageId ∈ candidate.frozenIds then .ok false
  else do
    let item ← candidate.rawMessage messageId
    return item.role = .tool && pageableName (item.name.getD "")

/-- The messages of a list that can be paged. -/
def WorkingContextCandidate.pageable (candidate : WorkingContextCandidate) :
    List String → Except ContextFailure (List String)
  | [] => .ok []
  | messageId :: rest => do
      let pages ← candidate.isPageable messageId
      let others ← candidate.pageable rest
      return if pages then messageId :: others else others

/-- The projection of a message with a number of its characters. -/
def repage (composer : Composer) (candidate : WorkingContextCandidate) (messageId : String)
    (bodyCharacters : Nat) : Except ContextFailure Projection := do
  let item ← candidate.rawMessage messageId
  composer.projection item (some bodyCharacters)

/-- `trial`: the results get the sizes they are allotted, and the request is put together anew.
Tools, output and limit are those of the candidate the fitting began with. -/
def trial (composer : Composer) (provider : Provider) (suffix : Option String)
    (candidate : WorkingContextCandidate) (pageable : List String) (allocations : String → Nat)
    (result : WorkingContextCandidate) :
    Except ContextFailure (Bool × WorkingContextCandidate) := do
  let projections ← pageable.foldlM (fun projections messageId => do
    let projection ← repage composer candidate messageId (allocations messageId)
    return Function.update projections messageId (some projection)) result.projections
  let (request, budget) ← requestOf composer provider result.state.entries projections
    result.checkpoint candidate.request.body.tools candidate.request.body.maxTokens
    candidate.budget.inputLimitTokens
  let result := { result with projections := projections, request := request, budget := budget }
  if truthy suffix then
    let reframed ← reframe composer provider suffix result
    let result := { result with request := reframed.request, budget := reframed.budget }
    return (result.budget.fits, result)
  else return (result.budget.fits, result)

/-- `len(raw[mid]['content'])`. -/
def WorkingContextCandidate.contentLength (candidate : WorkingContextCandidate)
    (messageId : String) : Except ContextFailure Nat := do
  let item ← candidate.rawMessage messageId
  return item.content.length

/-- One turn of the loop over the results: the result is allotted what is left over for it. -/
def enlarge (composer : Composer) (provider : Provider) (suffix : Option String)
    (candidate : WorkingContextCandidate) (pageable : List String) (share : Nat)
    (turn : (String → Nat) × WorkingContextCandidate) (messageId : String) :
    Except ContextFailure ((String → Nat) × WorkingContextCandidate) := do
  let length ← candidate.contentLength messageId
  let (left, result) ← seekGreatest (fun extra =>
    trial composer provider suffix candidate pageable (Function.update turn.1 messageId extra))
    share length turn.2
  return (Function.update turn.1 messageId left, result)

/-- `fit_unfrozen_tools`. -/
def fitUnfrozenTools (composer : Composer) (provider : Provider) (suffix : Option String)
    (candidate : WorkingContextCandidate) : Except ContextFailure WorkingContextCandidate :=
  if candidate.budget.fits then .ok candidate
  else do
    let pageable ← candidate.pageable (messageIds candidate.state.entries)
    ensure (pageable ≠ []) (.contextBudgetExceeded "没有可分页的未冻结结果")
    let (fits, result) ← trial composer provider suffix candidate pageable (fun _ => 0) candidate
    ensure (fits = true) (.contextBudgetExceeded "必要原文与完整工具骨架已超过实际输入额度")
    let lengths ← pageable.mapM candidate.contentLength
    let (share, result) ← seekGreatest (fun share =>
      trial composer provider suffix candidate pageable fun _ => share) 0 (lengths.foldr max 0) result
    let (allocations, result) ← pageable.foldlM
      (enlarge composer provider suffix candidate pageable share) (fun _ => share, result)
    let (_, result) ← trial composer provider suffix candidate pageable allocations result
    return result

/-! ## Requests that are put together -/

/-- A provider that takes an output and budgets against a limit. -/
structure Provider.Accepts (provider : Provider) (outputTokens inputLimitTokens : Int)
    (capabilities : EndpointCapabilities) : Prop where
  known : provider.capabilities = some capabilities
  endpoint : trimSlashes provider.baseUrl = trimSlashes capabilities.baseUrl
  model : provider.model = capabilities.model
  output : 0 < outputTokens
  limit : 0 < inputLimitTokens
  within : outputTokens ≤ capabilities.maxOutputTokens

/-- The tokens a request may use for its input. -/
def EndpointCapabilities.available (capabilities : EndpointCapabilities)
    (outputTokens inputLimitTokens : Int) : Int :=
  min inputLimitTokens
    (capabilities.sharedWindowTokens - outputTokens - capabilities.uncountedInputTokens)

/-- The entries, shown as messages. -/
abbrev Shown (projections : String → Option Projection) (entries : List Entry)
    (messages : List ModelMessage) : Prop :=
  List.Forall₂ (fun entry message => entryMessage projections entry = .ok message) entries messages

/-- What a suffix adds to a request. -/
def suffixMessages (suffix : Option String) : List ModelMessage :=
  if truthy suffix then [systemMessage (suffix.getD "")] else []

theorem validateModelSequence_systemMessage (content : String) (messages : List ModelMessage) :
    validateModelSequence (systemMessage content :: messages) = validateModelSequence messages := by
  simp [validateModelSequence, systemMessage, ensure, bind, Except.bind]

/-- The check passes over what comes before the entries. -/
theorem Composer.validate_preamble (composer : Composer) (checkpoint : Option CheckpointNote)
    (messages : List ModelMessage) :
    validateModelSequence (composer.preamble checkpoint ++ messages) =
      validateModelSequence messages := by
  cases checkpoint with
  | none => exact validateModelSequence_systemMessage _ _
  | some note =>
      rw [Composer.preamble, List.cons_append, validateModelSequence_systemMessage]
      exact validateModelSequence_systemMessage _ _

section Requests

variable {composer : Composer} {provider : Provider} {suffix : Option String}
  {outputTokens inputLimitTokens : Int} {capabilities : EndpointCapabilities}

theorem Provider.Accepts.prepareRequest
    (accepts : provider.Accepts outputTokens inputLimitTokens capabilities)
    (messages : List ModelMessage) (tools : List String) (stream : Bool) :
    provider.prepareRequest messages tools outputTokens stream =
      .ok ⟨provider.baseUrl, provider.model, ⟨messages, tools, outputTokens, stream⟩,
        provider.estimate messages tools⟩ := by
  rw [Provider.prepareRequest, ensure_then_eq_ok]
  exact ⟨accepts.output, rfl⟩

theorem Provider.Accepts.budgetRequest
    (accepts : provider.Accepts outputTokens inputLimitTokens capabilities)
    (messages : List ModelMessage) (tools : List String) (stream : Bool) (inputTokens : Nat) :
    provider.budgetRequest ⟨provider.baseUrl, provider.model,
        ⟨messages, tools, outputTokens, stream⟩, inputTokens⟩ inputLimitTokens =
      .ok ⟨inputTokens, inputLimitTokens, capabilities.sharedWindowTokens, outputTokens,
        capabilities.uncountedInputTokens,
        capabilities.available outputTokens inputLimitTokens⟩ := by
  simp only [Provider.budgetRequest, accepts.known, requestBudget, ensure_then_eq_ok]
  exact ⟨⟨accepts.endpoint, accepts.model⟩, ⟨accepts.limit, accepts.output, accepts.within⟩, rfl⟩

theorem requestOf_ok (accepts : provider.Accepts outputTokens inputLimitTokens capabilities)
    {entries : List Entry} {projections : String → Option Projection}
    {messages : List ModelMessage} (shown : Shown projections entries messages)
    (valid : ValidSequence messages) (checkpoint : Option CheckpointNote) (tools : List String) :
    requestOf composer provider entries projections checkpoint tools outputTokens
        inputLimitTokens =
      .ok (⟨provider.baseUrl, provider.model,
          ⟨composer.preamble checkpoint ++ messages, tools, outputTokens, provider.streams⟩,
          provider.estimate (composer.preamble checkpoint ++ messages) tools⟩,
        ⟨provider.estimate (composer.preamble checkpoint ++ messages) tools, inputLimitTokens,
          capabilities.sharedWindowTokens, outputTokens, capabilities.uncountedInputTokens,
          capabilities.available outputTokens inputLimitTokens⟩) := by
  rw [requestOf, mapM_eq_ok.mpr shown]
  simp only [bind, Except.bind, composer.validate_preamble, valid.passes,
    accepts.prepareRequest, accepts.budgetRequest, pure, Except.pure]

/-- Framing puts the same request together, with the suffix behind it. -/
theorem reframe_ok {candidate : WorkingContextCandidate}
    (accepts : provider.Accepts candidate.request.body.maxTokens candidate.budget.inputLimitTokens
      capabilities)
    {messages : List ModelMessage}
    (shown : Shown candidate.projections candidate.state.entries messages)
    (valid : ValidSequence messages) (suffix : Option String) :
    ∃ request budget,
      reframe composer provider suffix candidate =
        .ok { candidate with request := request, budget := budget } ∧
      request.body.tools = candidate.request.body.tools ∧
      request.body.maxTokens = candidate.request.body.maxTokens ∧
      request.inputTokens = provider.estimate
        (composer.preamble candidate.checkpoint ++ messages ++ suffixMessages suffix)
        candidate.request.body.tools ∧
      budget.inputTokens = request.inputTokens ∧
      budget.inputLimitTokens = candidate.budget.inputLimitTokens ∧
      budget.availableInputTokens = capabilities.available candidate.request.body.maxTokens
        candidate.budget.inputLimitTokens := by
  rw [reframe, requestOf_ok accepts shown valid]
  by_cases framed : truthy suffix = true
  · simp only [bind, Except.bind, if_pos framed, accepts.prepareRequest, accepts.budgetRequest,
      suffixMessages]
    exact ⟨_, _, rfl, rfl, rfl, rfl, rfl, rfl, rfl⟩
  · simp only [bind, Except.bind, if_neg framed, suffixMessages, List.append_nil]
    exact ⟨_, _, rfl, rfl, rfl, rfl, rfl, rfl, rfl⟩

end Requests

/-! ## Candidates as they are prepared -/

/-- What holds of a candidate that was prepared for a provider. Each message is an entry once and
is a message of the thread; one that is not frozen has no stored projection, and is shown as a
projection of itself. Its sequence passed the check, and the provider took its request and counted
it. -/
structure Prepared (provider : Provider) (candidate : WorkingContextCandidate)
    (capabilities : EndpointCapabilities) (messages : List ModelMessage) : Prop where
  once : (messageIds candidate.state.entries).Nodup
  unfrozen : ∀ messageId ∈ messageIds candidate.state.entries, messageId ∉ candidate.frozenIds →
    ∃ item message projection, candidate.rawMessage messageId = .ok item ∧ item.stored = none ∧
      providerMessage item = .ok message ∧ candidate.projections messageId = some projection ∧
      projection.message.protocol = message.protocol
  shown : Shown candidate.projections candidate.state.entries messages
  valid : ValidSequence messages
  accepts : provider.Accepts candidate.request.body.maxTokens candidate.budget.inputLimitTokens
    capabilities
  counted : candidate.budget.inputTokens = candidate.request.inputTokens

theorem messageById_eq_ok {messages : List RawMessage} {messageId : String} {item : RawMessage}
    (isItem : messageById messages messageId = .ok item) :
    item ∈ messages ∧ item.id = messageId := by
  unfold messageById at isItem
  split at isItem
  · nomatch isItem
  · next found isFound =>
      obtain rfl := Except.ok.inj isItem
      exact ⟨List.mem_reverse.mp (List.mem_of_find?_eq_some isFound),
        by simpa using List.find?_some isFound⟩

theorem Composer.projection_fresh {composer : Composer} {item : RawMessage}
    {bodyCharacters : Option Nat} {projection : Projection} (fresh : item.stored = none)
    (isProjection : composer.projection item bodyCharacters = .ok projection) :
    ∃ message, providerMessage item = .ok message ∧
      projection.message.protocol = message.protocol := by
  simp only [Composer.projection, fresh, bind_eq_ok] at isProjection
  obtain ⟨message, isMessage, isProjection⟩ := isProjection
  refine ⟨message, isMessage, ?_⟩
  split at isProjection
  · obtain rfl := pure_eq_ok.mp isProjection
    rfl
  · obtain rfl := pure_eq_ok.mp isProjection
    rfl

theorem foldlM_projection {composer : Composer} {raw : List RawMessage} {ids : List String}
    {projections after : String → Option Projection}
    (ran : (ids.foldlM (fun projections messageId => do
        let item ← messageById raw messageId
        let projection ← composer.projection item none
        return Function.update projections messageId (some projection)) projections :
      Except ContextFailure _) = .ok after) :
    (∀ messageId, messageId ∉ ids → after messageId = projections messageId) ∧
      ∀ messageId ∈ ids, ∃ item projection, messageById raw messageId = .ok item ∧
        composer.projection item none = .ok projection ∧ after messageId = some projection := by
  induction ids generalizing projections with
  | nil =>
      obtain rfl := pure_eq_ok.mp ran
      exact ⟨fun _ _ => rfl, by simp⟩
  | cons messageId rest inductionHypothesis =>
      rw [List.foldlM_cons, bind_eq_ok] at ran
      obtain ⟨next, isNext, ran⟩ := ran
      simp only [bind_eq_ok, pure_eq_ok] at isNext
      obtain ⟨item, isItem, projection, isProjection, rfl⟩ := isNext
      obtain ⟨others, each⟩ := inductionHypothesis ran
      constructor
      · intro other absent
        rw [List.mem_cons, not_or] at absent
        rw [others other absent.2, Function.update_of_ne absent.1]
      · intro other member
        by_cases later : other ∈ rest
        · exact each other later
        · obtain rfl := (List.mem_cons.mp member).resolve_right later
          exact ⟨item, projection, isItem, isProjection, by rw [others _ later, Function.update_self]⟩

theorem Provider.accepts_of_budgetRequest {provider : Provider} {request : PreparedRequest}
    {budget : RequestBudget} {inputLimitTokens : Int} (isUrl : request.baseUrl = provider.baseUrl)
    (isModel : request.model = provider.model)
    (isBudget : provider.budgetRequest request inputLimitTokens = .ok budget) :
    ∃ capabilities, provider.Accepts request.body.maxTokens inputLimitTokens capabilities ∧
      budget.inputTokens = request.inputTokens ∧ budget.inputLimitTokens = inputLimitTokens := by
  unfold Provider.budgetRequest at isBudget
  split at isBudget
  · nomatch isBudget
  · next capabilities known =>
      simp only [requestBudget, ensure_then_eq_ok, pure_eq_ok] at isBudget
      obtain ⟨⟨endpoint, model⟩, ⟨limit, output, within⟩, rfl⟩ := isBudget
      exact ⟨capabilities, ⟨known, isUrl ▸ endpoint, isModel ▸ model, output, limit, within⟩, rfl,
        rfl⟩

theorem prepareCandidate_prepared {composer : Composer} {provider : Provider}
    {expectedRevision : Int} {state : ContextState} {raw : List RawMessage}
    {taskNote : Option (String × Int)} {checkpoint : Option CheckpointNote} {tools : List String}
    {outputTokens inputLimitTokens : Int} {candidate : WorkingContextCandidate}
    (once : (messageIds state.entries).Nodup)
    (isCandidate : prepareCandidate composer provider expectedRevision state raw taskNote
      checkpoint tools outputTokens inputLimitTokens = .ok candidate) :
    ∃ capabilities messages, Prepared provider candidate capabilities messages := by
  simp only [prepareCandidate, bind_eq_ok, pure_eq_ok] at isCandidate
  obtain ⟨projections, isProjections, ⟨request, budget⟩, isRequest, rfl⟩ := isCandidate
  obtain ⟨-, each⟩ := foldlM_projection isProjections
  simp only [requestOf, bind_eq_ok, pure_eq_ok, Prod.mk.injEq] at isRequest
  obtain ⟨shown, isShown, ⟨⟩, passes, _, isPrepared, _, isBudget, rfl, rfl⟩ := isRequest
  rw [Provider.prepareRequest, ensure_then_eq_ok, pure_eq_ok] at isPrepared
  obtain ⟨-, rfl⟩ := isPrepared
  obtain ⟨capabilities, accepts, counted, isLimit⟩ :=
    Provider.accepts_of_budgetRequest rfl rfl isBudget
  refine ⟨capabilities, shown, ?_⟩
  exact {
    once := once
    unfrozen := by
      intro messageId member unfrozen
      obtain ⟨item, projection, isItem, isProjection, isAfter⟩ := each messageId member
      obtain ⟨isMessage, isId⟩ := messageById_eq_ok isItem
      have fresh : item.stored = none := by
        by_contra stored
        apply unfrozen
        exact List.mem_map.mpr ⟨item, List.mem_filter.mpr
          ⟨isMessage, by simpa [Option.isSome_iff_ne_none] using stored⟩, isId⟩
      obtain ⟨message, isShownMessage, alike⟩ := Composer.projection_fresh fresh isProjection
      exact ⟨item, message, projection, isItem, fresh, isShownMessage, isAfter, alike⟩
    shown := mapM_eq_ok.mp isShown
    valid := validSequence_of_passes (composer.validate_preamble checkpoint shown ▸ passes)
    accepts := isLimit ▸ accepts
    counted := counted }

end Shiliu.Assistant.WorkingContext
