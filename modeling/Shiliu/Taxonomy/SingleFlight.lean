/-
Module: Shiliu.Taxonomy.SingleFlight
Purpose: The provider calls of one call directory. Any number of processes run `invoke` and then
  accept or reject what they were returned; they share the lease and takeover file of each request
  kind, the response ledger, the immutable response files and the accepted pointer. A step is one
  file operation of one process: an exclusive create, the write that fills the file, a read, or
  the rename that replaces a lease. The heartbeat thread of a process has steps of its own, and a
  process can end between any two of its steps.
Trusted boundary: a file is read and written in one step, `uuid4` gives each process its own owner
  id (its number), and whether an owner is alive comes with the step that asks
Main exports: CallDirectory, findResponse, Process, advance, World, step
-/
import Mathlib.Logic.Function.Basic
import Shiliu.Library.Transition

set_option linter.all false

namespace Shiliu.Taxonomy

inductive RequestKind where
  | primary
  | jsonRepair
deriving DecidableEq

/-- `code` and `retryable` of a `PipelineError`, or the error of reading a JSON file that was
created and never filled, or the exception of the provider. -/
inductive CallFailure where
  | pipeline (code : String) (retryable : Bool)
  | unreadable
  | provider

structure CompletionResponse where
  content : String
  responseId : Option String
  reasoningContent : Option String

/-- `responses/<kind>/response-<key>.txt`, or `reasoning-<key>.txt` beside it. -/
structure ResponsePath where
  requestKind : RequestKind
  reasoning : Bool
  safeKey : String
deriving DecidableEq

/-- What the code takes from outside: `_sha256_text`, the `re.sub` that makes a response key a file
name, and `lease_seconds` in milliseconds. -/
structure SingleFlightRules where
  sha256 : String → String
  safeKey : String → String
  leaseMillis : Nat

/-! ## The files -/

inductive LeaseState where
  | prepared
  | requesting
  | repairRequesting
  | responseReceived
  | persisted
  | completed
  | failed
  | validationFailed
  | abandoned
deriving DecidableEq

/-- The fields of a lease file that are read back. -/
structure Lease where
  ownerId : Nat
  state : LeaseState
  leaseExpiresAt : Nat
  responseReceivedAt : Option Nat
  rawResponsePath : Option ResponsePath

structure PersistedResponse where
  responseId : Option String
  requestKind : RequestKind
  attemptId : String
  ownerId : Nat
  rawPath : ResponsePath
  rawSha256 : String
  reasoning : Option (ResponsePath × String)

/-- `ProviderInvocation`. -/
structure Invocation where
  response : CompletionResponse
  rawPath : ResponsePath
  rawSha256 : String
  requestKind : RequestKind
  attemptId : String
  ownerId : Nat

structure AcceptedPointer where
  responseId : Option String
  requestKind : RequestKind
  attemptId : String
  rawPath : ResponsePath
  rawSha256 : String

inductive LedgerEvent where
  | responsePersisted (row : PersistedResponse)
  | responseAccepted (pointer : AcceptedPointer)

/-- A call directory. A JSON file is absent, created but not filled, or holds its value; a text file
that was created but not filled is empty. -/
structure CallDirectory where
  leases : RequestKind → Option (Option Lease)
  takeovers : RequestKind → Bool
  ledger : List LedgerEvent
  files : ResponsePath → Option String
  accepted : Option (Option AcceptedPointer)

namespace CallDirectory

def empty : CallDirectory where
  leases _ := none
  takeovers _ := false
  ledger := []
  files _ := none
  accepted := none

def setLease (directory : CallDirectory) (kind : RequestKind) (lease : Option Lease) :
    CallDirectory :=
  { directory with leases := Function.update directory.leases kind (some lease) }

def setFile (directory : CallDirectory) (path : ResponsePath) (text : String) : CallDirectory :=
  { directory with files := Function.update directory.files path (some text) }

def append (directory : CallDirectory) (event : LedgerEvent) : CallDirectory :=
  { directory with ledger := directory.ledger ++ [event] }

/-- The `response_persisted` events of a kind and an attempt. -/
def rows (directory : CallDirectory) (kind : RequestKind) (attemptId : String) :
    List PersistedResponse :=
  directory.ledger.filterMap fun
    | .responsePersisted row =>
        if row.requestKind = kind ∧ row.attemptId = attemptId then some row else none
    | .responseAccepted _ => none

/-- What a row is returned as, once its files have been checked. -/
def readRow (rules : SingleFlightRules) (directory : CallDirectory) (row : PersistedResponse)
    (raw : String) : Except CallFailure Invocation :=
  let mismatch := CallFailure.pipeline "provider_response_hash_mismatch" false
  let invocation (reasoningContent : Option String) : Invocation :=
    ⟨⟨raw, row.responseId, reasoningContent⟩, row.rawPath, row.rawSha256, row.requestKind,
      row.attemptId, row.ownerId⟩
  if rules.sha256 raw ≠ row.rawSha256 then .error mismatch
  else
    match row.reasoning with
    | none => .ok (invocation none)
    | some (path, digest) =>
        match directory.files path with
        | some text =>
            if rules.sha256 text = digest then .ok (invocation (some text)) else .error mismatch
        | none => .error mismatch

def firstReadable (rules : SingleFlightRules) (directory : CallDirectory) :
    List PersistedResponse → Except CallFailure (Option Invocation)
  | [] => .ok none
  | row :: rest =>
      match directory.files row.rawPath with
      | none => firstReadable rules directory rest
      | some raw => some <$> readRow rules directory row raw

def findResponse (rules : SingleFlightRules) (directory : CallDirectory) (kind : RequestKind)
    (attemptId : String) : Except CallFailure (Option Invocation) :=
  firstReadable rules directory (directory.rows kind attemptId).reverse

end CallDirectory

/-! ## The process -/

/-- The call of `_update` a process is in. -/
inductive Stage where
  | requesting
  | failed
  | received (response : CompletionResponse)
  | persisted (invocation : Invocation)
  | completed (invocation : Invocation)
  | validationFailed (invocation : Invocation)

inductive Phase where
  | looking
  | acquiring
  | creating
  | filling
  | reading
  | judging (lease : Lease)
  | takingOver (lease : Lease)
  | abandoning (lease : Lease)
  | rechecking
  | updating (stage : Stage)
  | replacing (stage : Stage) (lease : Lease)
  | calling
  | awaiting
  | opening (reasoning : Bool) (response : CompletionResponse)
  | writing (reasoning : Bool) (response : CompletionResponse)
  | recording (response : CompletionResponse)
  | returned (invocation : Invocation)
  | accepting (invocation : Invocation)
  | pointing (invocation : Invocation)
  | fillingPointer (invocation : Invocation)
  | recordingAccepted (invocation : Invocation)
  | finished
  | raised (failure : CallFailure)
  | ended

structure Process where
  requestKind : RequestKind
  attemptId : String
  phase : Phase
  /-- The heartbeat thread runs and has not been told to stop. -/
  beating : Bool
  /-- The lease the heartbeat thread has read and is about to write. -/
  beat : Option Lease

def Process.goto (process : Process) (phase : Phase) : Process :=
  { process with phase := phase }

/-- What the caller does with an invocation it was returned. -/
inductive Verdict where
  | accept
  | markValidationFailed
  | keep

/-- What a step is told from outside. -/
structure Answer where
  ownerAlive : Option Bool
  reply : Option CompletionResponse
  verdict : Verdict

/-- The owner `_update` compares with: `_mark_lease` takes that of the invocation. -/
def Stage.ownerId (index : Nat) : Stage → Nat
  | .completed invocation | .validationFailed invocation => invocation.ownerId
  | _ => index

/-- `lease.update(changes)`, with the new expiry where the state says that a request runs. -/
def Stage.apply (rules : SingleFlightRules) (kind : RequestKind) (now : Nat) (lease : Lease)
    (stage : Stage) : Lease :=
  let changed : Lease :=
    match stage with
    | .requesting =>
        { lease with state := if kind = .jsonRepair then .repairRequesting else .requesting }
    | .failed => { lease with state := .failed }
    | .received _ => { lease with state := .responseReceived, responseReceivedAt := some now }
    | .persisted invocation =>
        { lease with state := .persisted, rawResponsePath := some invocation.rawPath }
    | .completed _ => { lease with state := .completed }
    | .validationFailed _ => { lease with state := .validationFailed }
  if changed.state = .requesting ∨ changed.state = .repairRequesting then
    { changed with leaseExpiresAt := now + rules.leaseMillis }
  else changed

def Stage.next : Stage → Phase
  | .requesting => .calling
  | .failed => .raised .provider
  | .received response => .opening false response
  | .persisted invocation => .returned invocation
  | .completed _ | .validationFailed _ => .finished

/-- `acquire` after it has read a lease and found no response. -/
def judge (now : Nat) (ownerAlive : Option Bool) (lease : Lease) : Phase :=
  if lease.state = .failed ∨ lease.state = .validationFailed ∨ lease.state = .abandoned then
    .raised (.pipeline "provider_attempt_failed_new_attempt_required" true)
  else if now < lease.leaseExpiresAt then .raised (.pipeline "provider_already_in_progress" true)
  else if ownerAlive ≠ some false then
    .raised (.pipeline "provider_lease_owner_unconfirmed" true)
  else if lease.rawResponsePath.isSome ∨ lease.responseReceivedAt.isSome ∨
      lease.state = .responseReceived ∨ lease.state = .persisted ∨ lease.state = .completed then
    .raised (.pipeline "provider_response_marker_without_ledger" false)
  else .takingOver lease

/-- `response_id`, or a name made of the hash of the content. -/
def responseKey (rules : SingleFlightRules) (response : CompletionResponse) : String :=
  match response.responseId with
  | some id => if id = "" then shortHash else id
  | none => shortHash
where
  shortHash := "sha-" ++ String.ofList ((rules.sha256 response.content).toList.take 20)

def responsePath (rules : SingleFlightRules) (kind : RequestKind) (reasoning : Bool)
    (response : CompletionResponse) : ResponsePath :=
  ⟨kind, reasoning, rules.safeKey (responseKey rules response)⟩

/-- `reasoning_content`, where it is not empty. -/
def reasoningOf (response : CompletionResponse) : Option String :=
  response.reasoningContent.filter (· ≠ "")

/-- The text `persist_response` writes to a path. -/
def storedText (reasoning : Bool) (response : CompletionResponse) : String :=
  if reasoning then (reasoningOf response).getD "" else response.content

/-- `persist_response` has the file of the raw content, or of the reasoning, in place. -/
def afterStored (reasoning : Bool) (response : CompletionResponse) : Phase :=
  if reasoning = false ∧ (reasoningOf response).isSome then .opening true response
  else .recording response

def persistedRow (rules : SingleFlightRules) (kind : RequestKind) (attemptId : String)
    (index : Nat) (response : CompletionResponse) : PersistedResponse where
  responseId := response.responseId
  requestKind := kind
  attemptId := attemptId
  ownerId := index
  rawPath := responsePath rules kind false response
  rawSha256 := rules.sha256 response.content
  reasoning := (reasoningOf response).map fun text =>
    (responsePath rules kind true response, rules.sha256 text)

def invocationOf (row : PersistedResponse) (response : CompletionResponse) : Invocation :=
  ⟨response, row.rawPath, row.rawSha256, row.requestKind, row.attemptId, row.ownerId⟩

def pointerOf (invocation : Invocation) : AcceptedPointer :=
  ⟨invocation.response.responseId, invocation.requestKind, invocation.attemptId,
    invocation.rawPath, invocation.rawSha256⟩

/-- `accept` where `accepted-response.json` exists. -/
def compareAccepted (existing : Option AcceptedPointer) (invocation : Invocation) : Phase :=
  match existing with
  | none => .raised .unreadable
  | some pointer =>
      if pointer.rawPath ≠ invocation.rawPath ∨ pointer.rawSha256 ≠ invocation.rawSha256 then
        .raised (.pipeline "multiple_accepted_provider_responses" false)
      else .updating (.completed invocation)

/-- Where a lookup of the ledger leads: out with an error, to `found`, or on to `missing`. -/
def onResponse (outcome : Except CallFailure (Option Invocation)) (found : Invocation → Phase)
    (missing : Phase) : Phase :=
  match outcome with
  | .error failure => .raised failure
  | .ok (some invocation) => found invocation
  | .ok none => missing

/-- `_read` of the lease file. -/
def onLease (file : Option (Option Lease)) (next : Lease → Phase) : Phase :=
  match file with
  | some (some lease) => next lease
  | _ => .raised .unreadable

/-- The read of `_update`. -/
def readUpdate (rules : SingleFlightRules) (kind : RequestKind) (now index : Nat) (stage : Stage)
    (lease : Lease) : Phase :=
  if lease.ownerId = stage.ownerId index then
    .replacing stage (stage.apply rules kind now lease)
  else .raised (.pipeline "provider_lease_ownership_lost" false)

/-- The next file operation of a process. -/
def advance (rules : SingleFlightRules) (now index : Nat) (answer : Answer)
    (directory : CallDirectory) (process : Process) : CallDirectory × Process :=
  let kind := process.requestKind
  let found := directory.findResponse rules kind process.attemptId
  match process.phase with
  | .looking => (directory, process.goto (onResponse found .returned .acquiring))
  | .acquiring => (directory, process.goto (onResponse found (fun _ => .rechecking) .creating))
  | .creating =>
      match directory.leases kind with
      | none => (directory.setLease kind none, process.goto .filling)
      | some _ => (directory, process.goto .reading)
  | .filling =>
      (directory.setLease kind (some ⟨index, .prepared, now + rules.leaseMillis, none, none⟩),
        process.goto .rechecking)
  | .reading => (directory, process.goto (onLease (directory.leases kind) .judging))
  | .judging lease =>
      (directory, process.goto
        (onResponse found (fun _ => .rechecking) (judge now answer.ownerAlive lease)))
  | .takingOver lease =>
      if directory.takeovers kind then
        (directory, process.goto (.raised (.pipeline "provider_already_in_progress" true)))
      else
        ({ directory with takeovers := Function.update directory.takeovers kind true },
          process.goto (.abandoning lease))
  | .abandoning lease =>
      (directory.setLease kind (some { lease with state := .abandoned }), process.goto
        (.raised (.pipeline "provider_attempt_abandoned_new_attempt_required" true)))
  | .rechecking =>
      (directory, process.goto (onResponse found .returned (.updating .requesting)))
  | .updating stage =>
      (directory, process.goto
        (onLease (directory.leases kind) (readUpdate rules kind now index stage)))
  | .replacing stage lease =>
      (directory.setLease kind (some lease), process.goto stage.next)
  | .calling => (directory, { process.goto .awaiting with beating := true })
  | .awaiting =>
      let stage : Stage :=
        match answer.reply with
        | some response => .received response
        | none => .failed
      (directory, { process.goto (.updating stage) with beating := false })
  | .opening reasoning response =>
      let path := responsePath rules kind reasoning response
      match directory.files path with
      | none => (directory.setFile path "", process.goto (.writing reasoning response))
      | some text =>
          if text = storedText reasoning response then
            (directory, process.goto (afterStored reasoning response))
          else (directory, process.goto (.raised (.pipeline "provider_raw_path_conflict" false)))
  | .writing reasoning response =>
      (directory.setFile (responsePath rules kind reasoning response)
        (storedText reasoning response), process.goto (afterStored reasoning response))
  | .recording response =>
      let row := persistedRow rules kind process.attemptId index response
      (directory.append (.responsePersisted row),
        process.goto (.updating (.persisted (invocationOf row response))))
  | .returned invocation =>
      match answer.verdict with
      | .accept => (directory, process.goto (.accepting invocation))
      | .markValidationFailed =>
          (directory, process.goto (.updating (.validationFailed invocation)))
      | .keep => (directory, process.goto .finished)
  | .accepting invocation =>
      match directory.accepted with
      | some existing => (directory, process.goto (compareAccepted existing invocation))
      | none => (directory, process.goto (.pointing invocation))
  | .pointing invocation =>
      match directory.accepted with
      | some existing => (directory, process.goto (compareAccepted existing invocation))
      | none =>
          ({ directory with accepted := some none }, process.goto (.fillingPointer invocation))
  | .fillingPointer invocation =>
      ({ directory with accepted := some (some (pointerOf invocation)) },
        process.goto (.recordingAccepted invocation))
  | .recordingAccepted invocation =>
      (directory.append (.responseAccepted (pointerOf invocation)),
        process.goto (.updating (.completed invocation)))
  | .finished | .raised _ | .ended => (directory, process)

/-- The next file operation of the heartbeat thread: the read of an `_update` without changes, or
its write. A failed read ends the thread; a stopped thread may still finish its write. -/
def heartbeat (rules : SingleFlightRules) (now index : Nat) (directory : CallDirectory)
    (process : Process) : CallDirectory × Process :=
  match process.beat with
  | some lease =>
      (directory.setLease process.requestKind (some lease), { process with beat := none })
  | none =>
      if process.beating then
        match directory.leases process.requestKind with
        | some (some lease) =>
            if lease.ownerId = index then
              let renewed : Lease :=
                if lease.state = .requesting ∨ lease.state = .repairRequesting then
                  { lease with leaseExpiresAt := now + rules.leaseMillis }
                else lease
              (directory, { process with beat := some renewed })
            else (directory, { process with beating := false })
        | _ => (directory, { process with beating := false })
      else (directory, process)

/-! ## The world -/

structure World where
  now : Nat
  directory : CallDirectory
  processes : Nat → Process
  /-- Who has started `provider_call`, the latest first. -/
  started : List Nat

inductive Action where
  | advance (index : Nat) (answer : Answer)
  | heartbeat (index : Nat)
  /-- The process ends, its heartbeat thread with it. -/
  | crash (index : Nat)
  | tick (elapsed : Nat)

/-- Every process is about to call `invoke` in an empty call directory. -/
def World.start (calls : Nat → RequestKind × String) : World where
  now := 0
  directory := .empty
  processes index := ⟨(calls index).1, (calls index).2, .looking, false, none⟩
  started := []

def World.set (world : World) (index : Nat) (after : CallDirectory × Process) : World :=
  { world with
    directory := after.1
    processes := Function.update world.processes index after.2 }

def Phase.isCalling : Phase → Bool
  | .calling => true
  | _ => false

def step (rules : SingleFlightRules) (world : World) : Action → World
  | .advance index answer =>
      let process := world.processes index
      let after := world.set index
        (advance rules world.now index answer world.directory process)
      if process.phase.isCalling then { after with started := index :: world.started } else after
  | .heartbeat index =>
      world.set index (heartbeat rules world.now index world.directory (world.processes index))
  | .crash index =>
      world.set index (world.directory,
        { world.processes index with phase := .ended, beating := false, beat := none })
  | .tick elapsed => { world with now := world.now + elapsed }

end Shiliu.Taxonomy
