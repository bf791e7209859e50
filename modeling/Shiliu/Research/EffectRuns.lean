/-
Module: Shiliu.Research.EffectRuns
Purpose: `execute_deterministic_side_effect` run by any number of callers over one kernel. A caller is
  a program counter: reserve, read, move to `in_flight`, call the adapter, and move to `succeeded`
  are steps of their own, and between any two of them other callers and other commands
  run, clocks move on, or the caller stops for good. What the adapter answers is part of the action.
Trusted boundary: none
Main exports: EffectRequest, Pc, Start, World, Action, advance, stepWorld
-/
import Mathlib.Logic.Function.Basic
import Shiliu.Research.Kernel

namespace Shiliu.Research

open Shiliu.Library Shiliu.Storage

/-- The arguments of `execute_deterministic_side_effect`. -/
structure EffectRequest where
  taskId : String
  attemptId : Nat
  commandId : String
  fence : Fence
  effectKind : String
  idempotencyKey : String
  requestPayload : String
deriving DecidableEq

/-- What identifies an external effect. -/
def EffectRequest.key (request : EffectRequest) : String × String × String :=
  (request.taskId, request.effectKind, request.idempotencyKey)

/-- What `effect_adapter.execute` returns. -/
structure AdapterResult where
  operationId : String
  receiptHash : String
  resultReference : String

/-- The clocks a transaction reads. -/
structure Clocks where
  lease : Instant
  grant : Instant
  app : Instant

/-- The next transaction or external call of a caller. -/
inductive Pc where
  | idle
  | reserving (request : EffectRequest)
  /-- The effect is read outside the commands. -/
  | reading (request : EffectRequest) (sideEffectId version : Nat)
  | starting (request : EffectRequest) (sideEffectId version : Nat)
  /-- `effect_adapter.execute` is the next thing the caller does. `moved` remembers whether its
  own transaction moved the effect, or was answered by a receipt. -/
  | calling (request : EffectRequest) (sideEffectId version : Nat) (moved : Bool)
  /-- `effect_adapter.execute` has been started. -/
  | awaiting (request : EffectRequest) (sideEffectId version : Nat)
  | finishing (request : EffectRequest) (sideEffectId version : Nat) (result : AdapterResult)

/-- One start of `effect_adapter.execute`. -/
structure Start where
  request : EffectRequest
  sideEffectId : Nat
  moved : Bool
deriving DecidableEq

/-- The database, the callers, and the starts so far. -/
structure World (Digest : Type) where
  store : KernelStore Digest
  callers : Nat → Pc
  started : List Start

variable {Digest : Type}

def World.empty : World Digest :=
  ⟨KernelStore.empty, fun _ => .idle, []⟩

/-- Replace a caller's program counter. -/
def World.goto (world : World Digest) (caller : Nat) (pc : Pc) : World Digest :=
  { world with callers := Function.update world.callers caller pc }

/-- One of the three commands of a request. -/
def EffectRequest.call (request : EffectRequest) (clocks : Clocks) (suffix : String)
    (command : Command) : Call :=
  { taskId := request.taskId
    commandId := request.commandId ++ suffix
    leaseClock := clocks.lease
    grantClock := clocks.grant
    appClock := clocks.app
    command := command }

def EffectRequest.reserve (request : EffectRequest) (clocks : Clocks) : Call :=
  request.call clocks ":reserve"
    (.reserveSideEffect request.fence request.attemptId request.effectKind request.idempotencyKey
      request.requestPayload)

def EffectRequest.start (request : EffectRequest) (clocks : Clocks) (sideEffectId version : Nat) :
    Call :=
  request.call clocks ":start"
    (.transitionSideEffect { request.fence with expectedStateVersion := version } sideEffectId
      .inFlight none none none)

def EffectRequest.finish (request : EffectRequest) (clocks : Clocks) (sideEffectId version : Nat)
    (result : AdapterResult) : Call :=
  request.call clocks ":finish"
    (.transitionSideEffect { request.fence with expectedStateVersion := version } sideEffectId
      .succeeded (some result.operationId) (some result.receiptHash) (some result.resultReference))

/-- Where a caller goes after its reservation. -/
def afterReserve (request : EffectRequest) : Outcome Digest → Pc
  | .replayed response | .committed _ response =>
      match response.sideEffectId with
      | some sideEffectId => .reading request sideEffectId response.stateVersion
      | none => .idle
  | .rejected _ _ | .raised _ => .idle

/-- The transaction that only reads: a settled effect is the answer, any other but a reserved one
an error. -/
def afterRead (store : KernelStore Digest) (request : EffectRequest)
    (sideEffectId version : Nat) : Pc :=
  match store.sideEffect sideEffectId, store.task request.taskId with
  | .ok effect, .ok _ =>
      if effect.2.status = .reserved then .starting request sideEffectId version else .idle
  | _, _ => .idle

/-- Where a caller goes after its move to `in_flight`. -/
def afterStart (request : EffectRequest) (sideEffectId : Nat) : Outcome Digest → Pc
  | .replayed response => .calling request sideEffectId response.stateVersion false
  | .committed _ response => .calling request sideEffectId response.stateVersion true
  | .rejected _ _ | .raised _ => .idle

/-- One thing that happens: a command of the kernel, by anybody; a new request of an idle caller;
the next step of a caller; a crash. -/
inductive Action where
  | command (call : Call)
  | request (caller : Nat) (request : EffectRequest)
  | advance (caller : Nat) (clocks : Clocks) (result : AdapterResult)
  | crash (caller : Nat)

variable [DecidableEq Digest] (hashing : Hashing Digest)

/-- The next transaction or external call of a caller. -/
def advance (world : World Digest) (caller : Nat) (clocks : Clocks) (result : AdapterResult) :
    World Digest :=
  match world.callers caller with
  | .idle => world
  | .reserving request =>
      let outcome := transact hashing world.store (request.reserve clocks)
      { world with store := world.store.after outcome }.goto caller (afterReserve request outcome)
  | .reading request sideEffectId version =>
      world.goto caller (afterRead world.store request sideEffectId version)
  | .starting request sideEffectId version =>
      let outcome := transact hashing world.store (request.start clocks sideEffectId version)
      { world with store := world.store.after outcome }.goto caller
        (afterStart request sideEffectId outcome)
  | .calling request sideEffectId version moved =>
      { world with started := world.started ++ [Start.mk request sideEffectId moved] }.goto caller
        (.awaiting request sideEffectId version)
  | .awaiting request sideEffectId version =>
      world.goto caller (.finishing request sideEffectId version result)
  | .finishing request sideEffectId version result =>
      let outcome := transact hashing world.store
        (request.finish clocks sideEffectId version result)
      { world with store := world.store.after outcome }.goto caller .idle

def stepWorld (world : World Digest) : Action → World Digest
  | .command call => { world with store := stepKernel hashing world.store call }
  | .request caller request =>
      match world.callers caller with
      | .idle => world.goto caller (.reserving request)
      | _ => world
  | .advance caller clocks result => advance hashing world caller clocks result
  | .crash caller => world.goto caller .idle

end Shiliu.Research
