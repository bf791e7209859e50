/-
Module: Shiliu.Knowledge.Publication
Purpose: `publish_selected_candidates` as the program it is: one review for each selection, a build
  of the artifact, a build of the page, a review of the page, every one of them a transaction of its own under
  a command id derived from that of the call. Any number of calls run beside reviews and builds
  under any command ids; a call may stop for good between two transactions.
Trusted boundary: none
Main exports: KnowledgeRules, PublishRequest, PublishPc, World, Action, stepWorld
-/
import Mathlib.Logic.Function.Basic
import Shiliu.Knowledge.Builds

namespace Shiliu.Knowledge

open Shiliu.Library Shiliu.Research

/-- What the services compute on texts and identifiers. -/
structure KnowledgeRules where
  /-- The order of identifiers as texts. -/
  inOrder : Ident → Ident → Bool
  /-- `" ".join(text.casefold().split())`. -/
  normalized : String → String
  /-- `part in whole`. -/
  contains : String → String → Bool

/-- The input of `build_artifact`: `sorted(request.fact_revision_ids)`. -/
def KnowledgeRules.artifactInput (rules : KnowledgeRules) (factRevisionIds : List Ident) :
    BuildInput :=
  .artifact (factRevisionIds.mergeSort rules.inOrder)

/-! ## The request -/

structure Selection where
  candidateId : Ident
  expectedStateVersion : Nat

/-- The review of a selection. -/
def Selection.review (selection : Selection) : ReviewRequest where
  decision := .accept
  expectedStateVersion := selection.expectedStateVersion
  reason := "user confirmed long-term knowledge publication"
  editedClaim := ""

/-- The review of the page. -/
def publishPage (version : Nat) : PageReviewRequest where
  publish := true
  expectedVersion := version
  reason := "user confirmed reviewed conclusions and sources"

structure PublishRequest where
  commandId : String
  selections : List Selection

/-- What the model of the request admits. -/
def PublishRequest.valid (request : PublishRequest) : Bool :=
  1 ≤ request.commandId.length ∧ request.commandId.length ≤ 96 ∧
    1 ≤ request.selections.length ∧ request.selections.length ≤ 32 ∧
    (request.selections.map Selection.candidateId).Nodup

/-- What `BuildKnowledgeArtifactRequest` admits. -/
def validFactRevisionIds (factRevisionIds : List Ident) : Bool :=
  1 ≤ factRevisionIds.length ∧ factRevisionIds.length ≤ 32 ∧ factRevisionIds.Nodup

structure PublishResult where
  candidateIds : List Ident
  factRevisionIds : List Ident
  artifactId : Ident
  artifactRevisionId : Ident
  pageId : Ident
  pageRevisionId : Ident
  reviewStatus : ReviewStatus
  publishedVersion : Nat
deriving DecidableEq

namespace PublishRequest

variable (request : PublishRequest)

def candidateCommandId (index : Nat) : String := s!"{request.commandId}:candidate:{index}"

def artifactCommandId : String := request.commandId ++ ":artifact"

def pageCommandId : String := request.commandId ++ ":page"

def publishCommandId : String := request.commandId ++ ":publish"

end PublishRequest

/-! ## The program -/

/-- The next transaction of a call, with what the call has gathered. -/
inductive PublishPc where
  | reviewing (index : Nat) (facts : List Ident)
  | reservingArtifact (facts : List Ident)
  | finalizingArtifact (facts : List Ident)
  | reservingPage (facts : List Ident) (artifactId artifactRevisionId : Ident)
  | finalizingPage (facts : List Ident) (artifactId artifactRevisionId : Ident)
  | publishing (facts : List Ident) (artifactId artifactRevisionId pageId pageRevisionId : Ident)
      (version : Nat)

inductive PublishNext where
  | goto (pc : PublishPc)
  | returned (result : PublishResult)
  | raised (failure : ResearchFailure)

/-- `reviewed.get("status")` and `reviewed.get("fact_revision_id")`. -/
def afterReview (index : Nat) (facts : List Ident) : Response → PublishNext
  | .candidateReviewed _ .accepted _ (some factRevisionId) _ =>
      .goto (.reviewing (index + 1) (facts ++ [factRevisionId]))
  | _ =>
      .raised (.validation "selected conclusion could not pass current evidence validation")

/-- `artifact["artifact_revision_id"]`: the response of a reused build has no such key. -/
def afterArtifact (facts : List Ident) : Response → PublishNext
  | .built _ _ _ (some (.artifact artifactId artifactRevisionId _)) =>
      .goto (.reservingPage facts artifactId artifactRevisionId)
  | _ => .raised .keyError

/-- `page["page_id"]` and `page["version"]`. -/
def afterPage (facts : List Ident) (artifactId artifactRevisionId : Ident) :
    Response → PublishNext
  | .built _ _ _ (some (.topicPage pageId pageRevisionId version _)) =>
      .goto (.publishing facts artifactId artifactRevisionId pageId pageRevisionId version)
  | _ => .raised .keyError

/-- The answer of the call. -/
def PublishRequest.afterPublish (request : PublishRequest) (facts : List Ident)
    (artifactId artifactRevisionId pageId pageRevisionId : Ident) : Response → PublishNext
  | .pageReviewed _ _ version reviewStatus =>
      .returned
        { candidateIds := request.selections.map Selection.candidateId
          factRevisionIds := facts
          artifactId := artifactId
          artifactRevisionId := artifactRevisionId
          pageId := pageId
          pageRevisionId := pageRevisionId
          reviewStatus := reviewStatus
          publishedVersion := version }
  | _ => .raised .keyError

/-- A transaction that raised ends the call. -/
def settle (store : TaskKnowledge) (next : Response → PublishNext) :
    Transaction → TaskKnowledge × PublishNext
  | .ok (after, response) => (after, next response)
  | .error failure => (store, .raised failure)

/-- The reservation of a build either answers the call or has it go on to finalize. -/
def settleReserve (store : TaskKnowledge) (finalizing : PublishPc)
    (next : Response → PublishNext) :
    Except ResearchFailure (TaskKnowledge × BuildStep) → TaskKnowledge × PublishNext
  | .ok (after, .reserved) => (after, .goto finalizing)
  | .ok (after, .returned response) => (after, next response)
  | .error failure => (store, .raised failure)

/-- The next transaction of `publish_selected_candidates`. -/
def PublishRequest.step (rules : KnowledgeRules) (request : PublishRequest)
    (store : TaskKnowledge) (view : EvidenceView) : PublishPc → TaskKnowledge × PublishNext
  | .reviewing index facts =>
      match request.selections[index]? with
      | some selection =>
          settle store (afterReview index facts)
            (reviewCandidate store view (request.candidateCommandId index) selection.candidateId
              selection.review)
      | none => (store, .goto (.reservingArtifact facts))
  | .reservingArtifact facts =>
      settleReserve store (.finalizingArtifact facts) (afterArtifact facts)
        (reserveBuild store request.artifactCommandId (rules.artifactInput facts))
  | .finalizingArtifact facts =>
      settle store (afterArtifact facts)
        (finalizeBuild store request.artifactCommandId (rules.artifactInput facts))
  | .reservingPage facts artifactId artifactRevisionId =>
      settleReserve store (.finalizingPage facts artifactId artifactRevisionId)
        (afterPage facts artifactId artifactRevisionId)
        (reserveBuild store request.pageCommandId (.topicPage artifactRevisionId))
  | .finalizingPage facts artifactId artifactRevisionId =>
      settle store (afterPage facts artifactId artifactRevisionId)
        (finalizeBuild store request.pageCommandId (.topicPage artifactRevisionId))
  | .publishing facts artifactId artifactRevisionId pageId pageRevisionId version =>
      settle store (request.afterPublish facts artifactId artifactRevisionId pageId pageRevisionId)
        (reviewPage store request.publishCommandId pageId (publishPage version))

/-! ## Many calls -/

/-- What a process is in the middle of. -/
inductive Caller where
  | idle
  | reserving (commandId : String) (input : BuildInput)
  | finalizing (commandId : String) (input : BuildInput)
  | publishing (request : PublishRequest) (pc : PublishPc)

/-- A call of `publish_selected_candidates` that is over. -/
structure Ended where
  request : PublishRequest
  outcome : Except ResearchFailure PublishResult
  /-- Every selected candidate was accepted when the call ended. -/
  overAccepted : Bool

structure World where
  store : TaskKnowledge
  callers : Nat → Caller
  ended : List Ended

def World.empty (taskId : Ident) (objective : String) : World :=
  ⟨TaskKnowledge.empty taskId objective, fun _ => .idle, []⟩

/-- The candidate is accepted. -/
def TaskKnowledge.isAccepted (store : TaskKnowledge) (candidateId : Ident) : Bool :=
  (store.candidates.lookup candidateId).any (·.status = .accepted)

def PublishRequest.overAccepted (request : PublishRequest) (store : TaskKnowledge) : Bool :=
  request.selections.all fun selection => store.isAccepted selection.candidateId

namespace World

variable (world : World)

def goto (caller : Nat) (next : Caller) : World :=
  { world with callers := Function.update world.callers caller next }

def finish (caller : Nat) (request : PublishRequest)
    (outcome : Except ResearchFailure PublishResult) : World :=
  { world.goto caller .idle with
    ended := world.ended ++ [⟨request, outcome, request.overAccepted world.store⟩] }

/-- Go where a step of a publication leads. -/
def follow (caller : Nat) (request : PublishRequest) : PublishNext → World
  | .goto pc => world.goto caller (.publishing request pc)
  | .returned result => world.finish caller request (.ok result)
  | .raised failure => world.finish caller request (.error failure)

/-- The store after a transaction: unchanged when it raised. -/
def settled {Result : Type} : Except ResearchFailure (TaskKnowledge × Result) → World
  | .ok (after, _) => { world with store := after }
  | .error _ => world

end World

/-- One thing that happens. -/
inductive Action where
  | intake (uses : List EvidenceUse) (items : List IntakeItem)
  | review (commandId : String) (candidateId : Ident) (request : ReviewRequest)
      (view : EvidenceView)
  | buildArtifact (caller : Nat) (commandId : String) (factRevisionIds : List Ident)
  | buildTopicPage (caller : Nat) (commandId : String) (artifactRevisionId : Ident)
  | publish (caller : Nat) (request : PublishRequest)
  | advance (caller : Nat) (view : EvidenceView)
  | crash (caller : Nat)

variable (rules : KnowledgeRules)

/-- A call starts when its process is idle. -/
def World.start (world : World) (caller : Nat) (next : Caller) : World :=
  match world.callers caller with
  | .idle => world.goto caller next
  | _ => world

/-- The next transaction of a process. -/
def World.advance (world : World) (caller : Nat) (view : EvidenceView) : World :=
  match world.callers caller with
  | .idle => world
  | .reserving commandId input =>
      let outcome := reserveBuild world.store commandId input
      (world.settled outcome).goto caller
        (match outcome with
        | .ok (_, .reserved) => .finalizing commandId input
        | _ => .idle)
  | .finalizing commandId input =>
      (world.settled (finalizeBuild world.store commandId input)).goto caller .idle
  | .publishing request pc =>
      let (after, next) := request.step rules world.store view pc
      World.follow { world with store := after } caller request next

def stepWorld (world : World) : Action → World
  | .intake uses items => { world with store := world.store.intake uses items }
  | .review commandId candidateId request view =>
      world.settled (reviewCandidate world.store view commandId candidateId request)
  | .buildArtifact caller commandId factRevisionIds =>
      if validFactRevisionIds factRevisionIds then
        world.start caller (.reserving commandId (rules.artifactInput factRevisionIds))
      else world
  | .buildTopicPage caller commandId artifactRevisionId =>
      world.start caller (.reserving commandId (.topicPage artifactRevisionId))
  | .publish caller request =>
      if request.valid then world.start caller (.publishing request (.reviewing 0 [])) else world
  | .advance caller view => world.advance rules caller view
  | .crash caller => world.goto caller .idle

end Shiliu.Knowledge
