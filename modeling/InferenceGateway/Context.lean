import InferenceGateway.Artifacts.Cleanup
import InferenceGateway.Domain.Serialize
import InferenceGateway.Library.Machine
import InferenceGateway.Scheduler.Claim
import InferenceGateway.Scheduler.Waiters

/-!
# The gateway process

Its stores and everything that outlives one turn of the event loop: parked
polls and suspended handlers.  A handler that has to wait is answered with
`pending` and a token under which it continues.
-/

namespace InferenceGateway

open Library

/-- Extra fields an error body may carry. -/
inductive ErrorDetail where
  | none
  | available (models : List String)
  | model (name : String)
  | queueDepth (depth : Nat)

structure PollResponse where
  sessionId : String
  leaseTtlS : Int
  pollWaitS : Int
  assign : List Assignment
  /-- Jobs the pod should stop working on because a client cancelled them. -/
  cancel : List String
  /-- Jobs the pod thinks it owns but no longer does. -/
  orphan : List String
  drain : Bool

inductive Reply where
  | pending (token : Nat)
  | error (status : Nat) (body : ApiError) (detail : ErrorDetail)
  | poll (response : PollResponse)
  | video (status : Nat) (response : VideoResponse)
  | uploaded (filename : String) (bytes : Nat) (sha256 : String)
  | result (id : String) (state : VideoStatus)
  | drain (podId : String) (draining : Bool)
  /-- Nothing is sent: the action was not a request. -/
  | silent

/-- What a poll keeps in its closure while it is parked. -/
structure ParkedPoll where
  token : Nat
  pod : Pod
  slots : Nat
  cancel : List String
  orphan : List String

inductive CreationPhase where
  /-- Before `mkdir` of the input directory. -/
  | making
  /-- Before the image is written. -/
  | writing
  /-- Written; the row has not been inserted yet. -/
  | inserting
  deriving DecidableEq

/-- A running `POST /v1/videos`. -/
structure Creation where
  job : NewJob
  image : Bytes
  phase : CreationPhase

/-- A result that has been accepted and is removing the input of its job. -/
structure Finishing where
  id : String
  /-- The state it answers with. -/
  state : VideoStatus
  /-- Whether it clears `input_path` afterwards; the cancelled branch does not. -/
  clears : Bool
  /-- The input directory is gone. -/
  removed : Bool

inductive Task where
  | creation (creation : Creation)
  | upload (upload : Upload)
  | finishing (finishing : Finishing)
  | cleanup (task : CleanupTask)

/-- `AppContext`, the counters behind the minted identifiers, and the handlers
that have not returned. -/
structure Gateway extends Stores where
  waiters : Waiters ParkedPoll
  tasks : AList fun _ : Nat => Task
  tokens : Nat
  leases : Nat
  videos : Nat
  /-- `shutdownSignal.aborted`. -/
  aborted : Bool

namespace Gateway

/-- A gateway over empty stores. -/
def empty : Gateway where
  store := ⟨Table.empty, [], 0⟩
  pods := Table.empty
  disk := FileSystem.empty
  waiters := Waiters.empty
  tasks := ∅
  tokens := 0
  leases := 0
  videos := 0
  aborted := false

variable (state : Gateway)

/-- `Date.now()`. -/
abbrev now : Millis := state.store.clock

def withStore (store : JobStore) : Gateway := { state with store := store }

def withStores (stores : Stores) : Gateway := { state with toStores := stores }

def kick : Gateway := { state with waiters := state.waiters.kick }

/-- Suspend a handler under a new token. -/
def spawn (task : Task) : Nat × Gateway :=
  (state.tokens, { state with
    tasks := state.tasks.insert state.tokens task
    tokens := state.tokens + 1 })

def suspend (token : Nat) (task : Task) : Gateway :=
  { state with tasks := state.tasks.insert token task }

/-- The handler under a token returned. -/
def finish (token : Nat) : Gateway := { state with tasks := state.tasks.erase token }

end Gateway

end InferenceGateway
