import VerifiedBuild.Failure
/-!
# The worker

The work of a run is done by a worker with a stack of its own, since programs can be nested deeply.
A stack that is too small is refused, one that no address space can hold cannot be made.
-/

namespace VerifiedBuild.Worker

def minStack : Nat := 16384

/-- The bytes of the address space, `2 ^ 47`: no stack of this size can be made. -/
def addressSpace : Nat := 140737488355328

/-- Whether a worker with the given stack can be set up. -/
def setUp (stackSize : Nat) : Except Failure Unit :=
  if stackSize < minStack then .error (.stackRefused stackSize)
  else if addressSpace ≤ stackSize then .error .workerNotCreated
  else .ok ()

/-- Do work that changes a state on a worker. Without a worker the state stays as it is; a failure
of the work is the failure of the whole. -/
def run {σ α : Type} (stackSize : Nat) (work : σ → Except Failure α × σ) (state : σ) :
    Except Failure α × σ :=
  match setUp stackSize with
  | .error failure => (.error failure, state)
  | .ok () => work state

end VerifiedBuild.Worker
