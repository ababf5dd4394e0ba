namespace FileCleanup

/-!
The one-shot gate of a worker: its first start opens it and puts the loop into the running slot,
and the first stop after that takes the loop out.  Both happen in one step each.
-/

structure Gate (Handle : Type) where
  started : Bool
  running : Option Handle
  deriving DecidableEq, Repr

namespace Gate

variable {Handle : Type}

def closed : Gate Handle := ⟨false, none⟩

/-- Whether this start is the first one; only then is `handle` put into the slot. -/
def start (gate : Gate Handle) (handle : Handle) : Bool × Gate Handle :=
  if gate.started then (false, gate) else (true, ⟨true, some handle⟩)

/-- The loop that this stop has to end, if there is one to end. -/
def takeRunning (gate : Gate Handle) : Option Handle × Gate Handle :=
  (gate.running, { gate with running := none })

end Gate

end FileCleanup
