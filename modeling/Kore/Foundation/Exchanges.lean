import Mathlib.Data.List.Basic

/-! Calls to a server over a channel that may lose the request or the reply, and the first of
several requests that the server carries out. -/

namespace Kore.Foundation

inductive Fate (ε : Type) where
  | requestLost (failure : ε)
  | replyLost (failure : ε)
  | delivered

inductive Reply (ε α : Type) where
  | failed (failure : ε)
  | answered (answer : α)

variable {σ ρ α ε : Type}

namespace Fate

def arrives : Fate ε → Bool
  | .requestLost _ => false
  | .replyLost _ => true
  | .delivered => true

def completes : Fate ε → Bool
  | .requestLost _ => false
  | .replyLost _ => false
  | .delivered => true

end Fate

def exchange (fate : Fate ε) (handle : σ → σ × α) (server : σ) : σ × Reply ε α :=
  match fate with
  | .requestLost failure => (server, .failed failure)
  | .replyLost failure => ((handle server).1, .failed failure)
  | .delivered => ((handle server).1, .answered (handle server).2)

variable {server : σ}

theorem exchange_keeps {fate : Fate ε} {handle : σ → σ × α} {holds : σ → Prop}
    (keeps : ∀ server, holds server → holds (handle server).1) (start : holds server) : holds (exchange fate handle server).1 := by
  cases fate with
  | requestLost failure => exact start
  | replyLost failure | delivered => exact keeps server start

/-- The first request that the server carries out, and the server afterwards. -/
def firstAccepted (handle : σ → ρ → σ × Except ε α) : σ → List ρ → Option (ρ × σ)
  | _, [] => none
  | server, request :: requests =>
    match handle server request with
    | (after, .ok _) => some (request, after)
    | (after, .error _) => firstAccepted handle after requests

variable {handle : σ → ρ → σ × Except ε α} {request : ρ}

theorem firstAccepted_ok {after : σ} {value : α} (accepted : handle server request = (after, .ok value)) (requests : List ρ) :
    firstAccepted handle server (request :: requests) = some (request, after) := by
  rw [firstAccepted, accepted]

theorem firstAccepted_error {after : σ} {failure : ε} (refused : handle server request = (after, .error failure)) (requests : List ρ) :
    firstAccepted handle server (request :: requests) = firstAccepted handle after requests := by
  rw [firstAccepted, refused]

end Kore.Foundation
