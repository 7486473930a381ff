import Oim.Controller.Calls
import Oim.Csi.Size

/-!
# The two backends of the CSI driver

`OIMBackend` is implemented twice: by talking to an SPDK on the same host
(`pkg/oim-csi-driver/local.go`), and by calling the OIM controller through the
OIM registry (`pkg/oim-csi-driver/remote.go`), which then talks to its SPDK.  Both
are programs over SPDK calls; for the remote one these are the calls that the
controller makes.

* `Link` — what can become of a call to the controller, also that it is carried
  out and the reply gets lost.
* `Backend.createVolume`, `deleteVolume`, `checkVolumeExists` — the interface.
-/

namespace Oim.Csi

open Interaction
open Spdk (Client)

/-! ## Common to both -/

/-- The check for the maximum capacity, followed by rounding. -/
def checkCapacity (requiredBytes : Int64) : Except Status Int64 :=
  if requiredBytes ≥ maxStorageCapacity then
    .error ⟨.outOfRange, "Requested capacity " ++ toString requiredBytes ++
      " exceeds maximum allowed " ++ toString maxStorageCapacity⟩
  else .ok (roundCapacity requiredBytes)

/-! ## localSPDK -/

namespace Local

/-- The second half of `createVolume`: a new Malloc BDev. -/
def constructVolume (volumeID : String) (requiredBytes : Int64) :
    Client (Except Status Int64) := do
  match checkCapacity requiredBytes with
  | .error e => return .error e
  | .ok capacity =>
    match ← Client.constructMallocBDev ⟨capacity / 512, 512, volumeID⟩ with
    | .error err =>
      return .error ⟨.failedPrecondition, "Failed to create SPDK Malloc BDev: " ++ err⟩
    | .ok _ => return .ok capacity

/-- `localSPDK.createVolume`, once connected. -/
def createVolume (volumeID : String) (requiredBytes : Int64) : Client (Except Status Int64) := do
  match ← Client.getBDevs volumeID with
  | .ok [bdev] =>
    let volSize := bdev.blockSize * bdev.numBlocks
    if volSize ≥ requiredBytes then return .ok volSize
    else return .error ⟨.alreadyExists, "Volume with the same name: " ++ volumeID ++
      " but with different size already exist"⟩
  | .ok _ => constructVolume volumeID requiredBytes
  | .error err =>
    if Spdk.isJSONError err Spdk.errorInvalidParams = false then
      return .error ⟨.failedPrecondition, "Failed to get BDevs from SPDK: " ++ err⟩
    else constructVolume volumeID requiredBytes

/-- `localSPDK.deleteVolume`, once connected. -/
def deleteVolume (volumeID : String) : Client (Except Status Unit) := do
  match ← Client.deleteBDev volumeID with
  | .ok () => return .ok ()
  | .error err =>
    if Spdk.isJSONError err Spdk.errorInvalidParams = false then
      return .error ⟨.failedPrecondition,
        "Failed to delete SPDK Malloc BDev " ++ volumeID ++ ": " ++ err⟩
    else return .ok ()

/-- `localSPDK.checkVolumeExists`, once connected. -/
def checkVolumeExists (volumeID : String) : Client (Except Status Unit) := do
  match ← Client.getBDevs volumeID with
  | .ok [_] => return .ok ()
  | _ => return .error ⟨.notFound, ""⟩

/-- `spdk.New`, which every function starts with. -/
def connect {α : Type} (connectErr : Option String) (p : Client (Except Status α)) :
    Client (Except Status α) :=
  match connectErr with
  | some err => return .error ⟨.failedPrecondition, "Failed to connect to SPDK: " ++ err⟩
  | none => p

end Local

/-! ## remoteSPDK -/

/-- What becomes of a call to the OIM controller. -/
inductive Link where
  /-- `dialRegistry` fails. -/
  | undialable (err : String)
  /-- The call does not get to the controller. -/
  | unreachable (status : Status)
  /-- The controller carries out the call, and its reply gets lost. -/
  | replyLost (status : Status)
  /-- The call is carried out and answered. -/
  | up

/-- A call to the controller. -/
def Link.call {α : Type} (link : Link) (p : Client (Except Status α)) :
    Client (Except Status α) :=
  match link with
  | .undialable err => return .error ⟨.failedPrecondition, err⟩
  | .unreachable status => return .error status
  | .replyLost status => do
    let _ ← p
    return .error status
  | .up => p

namespace Remote

variable (link : Link) (controller : Controller)

/-- `remoteSPDK.provision`. -/
def provision (bdevName : String) (size : Int64) : Client (Except Status Unit) :=
  link.call (controller.provisionMallocBDev bdevName size)

/-- `remoteSPDK.createVolume`. -/
def createVolume (volumeID : String) (requiredBytes : Int64) : Client (Except Status Int64) := do
  match checkCapacity requiredBytes with
  | .error e => return .error e
  | .ok capacity =>
    match ← provision link controller volumeID capacity with
    | .error e => return .error e
    | .ok () => return .ok capacity

/-- `remoteSPDK.deleteVolume`. -/
def deleteVolume (volumeID : String) : Client (Except Status Unit) :=
  provision link controller volumeID 0

/-- `remoteSPDK.checkVolumeExists`. -/
def checkVolumeExists (volumeID : String) : Client (Except Status Unit) :=
  link.call (controller.checkMallocBDev volumeID)

end Remote

/-! ## OIMBackend -/

/-- The two implementations. -/
inductive Backend where
  | localSPDK (connectErr : Option String)
  | remoteSPDK (link : Link) (controller : Controller)

namespace Backend

def createVolume : Backend → String → Int64 → Client (Except Status Int64)
  | .localSPDK connectErr, v, r => Local.connect connectErr (Local.createVolume v r)
  | .remoteSPDK link controller, v, r => Remote.createVolume link controller v r

def deleteVolume : Backend → String → Client (Except Status Unit)
  | .localSPDK connectErr, v => Local.connect connectErr (Local.deleteVolume v)
  | .remoteSPDK link controller, v => Remote.deleteVolume link controller v

def checkVolumeExists : Backend → String → Client (Except Status Unit)
  | .localSPDK connectErr, v => Local.connect connectErr (Local.checkVolumeExists v)
  | .remoteSPDK link controller, v => Remote.checkVolumeExists link controller v

/-- The backend works: it is connected to SPDK, directly or through a
controller. -/
def Works : Backend → Prop
  | .localSPDK connectErr => connectErr = none
  | .remoteSPDK link c => link = .up ∧ c.connected = true

end Backend

/-! ## What the check lets through -/

theorem checkCapacity_eq (r : Int64) :
    (r.toInt < 2 ^ 40 ∧ checkCapacity r = .ok (roundCapacity r)) ∨
    (2 ^ 40 ≤ r.toInt ∧ ∃ e, checkCapacity r = .error e) := by
  unfold checkCapacity
  split_ifs with h
  · right
    rw [ge_iff_le, Int64.le_iff_toInt_le, toInt_maxStorageCapacity] at h
    exact ⟨h, _, rfl⟩
  · left
    rw [ge_iff_le, Int64.le_iff_toInt_le, toInt_maxStorageCapacity, not_le] at h
    exact ⟨h, rfl⟩

end Oim.Csi
