import Oim.Common.Pci
import Oim.Lib.KeyLock
import Oim.Spdk.Client

/-!
# The OIM controller

The four calls of `pkg/oim-controller/controller.go` that talk to SPDK.  Each
one checks its arguments (`Controller.early`), takes the lock of its volume ID or
BDev name — `volumeMutex` has one key space for both — and then runs a program
over SPDK calls (`Controller.body`).

* `Controller.mapVolume`, `unmapVolume`, `provisionMallocBDev`, `checkMallocBDev` —
  the handlers, as the source has them.
* `Controller.calls` — the same four as a family of locked calls, which is what
  the results on interleavings are about.
* `removeTargets_eq` and `findTarget_eq` — the two searches through nested
  controllers, backends, targets and LUNs, in terms of `Spdk.attachments`.
-/

namespace Oim

open Interaction
open Spdk (Client Rpc attachments scsiTargets)

/-! ## Messages -/

/-- `oim.CephParams`. -/
structure CephParams where
  userId : String
  secret : String
  monitors : String
  pool : String
  image : String
  deriving DecidableEq

/-- The `params` of a `MapVolumeRequest`, which may be missing. -/
inductive MapParams where
  | malloc
  | ceph (params : CephParams)
  | missing
  deriving DecidableEq

/-- `oim.SCSIDisk`. -/
structure SCSIDisk where
  target : ℕ
  lun : ℕ
  deriving DecidableEq

/-- `oim.MapVolumeReply`. -/
structure MapVolumeReply where
  pciAddress : Option PCIAddress
  scsiDisk : SCSIDisk
  deriving DecidableEq

/-- The fields of `Controller` that the calls read. -/
structure Controller where
  /-- Whether `SPDK` is set. -/
  connected : Bool
  vhostSCSI : String
  vhostDev : Option PCIAddress

namespace Controller

variable (c : Controller)

/-! ## MapVolume -/

/-- `mapCeph`. -/
def mapCeph (volumeID : String) (params : CephParams) : Client (Except Status Unit) := do
  if c.connected = false then
    return .error (.new "not connected to SPDK")
  match ← Client.constructRBDBDev {
      blockSize := 512
      name := volumeID
      userID := params.userId
      poolName := params.pool
      rbdName := params.image
      config := [("mon_host", params.monitors), ("key", params.secret)] } with
  | .ok _ => return .ok ()
  | .error err => return .error (.wrap err ("ConstructRBDBDev " ++ quote volumeID ++
      " for RBD pool " ++ quote params.pool ++ " and image " ++ quote params.image ++
      ", monitors " ++ quote params.monitors))

/-- "Reuse or create BDev." -/
def ensureBDev (volumeID : String) (params : MapParams) : Client (Except Status Unit) := do
  match ← Client.getBDevs volumeID with
  | .ok _ => return .ok ()
  | .error _ =>
    match params with
    | .malloc =>
      return .error (.new ("no existing MallocBDev with name " ++ volumeID ++ " found"))
    | .ceph params => c.mapCeph volumeID params
    | .missing => return .error (.new "missing volume parameters")

/-- The target of the first LUN backed by the volume. -/
def findTarget (controllers : List Spdk.Controller) (volumeID : String) : Option ℕ :=
  controllers.findSome? fun controller => controller.backendSpecific.findSome? fun entry =>
    (scsiTargets entry).findSome? fun target => target.luns.findSome? fun lun =>
      if lun.bdevName = volumeID then some target.scsiDevNum else none

/-- The reply for a volume behind `target`. -/
def mapReply (target : ℕ) : MapVolumeReply := ⟨c.vhostDev, ⟨target, 0⟩⟩

/-- The loop over the targets that may be free.  `err` is the last error. -/
def probe (volumeID : String) : List ℕ → String → Client (Except Status MapVolumeReply)
  | [], err => return .error (.wrap err "AddVHostSCSILUN failed for all LUNs, last error")
  | target :: rest, _ => do
    match ← Client.addVHostSCSILUN ⟨c.vhostSCSI, target, volumeID⟩ with
    | .ok () => return .ok (c.mapReply target)
    | .error err => probe volumeID rest err

/-- What `MapVolume` does under the lock. -/
def mapVolumeLocked (volumeID : String) (params : MapParams) :
    Client (Except Status MapVolumeReply) := do
  match ← c.ensureBDev volumeID params with
  | .error e => return .error e
  | .ok () =>
    match ← Client.getVHostControllers with
    | .error err => return .error (.wrap err "GetVHostControllers")
    | .ok controllers =>
      match findTarget controllers volumeID with
      | some target => return .ok (c.mapReply target)
      | none => c.probe volumeID (List.range 8) ""

/-! ## UnmapVolume -/

/-- One `RemoveVHostSCSITarget`. -/
def removeTarget (target : String × ℕ) : Client (Except Status Unit) := do
  match ← Client.removeVHostSCSITarget ⟨target.1, target.2⟩ with
  | .ok () => return .ok ()
  | .error err => return .error (.wrap err "RemoveVHostSCSITarget")

/-- The nested loops that remove every target with a LUN of the volume. -/
def removeTargets (controllers : List Spdk.Controller) (volumeID : String) :
    Client (Except Status Unit) :=
  Prog.forE (fun controller : Spdk.Controller =>
    Prog.forE (fun entry =>
      Prog.forE (fun target : Spdk.SCSIControllerTarget =>
        Prog.forE (fun lun : Spdk.SCSIControllerLUN =>
          if lun.bdevName = volumeID then removeTarget (controller.controller, target.scsiDevNum)
          else return .ok ()) target.luns)
        (scsiTargets entry))
      controller.backendSpecific)
    controllers

/-- "Check whether this is really a BDev created by MapVolume (i.e. everything
except MallocBDevs)", and delete it then, whatever comes of it. -/
def deleteMapped (volumeID : String) : Client Unit := do
  match ← Client.getBDevs volumeID with
  | .ok (bdev :: _) =>
    if bdev.productName ≠ "Malloc disk" then
      let _ ← Client.deleteBDev volumeID
  | _ => return ()

/-- What `UnmapVolume` does under the lock. -/
def unmapVolumeLocked (volumeID : String) : Client (Except Status Unit) := do
  match ← Client.getVHostControllers with
  | .error err => return .error (.wrap err "GetVHostControllers")
  | .ok controllers =>
    match ← removeTargets controllers volumeID with
    | .error e => return .error e
    | .ok () =>
      deleteMapped volumeID
      return .ok ()

/-! ## ProvisionMallocBDev and CheckMallocBDev -/

/-- One `ConstructMallocBDev`, with the size in blocks of 512 bytes. -/
def constructMalloc (bdevName : String) (size : Int64) : Client (Except Status Unit) := do
  match ← Client.constructMallocBDev ⟨size / 512, 512, bdevName⟩ with
  | .ok _ => return .ok ()
  | .error err => return .error (.wrap err "ConstructMallocBDev")

/-- What `ProvisionMallocBDev` does under the lock. -/
def provisionMallocBDevLocked (bdevName : String) (size : Int64) :
    Client (Except Status Unit) := do
  if size ≠ 0 then
    match ← Client.getBDevs bdevName with
    | .ok [bdev] =>
      let actualSize := bdev.numBlocks * bdev.blockSize
      if actualSize ≠ size then
        return .error ⟨.alreadyExists,
          "Existing BDev " ++ bdevName ++ " has wrong size " ++ toString actualSize⟩
      else return .ok ()
    | _ => constructMalloc bdevName size
  else
    let _ ← Client.deleteBDev bdevName
    return .ok ()

/-- What `CheckMallocBDev` does under the lock. -/
def checkMallocBDevLocked (bdevName : String) : Client (Except Status Unit) := do
  match ← Client.getBDevs bdevName with
  | .ok [_] => return .ok ()
  | _ => return .error ⟨.notFound, ""⟩

/-! ## The calls -/

/-- The checks every call starts with; `empty` is the error for a missing name. -/
def checkName (empty name : String) : Option Status :=
  if name = "" then some (.new empty)
  else if c.connected = false then some (.new "not connected to SPDK")
  else none

/-- The checks of `MapVolume`. -/
def checkMapVolume (volumeID : String) : Option Status :=
  match c.checkName "empty volume ID" volumeID with
  | some e => some e
  | none =>
    if c.vhostSCSI = "" then some (.new "no VHost SCSI controller configured")
    else if c.vhostDev = none then some (.new "no PCI BDF configured")
    else none

/-- `MapVolume`. -/
def mapVolume (volumeID : String) (params : MapParams) : Client (Except Status MapVolumeReply) :=
  match c.checkMapVolume volumeID with
  | some e => return .error e
  | none => c.mapVolumeLocked volumeID params

/-- `UnmapVolume`. -/
def unmapVolume (volumeID : String) : Client (Except Status Unit) :=
  match c.checkName "empty volume ID" volumeID with
  | some e => return .error e
  | none => unmapVolumeLocked volumeID

/-- `ProvisionMallocBDev`. -/
def provisionMallocBDev (bdevName : String) (size : Int64) : Client (Except Status Unit) :=
  match c.checkName "empty BDev name" bdevName with
  | some e => return .error e
  | none => provisionMallocBDevLocked bdevName size

/-- `CheckMallocBDev`. -/
def checkMallocBDev (bdevName : String) : Client (Except Status Unit) :=
  match c.checkName "empty BDev name" bdevName with
  | some e => return .error e
  | none => checkMallocBDevLocked bdevName

/-- A call of the controller. -/
inductive Request where
  | mapVolume (volumeID : String) (params : MapParams)
  | unmapVolume (volumeID : String)
  | provisionMallocBDev (bdevName : String) (size : Int64)
  | checkMallocBDev (bdevName : String)
  deriving DecidableEq

/-- The volume ID or BDev name that a call locks. -/
def Request.key : Request → String
  | .mapVolume volumeID _ => volumeID
  | .unmapVolume volumeID => volumeID
  | .provisionMallocBDev bdevName _ => bdevName
  | .checkMallocBDev bdevName => bdevName

/-- What a call returns: the reply to `MapVolume`, or nothing. -/
inductive Answer where
  | mapped (result : Except Status MapVolumeReply)
  | done (result : Except Status Unit)

/-- The checks a call makes before it takes its lock. -/
def early : Request → Option Answer
  | .mapVolume v _ => (c.checkMapVolume v).map fun e => .mapped (.error e)
  | .unmapVolume v => (c.checkName "empty volume ID" v).map fun e => .done (.error e)
  | .provisionMallocBDev v _ => (c.checkName "empty BDev name" v).map fun e => .done (.error e)
  | .checkMallocBDev v => (c.checkName "empty BDev name" v).map fun e => .done (.error e)

/-- What a call does under its lock. -/
def body : Request → Client Answer
  | .mapVolume v params => return .mapped (← c.mapVolumeLocked v params)
  | .unmapVolume v => return .done (← unmapVolumeLocked v)
  | .provisionMallocBDev v size => return .done (← provisionMallocBDevLocked v size)
  | .checkMallocBDev v => return .done (← checkMallocBDevLocked v)

/-- The controller as a family of calls under a lock per key. -/
def calls : Calls Request String Rpc Rpc.Reply Answer where
  key := Request.key
  early := c.early
  body := c.body

/-- A whole call, made alone. -/
def handle : Request → Client Answer
  | .mapVolume v params => return .mapped (← c.mapVolume v params)
  | .unmapVolume v => return .done (← c.unmapVolume v)
  | .provisionMallocBDev v size => return .done (← c.provisionMallocBDev v size)
  | .checkMallocBDev v => return .done (← c.checkMallocBDev v)

/-- Alone, a call is its checks followed by its locked part. -/
theorem handle_eq (req : Request) : c.handle req = match c.early req with
    | some a => .ret a
    | none => c.body req := by
  cases req with
  | mapVolume v params =>
    simp only [handle, early, body, mapVolume]
    cases c.checkMapVolume v <;> rfl
  | unmapVolume v =>
    simp only [handle, early, body, unmapVolume]
    cases c.checkName "empty volume ID" v <;> rfl
  | provisionMallocBDev v size =>
    simp only [handle, early, body, provisionMallocBDev]
    cases c.checkName "empty BDev name" v <;> rfl
  | checkMallocBDev v =>
    simp only [handle, early, body, checkMallocBDev]
    cases c.checkName "empty BDev name" v <;> rfl

/-! ## What the checks let through -/

variable {c}

theorem checkName_eq_none {empty name : String} :
    c.checkName empty name = none ↔ name ≠ "" ∧ c.connected = true := by
  unfold checkName
  split_ifs with h₁ h₂
  · simp [h₁]
  · simp [h₂]
  · simp [h₁, h₂]

theorem checkMapVolume_eq_none {volumeID : String} (h : c.checkMapVolume volumeID = none) :
    volumeID ≠ "" ∧ c.connected = true := by
  unfold checkMapVolume at h
  cases hn : c.checkName "empty volume ID" volumeID with
  | some e => rw [hn] at h; exact absurd h (by simp)
  | none => exact checkName_eq_none.1 hn

/-- No call that gets as far as its lock has an empty key. -/
theorem key_ne_of_early {req : Request} (h : c.early req = none) :
    req.key ≠ "" ∧ c.connected = true := by
  cases req with
  | mapVolume v params => exact checkMapVolume_eq_none (Option.map_eq_none_iff.1 h)
  | unmapVolume v => exact checkName_eq_none.1 (Option.map_eq_none_iff.1 h)
  | provisionMallocBDev v size => exact checkName_eq_none.1 (Option.map_eq_none_iff.1 h)
  | checkMallocBDev v => exact checkName_eq_none.1 (Option.map_eq_none_iff.1 h)

/-! ## The two searches -/

/-- The loops of `UnmapVolume` remove the attachments of the volume in order. -/
theorem removeTargets_eq (controllers : List Spdk.Controller) (volumeID : String) :
    removeTargets controllers volumeID =
      Prog.forE removeTarget (attachments controllers volumeID) := by
  have hluns : ∀ (n : String) (t : ℕ) (luns : List Spdk.SCSIControllerLUN),
      Prog.forE (fun lun : Spdk.SCSIControllerLUN =>
        if lun.bdevName = volumeID then removeTarget (n, t) else Prog.ret (.ok ())) luns =
      Prog.forE removeTarget
        ((luns.filter fun lun => lun.bdevName = volumeID).map fun _ => (n, t)) := by
    intro n t luns
    induction luns with
    | nil => rfl
    | cons lun luns ih =>
      by_cases h : lun.bdevName = volumeID
      · rw [List.filter_cons_of_pos (by simpa using h), List.map_cons, Prog.forE_cons,
          Prog.forE_cons, if_pos h, ih]
      · rw [List.filter_cons_of_neg (by simpa using h), Prog.forE_cons, if_neg h, ← ih]
        rfl
  simp only [attachments, Prog.forE_flatMap, removeTargets, ← hluns, Prog.pure_eq]

/-- The search of `MapVolume` finds the first attachment. -/
theorem findTarget_eq (controllers : List Spdk.Controller) (volumeID : String) :
    findTarget controllers volumeID = (attachments controllers volumeID).head?.map Prod.snd := by
  have hluns : ∀ (n : String) (t : ℕ) (luns : List Spdk.SCSIControllerLUN),
      luns.findSome? (fun lun => if lun.bdevName = volumeID then some t else none) =
        ((luns.filter fun lun => lun.bdevName = volumeID).map fun _ => (n, t)).head?.map
          Prod.snd := by
    intro n t luns
    induction luns with
    | nil => rfl
    | cons lun luns ih =>
      by_cases h : lun.bdevName = volumeID
      · simp [h]
      · simpa [h] using ih
  simp only [attachments, List.head?_flatMap, List.map_findSome?, Function.comp_def, findTarget,
    ← hluns]

end Controller

end Oim
