import Oim.Csi.DeleteVolume
import Oim.Node.State

/-!
# The calls of a CSI driver

All calls of `pkg/oim-csi-driver` that hold the lock of a volume (`volumeNameMutex`): those of the
controller server and of the node server, in both versions of the driver, with the local backend.
Any number of them run at once on one host.

* `Call`, `calls` — the calls, what they check before they take the lock, and what they do.
* `Layout` — which paths are used for which volume, and how; `Fits` — a call is not about a path
  that is used for something else.
* `Issues` — what a call may request in which state.
* `Keeps` — what a call counts on while others work; `Issues.keeps` — a request of one call leaves
  that alone for all other volumes.
-/

namespace Oim.Node

open Interaction
open Csi (FileSystem Mounted MountEntry CommandResult OsError Driver Volume CreateVolumeRequest
  ValidateRequest ValidateResponse StageRequest PublishRequest PublishResult UnpublishRequest)
open Csi.Local (Unexported)
open Spdk (Exports NbdRpc StartNBDDiskArgs StopNBDDiskArgs ConstructRBDBDevArgs ConstructBDevArgs)

/-! ## The calls -/

/-- A call, with what it meets: whether it can connect to SPDK, up to which node it may search, and
whether there is `systemd`. -/
inductive Call where
  | createVolume (driver : Driver) (connectErr : Option String) (req : CreateVolumeRequest)
  | deleteVolume (driver : Driver) (connectErr : Option String) (volumeID : String)
  | validateVolumeCapabilities (driver : Driver) (connectErr : Option String)
      (req : ValidateRequest)
  | nodeStageVolume (driver : Driver) (withSystemd : Bool) (connectErr : Option String) (limit : ℕ)
      (req : StageRequest)
  | nodeUnstageVolume (driver : Driver) (connectErr : Option String)
      (volumeID stagingTargetPath : String)
  | nodePublishVolume (driver : Driver) (withSystemd : Bool) (req : PublishRequest)
  | nodeUnpublishVolume (driver : Driver) (req : UnpublishRequest)

/-- What a call returns. -/
inductive Answer where
  | created (result : Except Status Volume)
  | validated (result : Except Status ValidateResponse)
  | published (result : PublishResult)
  | done (result : Except Status Unit)

namespace Call

/-- "Volume ID is the same as the volume name in CreateVolume. Serialize by that." -/
def key : Call → String
  | createVolume _ _ req => req.name
  | deleteVolume _ _ v => v
  | validateVolumeCapabilities _ _ req => req.volumeId
  | nodeStageVolume _ _ _ _ req => req.volumeID
  | nodeUnstageVolume _ _ v _ => v
  | nodePublishVolume _ _ req => req.volumeID
  | nodeUnpublishVolume _ req => req.volumeID

/-- The checks in front of the lock. -/
def early : Call → Option Answer
  | createVolume _ _ req => (Csi.checkCreateVolume req).map fun e => .created (.error e)
  | deleteVolume _ _ v => (Csi.checkDeleteVolume v).map fun e => .done (.error e)
  | validateVolumeCapabilities _ _ req =>
    if req.volumeId = "" then
      some (.validated (.error ⟨.invalidArgument, "Volume ID missing in request"⟩))
    else if req.volumeCapabilities.isNone then
      some (.validated (.error ⟨.invalidArgument, "Volume capabilities missing in request"⟩))
    else none
  | nodeStageVolume _ _ _ _ req => req.check.map fun e => .done (.error e)
  | nodeUnstageVolume _ _ v p =>
    if p = "" then some (.done (.error ⟨.invalidArgument, "empty target path"⟩))
    else if v = "" then some (.done (.error ⟨.invalidArgument, "empty volume ID"⟩))
    else none
  | nodePublishVolume _ _ req => req.check.map fun e => .published (.error e)
  | nodeUnpublishVolume _ req => req.check.map fun e => .done (.error e)

/-- What a call does under its lock. -/
def body : Call → Action Answer
  | createVolume driver connectErr req =>
    return .created (← onSpdk (driver.createVolume (.localSPDK connectErr) req))
  | deleteVolume driver connectErr v =>
    return .done (← onSpdk (driver.deleteVolume (.localSPDK connectErr) v))
  | validateVolumeCapabilities driver connectErr req =>
    return .validated (← onSpdk (driver.validateVolumeCapabilities (.localSPDK connectErr) req))
  | nodeStageVolume driver withSystemd connectErr limit req =>
    return .done (← onMachine (driver.nodeStageVolume withSystemd connectErr limit req))
  | nodeUnstageVolume driver connectErr v p =>
    return .done (← onHost (driver.nodeUnstageVolume (.localSPDK connectErr) v p))
  | nodePublishVolume driver withSystemd req =>
    return .published (← onFiles (driver.nodePublishVolume withSystemd req))
  | nodeUnpublishVolume driver req =>
    return .done (← onFiles (driver.nodeUnpublishVolume req))

end Call

/-! ## Paths -/

/-- What a path is used for. -/
inductive Use where
  | staging (volumeID : String)
  | target (volumeID : String)
  deriving DecidableEq

def Use.volume : Use → String
  | .staging v => v
  | .target v => v

/-- The paths that the container orchestrator has set aside, each for one volume and one purpose.
A volume is staged at one path only. -/
structure Layout where
  use : String → Option Use
  unique : ∀ p p' v, use p = some (.staging v) → use p' = some (.staging v) → p = p'

/-- Nothing is set aside. -/
def Layout.none : Layout := ⟨fun _ => Option.none, nofun⟩

/-- The path that a call works on, and what for. -/
def Call.place : Call → Option (String × Use)
  | .nodeStageVolume _ _ _ _ req => some (req.targetPath, .staging req.volumeID)
  | .nodeUnstageVolume _ _ v p => some (p, .staging v)
  | .nodePublishVolume _ _ req => some (req.targetPath, .target req.volumeID)
  | .nodeUnpublishVolume _ req => some (req.targetPath, .target req.volumeID)
  | _ => none

theorem Call.volume_of_place {c : Call} {p : String} {u : Use} (h : c.place = some (p, u)) :
    u.volume = c.key := by
  cases c <;> cases h <;> rfl

/-- The call does not use a path for anything but what it is set aside for. -/
def Fits (L : Layout) (c : Call) : Prop :=
  ∀ p u, c.place = some (p, u) → ∀ u', L.use p = some u' → u' = u

theorem fits_none (c : Call) : Fits .none c := by
  intro p u _ u' h
  cases h

/-- The calls that fit. -/
abbrev Fitting (L : Layout) : Type := { c : Call // Fits L c }

/-- The calls of the driver. -/
def calls (L : Layout) : Calls (Fitting L) String Request Request.Reply Answer where
  key c := c.1.key
  early c := c.1.early
  body c := c.1.body

/-! ## What the calls ask for -/

variable {dev : Numbering}

/-- A path for which nothing is set aside, or where no mount is seen. -/
def Clear (L : Layout) (p : String) (s : State dev) : Prop :=
  ∀ u, L.use p = some u → s.files.stat p = .ok (s.files.parentDev p)

/-- The requests of a call. -/
inductive Issues (L : Layout) : Call → State dev → Request → Prop where
  | looks {c : Call} {s : State dev} {q : Request} : q.Looks → Issues L c s q
  | mkdirAll {c : Call} {s : State dev} {p : String} {u : Use} : c.place = some (p, u) →
      Issues L c s (.files (.mkdirAll p))
  /-- A device of the volume, on a path where no mount is seen. -/
  | mountDevice {driver : Driver} {withSystemd : Bool} {connectErr : Option String} {limit : ℕ}
      {req : StageRequest} {s : State dev} {entry : MountEntry} :
      s.exports.on entry.source = some req.volumeID → entry.target = req.targetPath →
      Clear L req.targetPath s →
      Issues L (.nodeStageVolume driver withSystemd connectErr limit req) s (.mountDevice entry)
  /-- A device of the volume, without a file system. -/
  | mkfs {driver : Driver} {withSystemd : Bool} {connectErr : Option String} {limit : ℕ}
      {req : StageRequest} {s : State dev} {fstype device : String} {flags : List String} :
      s.exports.on device = some req.volumeID → s.format req.volumeID = none →
      Issues L (.nodeStageVolume driver withSystemd connectErr limit req) s
        (.mkfs fstype flags device)
  | start {driver : Driver} {withSystemd : Bool} {connectErr : Option String} {limit : ℕ}
      {req : StageRequest} {s : State dev} {node : String} :
      s.exports.on node = some req.volumeID ∨ Unexported s.exports req.volumeID →
      Issues L (.nodeStageVolume driver withSystemd connectErr limit req) s
        (.nbd (.startNBDDisk ⟨req.volumeID, node⟩))
  | stop {driver : Driver} {connectErr : Option String} {v p : String} {s : State dev}
      {node : String} : s.exports.on node = some v ∨ node = "" →
      Issues L (.nodeUnstageVolume driver connectErr v p) s (.nbd (.stopNBDDisk ⟨node⟩))
  | unstage {driver : Driver} {connectErr : Option String} {v p : String} {s : State dev} :
      Issues L (.nodeUnstageVolume driver connectErr v p) s (.files (.umount p))
  | bindMount {driver : Driver} {withSystemd : Bool} {req : PublishRequest} {s : State dev}
      {entry : MountEntry} : entry.source = req.stagingTargetPath →
      entry.target = req.targetPath →
      Issues L (.nodePublishVolume driver withSystemd req) s (.files (.mount entry))
  | umount {c : Call} {s : State dev} {p v : String} : c.place = some (p, .target v) →
      Issues L c s (.files (.umount p))
  | remove {c : Call} {s : State dev} {p v : String} : c.place = some (p, .target v) →
      Issues L c s (.files (.remove p))
  | construct {driver : Driver} {connectErr : Option String} {req : CreateVolumeRequest}
      {s : State dev} {args : ConstructBDevArgs} : args.name = req.name → req.name ≠ "" →
      Issues L (.createVolume driver connectErr req) s (.spdk (.constructMallocBDev args))
  | delete {driver : Driver} {connectErr : Option String} {v : String} {s : State dev} :
      Issues L (.deleteVolume driver connectErr v) s (.spdk (.deleteBDev v))

/-- What a call counts on: the others leave alone the exports, the file system and the paths of its
volume. -/
structure Keeps (L : Layout) (v : String) (s s' : State dev) : Prop where
  exports : ∀ node, s'.exports.on node = some v ↔ s.exports.on node = some v
  format : s'.format v = s.format v
  mounts : ∀ p u, L.use p = some u → u.volume = v → s'.files.mountsAt p = s.files.mountsAt p
  dir : ∀ p u, L.use p = some u → u.volume = v → s'.files.dir p = s.files.dir p
  parentDev : s'.files.parentDev = s.files.parentDev

namespace Keeps

variable {L : Layout} {v : String} {s s₁ s₂ : State dev}

theorem refl (L : Layout) (v : String) (s : State dev) : Keeps L v s s :=
  ⟨fun _ => Iff.rfl, rfl, fun _ _ _ _ => rfl, fun _ _ _ _ => rfl, rfl⟩

theorem trans (h₁ : Keeps L v s s₁) (h₂ : Keeps L v s₁ s₂) : Keeps L v s s₂ where
  exports node := (h₂.exports node).trans (h₁.exports node)
  format := h₂.format.trans h₁.format
  mounts p u hu hv := (h₂.mounts p u hu hv).trans (h₁.mounts p u hu hv)
  dir p u hu hv := (h₂.dir p u hu hv).trans (h₁.dir p u hu hv)
  parentDev := h₂.parentDev.trans h₁.parentDev

theorem stat (h : Keeps L v s s₁) {p : String} {u : Use} (hu : L.use p = some u)
    (hv : u.volume = v) : s₁.files.stat p = s.files.stat p :=
  stat_eq (h.mounts p u hu hv) (h.dir p u hu hv) h.parentDev

theorem clear (h : Keeps L v s s₁) {p : String} (hp : ∀ u, L.use p = some u → u.volume = v)
    (hclear : Clear L p s) : Clear L p s₁ := by
  intro u hu
  rw [h.stat hu (hp u hu), hclear u hu, h.parentDev]

/-- Only the files change, and only at a path of another volume. -/
theorem of_files {q : FileSystem.Request} {r : q.Reply} {fs : FileSystem}
    {hdev : fs.parentDev = s.files.parentDev} (hstep : FileSystem.server.Step q s.files r fs)
    (hq : ∀ p u, changes q = some p → L.use p = some u → u.volume ≠ v) :
    Keeps L v s (s.setFiles fs hdev) where
  exports _ := Iff.rfl
  format := rfl
  mounts p u hu hv := (step_elsewhere hstep fun hp => hq p u hp hu hv).1
  dir p u hu hv := (step_elsewhere hstep fun hp => hq p u hp hu hv).2
  parentDev := hdev

/-- Only SPDK changes, and the block device of the volume stays as it is. -/
theorem of_spdk {spdk : Spdk.State} (hv : spdk.bdev? v = s.spdk.bdev? v) :
    Keeps L v s (s.setSpdk spdk) where
  exports node := by
    rw [State.on_setSpdk, hv]
    exact and_iff_left_of_imp (s.backed node v)
  format := by
    rw [State.format_setSpdk, hv]
    cases h : s.spdk.bdev? v with
    | none => simp [s.formatted v h]
    | some d => rfl
  mounts _ _ _ _ := rfl
  dir _ _ _ _ := rfl
  parentDev := rfl

end Keeps

section Frame

variable {images : ConstructRBDBDevArgs → Option UInt64} {L : Layout} {s s' : State dev}

/-- The paths of a call that fits are not those of other volumes. -/
theorem ne_of_fits {c : Call} (hfits : Fits L c) {p k : String} {u u' : Use}
    (hplace : c.place = some (p, u)) (hu : L.use p = some u') (hk : k ≠ c.key) :
    u'.volume ≠ k := by
  rw [hfits p u hplace u' hu, c.volume_of_place hplace]
  exact hk.symm

theorem keeps_files {c : Call} (hfits : Fits L c) {k p : String} (hk : k ≠ c.key) {u : Use}
    (hplace : c.place = some (p, u)) {q : FileSystem.Request} (hq : changes q = some p)
    {r : q.Reply} (hstep : (server dev images).Step (.files q) s r s') : Keeps L k s s' := by
  obtain ⟨fs, hdev, hfs, rfl⟩ := step_files hstep
  refine .of_files hfs fun p' u' hp' hu' => ?_
  rw [hq, Option.some.injEq] at hp'
  subst hp'
  exact ne_of_fits hfits hplace hu' hk

/-- A call about NBD devices that only touches exports of one volume. -/
theorem keeps_nbd {c : Csi.Local.DeviceCall} {k : String} (hk : k ≠ c.key) {q : NbdRpc}
    (hq : Csi.Local.Issues c s.host (.nbd q)) {r : Except String q.Result}
    (hstep : (server dev images).Step (.nbd q) s r s') : Keeps L k s s' := by
  obtain ⟨e, he, hhost, rfl⟩ := step_nbd hstep
  exact ⟨fun node => (hq.moves hhost).same hk node, rfl, fun _ _ _ _ => rfl, fun _ _ _ _ => rfl,
    rfl⟩

/-- **A request of one call leaves all other volumes alone.** -/
theorem Issues.keeps {c : Call} (hfits : Fits L c) {q : Request} (hq : Issues L c s q)
    {r : q.Reply} (hstep : (server dev images).Step q s r s') {k : String} (hk : k ≠ c.key) :
    Keeps L k s s' := by
  cases hq with
  | looks hlooks =>
    rw [step_looks hlooks hstep]
    exact .refl L k s
  | mkdirAll hplace => exact keeps_files hfits hk hplace rfl hstep
  | mountDevice hon htarget hclear =>
    rcases step_mountDevice hstep with ⟨e, -, rfl⟩ | ⟨-, m, hm, hpath, -, rfl⟩
    · exact .refl L k s'
    · refine ⟨fun _ => Iff.rfl, rfl, fun p u hu hv => ?_, fun _ _ _ _ => rfl, rfl⟩
      refine mountsAt_addMount_ne m hm fun hp => ?_
      rw [hp, hpath, htarget] at hu
      exact ne_of_fits hfits rfl hu hk hv
  | mkfs hon hnone =>
    rcases step_mkfs hstep with rfl | ⟨v, hv, ht, hon', rfl⟩
    · exact .refl L k s'
    · rw [hon, Option.some.injEq] at hon'
      subst hon'
      exact ⟨fun _ => Iff.rfl, Function.update_of_ne hk _ _, fun _ _ _ _ => rfl,
        fun _ _ _ _ => rfl, rfl⟩
  | @start _ _ connectErr limit req _ node hwhere =>
    exact keeps_nbd (c := .createDevice connectErr limit req.volumeID) hk (.start hwhere) hstep
  | @stop _ connectErr v _ _ node hwhere =>
    exact keeps_nbd (c := .deleteDevice connectErr v) hk (.stop hwhere) hstep
  | unstage => exact keeps_files hfits hk rfl rfl hstep
  | @bindMount _ _ _ _ entry hsource htarget =>
    exact keeps_files (q := .mount entry) hfits hk rfl (congrArg some htarget) hstep
  | umount hplace => exact keeps_files hfits hk hplace rfl hstep
  | remove hplace => exact keeps_files hfits hk hplace rfl hstep
  | construct hname hne =>
    rcases step_construct (hname ▸ hne) hstep with rfl | ⟨d, hd, hdn, rfl⟩
    · exact .refl L k s'
    · refine .of_spdk ?_
      rw [Spdk.State.bdev?_addBDev, if_neg]
      rw [hdn, hname]
      exact hk
  | delete =>
    rcases step_delete hstep with rfl | rfl
    · exact .refl L k s'
    · refine .of_spdk ?_
      rw [Spdk.State.bdev?_deleteBDev]
      exact if_neg hk

end Frame

end Oim.Node
