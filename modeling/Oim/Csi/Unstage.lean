import Oim.Controller.MapUnmap
import Oim.Csi.CreateVolume
import Oim.Csi.LocalDevice

/-!
# Unstaging a volume

`NodeUnstageVolume` of both driver versions (`pkg/oim-csi-driver/nodeserver.go`,
`nodeserver0.go`): unmount the staging path, then delete the device.  It is repeated until it
succeeds, and keeps no record of how far it got.

* `Unstaging` — the states of a volume that was staged, and since then unstaged any number of
  times, by calls that may have failed anywhere.
* `unstage_resumes_iff` — from such a state one more call succeeds and leaves nothing behind if
  and only if no earlier call has got past the first step: the path must still be mounted, and
  the local backend must still have its export.
-/

namespace Oim.Csi

open Interaction
open Controller (Unattached)
open Local (Unexported)
open Spdk (Exports ConstructRBDBDevArgs)

/-! ## The code -/

/-- The common body of the two versions. -/
def unstageVolume (b : Backend) (volumeID targetPath : String) : Task (Except Status Unit) :=
  if targetPath = "" then return .error ⟨.invalidArgument, "empty target path"⟩
  else if volumeID = "" then return .error ⟨.invalidArgument, "empty volume ID"⟩
  else do
    match ← Task.unmount targetPath with
    | .error err => return .error ⟨.internal, err⟩
    | .ok () =>
      match ← b.deleteDevice volumeID with
      | .error err => return .error ⟨.internal, err⟩
      | .ok () => return .ok ()

/-- `oimDriver.NodeUnstageVolume` and `oimDriver03.NodeUnstageVolume`. -/
def Driver.nodeUnstageVolume : Driver → Backend → String → String → Task (Except Status Unit)
  | .oimDriver, b, v, p => unstageVolume b v p
  | .oimDriver03, b, v, p => unstageVolume b v p

/-! ## What it is for -/

/-- Nothing is left of the volume. -/
structure Clean (v p : String) (h : Host) : Prop where
  mounts : p ∉ h.mounts
  exports : Unexported h.exports v
  luns : Unattached h.spdk v

def Backend.isLocal : Backend → Bool
  | .localSPDK _ => true
  | .remoteSPDK _ _ => false

/-- The volume is staged: it is mounted at the path once, from a NBD device or a SCSI disk. -/
structure Staged (b : Backend) (v p : String) (h : Host) : Prop where
  volume : v ≠ ""
  path : p ≠ ""
  mounted : h.mounts.count p = 1
  onLocal : b.isLocal = true → Unattached h.spdk v ∧
    ∃ node, h.exports.on node = some v ∧ ∀ node', h.exports.on node' = some v → node' = node
  onRemote : b.isLocal = false → Unexported h.exports v ∧ ∃ n t, h.spdk.lun n t = some v

/-- The volume was staged, and then unstaged any number of times, by either version of the
driver, with anything failing on the way. -/
inductive Unstaging (images : ConstructRBDBDevArgs → Option UInt64) (b : Backend) (v p : String) :
    Host → Prop where
  | staged {h : Host} : Staged b v p h → Unstaging images b v p h
  | unstaged {h h' : Host} {d : Driver} {b' : Backend} {r : Except Status Unit} :
      Unstaging images b v p h → b'.isLocal = b.isLocal →
      Prog.Runs (Host.server images) (d.nodeUnstageVolume b' v p) h r h' →
      Unstaging images b v p h'

/-! ## What is left on the way -/

/-- The volume is staged or partly unstaged. -/
structure Partly (b : Backend) (v p : String) (h : Host) : Prop where
  volume : v ≠ ""
  path : p ≠ ""
  mounted : h.mounts.count p ≤ 1
  onLocal : b.isLocal = true → Unattached h.spdk v ∧
    ∀ node node', h.exports.on node = some v → h.exports.on node' = some v → node' = node
  onRemote : b.isLocal = false → Unexported h.exports v

theorem Staged.partly {b : Backend} {v p : String} {h : Host} (hs : Staged b v p h) :
    Partly b v p h := by
  refine ⟨hs.volume, hs.path, hs.mounted.le, fun hlocal => ?_,
    fun hremote => (hs.onRemote hremote).1⟩
  obtain ⟨hun, node, -, huniq⟩ := hs.onLocal hlocal
  exact ⟨hun, fun n n' hn hn' => (huniq n' hn').trans (huniq n hn).symm⟩

/-- The requests of the call. -/
def Unstages (b : Backend) : Host.Request → Prop
  | .umount _ => True
  | .probe _ => False
  | .nbd (.startNBDDisk _) => False
  | .nbd _ => True
  | .deliver _ => True
  | .spdk _ => b.isLocal = false

variable {images : ConstructRBDBDevArgs → Option UInt64} {b : Backend} {v p : String}

theorem only_findNBDDevice (b : Backend) (v : String) :
    (Local.findNBDDevice v).Only (Unstages b) := by
  refine ⟨trivial, fun reply => ?_⟩
  cases reply <;> trivial

theorem only_stopDevice (b : Backend) (node : String) :
    (Local.stopDevice node).Only (Unstages b) := by
  refine ⟨trivial, fun _ => ⟨trivial, fun reply => ?_⟩⟩
  cases reply <;> trivial

theorem only_unmapDevice (link : Link) (controller : Controller) (v : String) :
    (Remote.unmapDevice link controller v).Only (Unstages (.remoteSPDK link controller)) := by
  have hspdk : ∀ q, Unstages (.remoteSPDK link controller) (.spdk q) := fun _ => rfl
  refine Prog.only_bind (Prog.only_embed hspdk _) fun r => ?_
  cases r <;> trivial

theorem only_deleteDevice (b : Backend) (v : String) : (b.deleteDevice v).Only (Unstages b) := by
  cases b with
  | localSPDK connectErr =>
    cases connectErr with
    | some err => trivial
    | none =>
      refine Prog.only_bind (only_findNBDDevice _ v) fun r => ?_
      cases r with
      | error err => trivial
      | ok node => exact only_stopDevice _ node
  | remoteSPDK link controller =>
    cases link with
    | undialable err => trivial
    | unreachable status => exact only_unmapDevice _ controller v
    | replyLost status => exact only_unmapDevice _ controller v
    | up => exact only_unmapDevice _ controller v

theorem only_unstageVolume (b : Backend) (v p : String) :
    (unstageVolume b v p).Only (Unstages b) := by
  unfold unstageVolume
  split_ifs
  · trivial
  · trivial
  · refine Prog.only_bind ⟨trivial, fun reply => ?_⟩ fun r => ?_
    · cases reply <;> trivial
    · cases r with
      | error err => trivial
      | ok u =>
        refine Prog.only_bind (only_deleteDevice b v) fun r => ?_
        cases r <;> trivial

/-- **One request of the call leaves the volume partly unstaged.** -/
theorem Partly.step {b' : Backend} (hb : b'.isLocal = b.isLocal) {q : Host.Request} {h h' : Host}
    {r : q.Reply} (hq : Unstages b' q) (hstep : (Host.server images).Step q h r h')
    (hp : Partly b v p h) : Partly b v p h' := by
  cases q with
  | probe node => exact hq.elim
  | deliver reply => rw [(Host.step_deliver hstep).1]; exact hp
  | umount target =>
    rcases Host.step_umount hstep with rfl | rfl
    · exact hp
    · refine { hp with mounted := le_trans ?_ hp.mounted }
      simpa using (List.erase_sublist (a := target) (l := h.mounts.reverse)).count_le p
  | nbd q =>
    cases q with
    | getNBDDisks => rw [(Host.step_getNBDDisks hstep).1]; exact hp
    | startNBDDisk args => exact hq.elim
    | stopNBDDisk args =>
      rcases Host.step_stopNBDDisk hstep with ⟨-, -, rfl⟩ | ⟨-, rfl⟩
      · refine { hp with
          onLocal := fun hlocal => ⟨(hp.onLocal hlocal).1, fun node node' hon hon' => ?_⟩
          onRemote := fun hremote node hon => ?_ }
        · exact (hp.onLocal hlocal).2 node node' (Exports.on_stop.1 hon).1
            (Exports.on_stop.1 hon').1
        · exact hp.onRemote hremote node (Exports.on_stop.1 hon).1
      · exact hp
  | spdk q =>
    obtain ⟨hmounts, hexports⟩ := Host.step_spdk hstep
    have hremote : b.isLocal = false := hb.symm.trans hq
    refine ⟨hp.volume, hp.path, hmounts ▸ hp.mounted, fun hlocal => ?_, fun _ node hon => ?_⟩
    · exact absurd (hlocal.symm.trans hremote) (by simp)
    · exact hp.onRemote hremote node (hexports node v hon)

/-- **Whatever has failed before.** -/
theorem Unstaging.partly {h : Host} (hu : Unstaging images b v p h) : Partly b v p h := by
  induction hu with
  | staged hs => exact hs.partly
  | @unstaged h h' d b' r _ hb hrun ih =>
    have honly : (d.nodeUnstageVolume b' v p).Only (Unstages b') := by
      cases d <;> exact only_unstageVolume b' v p
    exact Prog.Runs.keeps (fun _ _ _ _ hq hstep => Partly.step hb hq hstep) honly hrun ih

/-! ## A call that nothing disturbs -/

section Run

variable (images) in
theorem run_unmount (h : Host) (target : String) :
    (target ∈ h.mounts ∧ (Task.unmount target).run (Host.server images) h =
      (.ok (), { h with mounts := (h.mounts.reverse.erase target).reverse })) ∨
    (target ∉ h.mounts ∧ ∃ err, (Task.unmount target).run (Host.server images) h =
      (.error err, h)) := by
  simp only [Task.unmount, Prog.run_call, Host.server, Host.exec, Host.execUmount]
  split_ifs with hmem
  · exact .inl ⟨hmem, rfl⟩
  · exact .inr ⟨hmem, _, rfl⟩

variable (images) in
theorem run_stopDevice (h : Host) (node : String) :
    ((h.exports.on node).isSome ∧ (Local.stopDevice node).run (Host.server images) h =
      (.ok (), { h with exports := h.exports.stop node })) ∨
    (h.exports.on node = none ∧ ∃ err, (Local.stopDevice node).run (Host.server images) h =
      (.error err, h)) := by
  have hrun : (Task.stopNBDDisk ⟨node⟩).run (Host.server images) h =
      ((Spdk.execStop h.exports ⟨node⟩).1,
        { h with exports := (Spdk.execStop h.exports ⟨node⟩).2 }) := rfl
  unfold Local.stopDevice
  rw [Prog.bind_eq, Prog.run_bind, hrun]
  rcases Spdk.execStop_cases h.exports ⟨node⟩ with ⟨hon, heq⟩ | ⟨hon, err, heq⟩
  · rw [heq]
    exact .inl ⟨hon, rfl⟩
  · rw [heq]
    exact .inr ⟨hon, _, rfl⟩

variable (images) in
/-- `deleteDevice` of the local backend needs an export. -/
theorem run_deleteDevice_local {h : Host}
    (huniq : ∀ node node', h.exports.on node = some v → h.exports.on node' = some v →
      node' = node) :
    (∃ node e, h.exports.on node = some v ∧ Unexported e v ∧
      (Local.deleteDevice none v).run (Host.server images) h = (.ok (), { h with exports := e })) ∨
    (Unexported h.exports v ∧ ∃ err,
      (Local.deleteDevice none v).run (Host.server images) h = (.error err, h)) := by
  have hrun : (Local.deleteDevice none v).run (Host.server images) h =
      (Local.stopDevice (Local.nbdDeviceOf h.exports.disks v)).run (Host.server images) h := rfl
  rw [hrun]
  rcases Local.found_nbdDeviceOf v h with hon | ⟨hempty, hun⟩
  · rcases run_stopDevice images h (Local.nbdDeviceOf h.exports.disks v) with
      ⟨-, hstop⟩ | ⟨hoff, -⟩
    · refine .inl ⟨_, _, hon, fun node hon' => ?_, hstop⟩
      obtain ⟨hon', hne⟩ := Exports.on_stop.1 hon'
      exact hne (huniq _ _ hon hon')
    · exact absurd hoff (by simp [hon])
  · rcases run_stopDevice images h (Local.nbdDeviceOf h.exports.disks v) with
      ⟨hon, -⟩ | ⟨-, err, hstop⟩
    · exact absurd hon (by simp [hempty, Exports.on_unnamed])
    · exact .inr ⟨hun, err, hstop⟩

variable (images) in
/-- `deleteDevice` of the remote backend does not. -/
theorem run_deleteDevice_remote {c : Controller} (hconn : c.connected = true) (hne : v ≠ "")
    {h : Host} (hun : Unexported h.exports v) :
    ∃ h', (Remote.deleteDevice .up c v).run (Host.server images) h = (.ok (), h') ∧
      h'.mounts = h.mounts ∧ Unexported h'.exports v ∧ Unattached h'.spdk v := by
  obtain ⟨s', hunmap, hunattached⟩ :=
    Controller.run_unmapVolume_unattached images hne hconn h.spdk
  obtain ⟨hreply, hspdk, hmounts, hexports⟩ := Task.run_spdk images (c.unmapVolume v) h
  rw [hunmap] at hreply hspdk
  refine ⟨((Task.spdk (c.unmapVolume v)).run (Host.server images) h).2, ?_, hmounts,
    fun node hon => hun node (hexports node v hon), hspdk ▸ hunattached⟩
  show ((Task.spdk (c.unmapVolume v)).bind _).run (Host.server images) h = _
  rw [Prog.run_bind, hreply]
  rfl

variable (images) in
/-- What the call comes to: it fails if the path is not mounted, and otherwise does what
`deleteDevice` does. -/
theorem run_unstageVolume (hv : v ≠ "") (hp : p ≠ "") (b : Backend) (h : Host) :
    (p ∉ h.mounts ∧ ∃ e, (unstageVolume b v p).run (Host.server images) h = (.error e, h)) ∨
    (p ∈ h.mounts ∧ ∃ h₁, h₁ = { h with mounts := (h.mounts.reverse.erase p).reverse } ∧
      ((unstageVolume b v p).run (Host.server images) h).2 =
        ((b.deleteDevice v).run (Host.server images) h₁).2 ∧
      (((unstageVolume b v p).run (Host.server images) h).1 = .ok () ↔
        ((b.deleteDevice v).run (Host.server images) h₁).1 = .ok ())) := by
  unfold unstageVolume
  rw [if_neg hp, if_neg hv, Prog.bind_eq, Prog.run_bind]
  rcases run_unmount images h p with ⟨hmem, hrun⟩ | ⟨hmem, err, hrun⟩
  · refine .inr ⟨hmem, _, rfl, ?_⟩
    rw [hrun]
    simp only [Prog.bind_eq]
    rw [Prog.run_bind]
    cases hdelete : ((b.deleteDevice v).run (Host.server images)
      { h with mounts := (h.mounts.reverse.erase p).reverse }).1 with
    | error err => exact ⟨rfl, by simp⟩
    | ok u => exact ⟨rfl, by simp⟩
  · rw [hrun]
    exact .inl ⟨hmem, _, rfl⟩

end Run

/-- The last mount at the path is gone. -/
theorem not_mem_of_count {mounts : List String} (h : mounts.count p ≤ 1) :
    p ∉ (mounts.reverse.erase p).reverse := by
  rw [← List.count_eq_zero, List.count_reverse, List.count_erase_self, List.count_reverse]
  omega

/-- **When unstaging can be repeated or resumed.**  The volume was staged, and then unstaged any
number of times by calls that may have failed anywhere.  One more call in which nothing fails
succeeds and leaves nothing of the volume, if and only if the path is still mounted and, with the
local backend, the volume is still exported. -/
theorem unstage_resumes_iff (images : ConstructRBDBDevArgs → Option UInt64) (d : Driver)
    (b : Backend) (hb : b.Works) (v p : String) (h : Host) (hu : Unstaging images b v p h) :
    (((d.nodeUnstageVolume b v p).run (Host.server images) h).1 = .ok () ∧
      Clean v p ((d.nodeUnstageVolume b v p).run (Host.server images) h).2) ↔
    p ∈ h.mounts ∧ (b.isLocal = true → ∃ node, h.exports.on node = some v) := by
  have hpartly := hu.partly
  have hd : d.nodeUnstageVolume b v p = unstageVolume b v p := by cases d <;> rfl
  rw [hd]
  rcases run_unstageVolume images hpartly.volume hpartly.path b h with
    ⟨hmem, e, hrun⟩ | ⟨hmem, h₁, rfl, hstate, hok⟩
  · rw [hrun]
    exact iff_of_false (fun hgood => nomatch hgood.1) fun hcond => hmem hcond.1
  · rw [hok, hstate, and_iff_right hmem]
    have hgone := not_mem_of_count hpartly.mounted
    cases b with
    | localSPDK connectErr =>
      obtain rfl : connectErr = none := hb
      obtain ⟨hunattached, huniq⟩ := hpartly.onLocal rfl
      rcases run_deleteDevice_local images
        (h := { h with mounts := (h.mounts.reverse.erase p).reverse }) huniq with
        ⟨node, e, hon, hun, hrun⟩ | ⟨hun, err, hrun⟩
      · rw [show Backend.deleteDevice _ v = Local.deleteDevice none v from rfl, hrun]
        exact iff_of_true ⟨rfl, hgone, hun, hunattached⟩ fun _ => ⟨node, hon⟩
      · rw [show Backend.deleteDevice _ v = Local.deleteDevice none v from rfl, hrun]
        refine iff_of_false (fun hgood => nomatch hgood.1) fun hcond => ?_
        obtain ⟨node, hon⟩ := hcond rfl
        exact hun node hon
    | remoteSPDK link controller =>
      obtain ⟨rfl, hconn⟩ := hb
      obtain ⟨h', hrun, hmounts, hun, hunattached⟩ := run_deleteDevice_remote images hconn
        hpartly.volume (h := { h with mounts := (h.mounts.reverse.erase p).reverse })
        (hpartly.onRemote rfl)
      rw [show Backend.deleteDevice _ v = Remote.deleteDevice .up controller v from rfl, hrun]
      exact iff_of_true ⟨rfl, by rw [hmounts]; exact hgone, hun, hunattached⟩ nofun

/-- A host on which a volume is staged, with the local backend. -/
def stagedHost : Host where
  mounts := ["/staging"]
  nodes := 1
  exports := Exports.empty.start ⟨"vol", "/dev/nbd0"⟩ (by decide) rfl
  spdk := Controller.oneVolume

theorem staged_stagedHost : Staged (.localSPDK none) "vol" "/staging" stagedHost := by
  refine ⟨by decide, by decide, by decide, fun _ => ⟨fun n t => ?_, ?_⟩, nofun⟩
  · exact ne_of_eq_of_ne (Controller.lun_oneVolume n t) (by simp)
  · refine ⟨"/dev/nbd0", rfl, fun node hon => ?_⟩
    simpa [stagedHost, Exports.start, Exports.empty] using Exports.on_eq_some_iff.1 hon

/-- The first call works. -/
theorem unstage_resumes_iff_staged :
    ((Driver.oimDriver.nodeUnstageVolume (.localSPDK none) "vol" "/staging").run
      (Host.server fun _ => none) stagedHost).1 = .ok () :=
  ((unstage_resumes_iff _ .oimDriver (.localSPDK none) rfl "vol" "/staging" stagedHost
    (.staged staged_stagedHost)).2 ⟨by decide, fun _ => ⟨"/dev/nbd0", rfl⟩⟩).1

/-- A call that cannot connect to SPDK has unmounted the path, and from then on all calls fail:
the export stays for ever. -/
theorem unstage_stuck :
    let first := (Driver.oimDriver.nodeUnstageVolume (.localSPDK (some "connection refused"))
      "vol" "/staging").run (Host.server fun _ => none) stagedHost
    let second := (Driver.oimDriver.nodeUnstageVolume (.localSPDK none) "vol" "/staging").run
      (Host.server fun _ => none) first.2
    Staged (.localSPDK none) "vol" "/staging" stagedHost ∧
      first.1 = .error ⟨.internal, "connect to SPDK: connection refused"⟩ ∧
      second.1 = .error ⟨.internal, "Unmount failed: exit status 32\n" ++
        "Unmounting arguments: /staging\nOutput: umount: /staging: not mounted.\n\n"⟩ ∧
      second.2.exports.on "/dev/nbd0" = some "vol" :=
  ⟨staged_stagedHost, rfl, rfl, rfl⟩

end Oim.Csi
