import Oim.Csi.Backend
import Oim.Spdk.Nbd

/-!
# The host of the CSI driver

What the node service of the CSI driver works on: the mount table and the `/dev/nbd*` nodes of
its host, and the SPDK daemon behind its backend.

* `Host`, `Host.server` — the state, and the requests: the `umount` command, a look at a device
  node, the calls to SPDK.  Each may fail without effect; a look at a node may show anything,
  since the size of a node lags behind what it exports.
* `Local.createDevice`, `Local.deleteDevice`, `Remote.deleteDevice` — the devices of the two
  backends (`pkg/oim-csi-driver/local.go`, `remote.go`).
-/

namespace Oim.Csi

open Interaction
open Spdk (Client Exports NbdRpc StartNBDDiskArgs StopNBDDiskArgs ConstructRBDBDevArgs)

/-! ## Requests -/

/-- The host, with its SPDK. -/
structure Host where
  /-- The mount points, oldest first. -/
  mounts : List String
  /-- How many nodes `/dev/nbd*` there are. -/
  nodes : ℕ
  exports : Exports
  spdk : Spdk.State

/-- What opening a device node and reading its size gives. -/
inductive Probe where
  /-- There is no such node. -/
  | notExist (err : String)
  /-- Opening it, reading its size or closing it fails. -/
  | failed (err : String)
  | size (bytes : ℕ)

namespace Host

/-- What the driver asks for. -/
inductive Request where
  /-- `exec.Command("umount", target)`. -/
  | umount (target : String)
  | probe (node : ℕ)
  | nbd (q : NbdRpc)
  /-- The reply to a call that SPDK has carried out gets to the driver. -/
  | deliver (reply : Except String Unit)
  | spdk (q : Spdk.Rpc)

/-- The error of a command and its output. -/
abbrev CommandError : Type := String × String

def Request.Reply : Request → Type
  | .umount _ => Except CommandError Unit
  | .probe _ => Probe
  | .nbd q => Except String q.Result
  | .deliver _ => Except String Unit
  | .spdk q => q.Reply

/-- The name of a node. -/
def nodeName (node : ℕ) : String := "/dev/nbd" ++ toString node

/-- The `umount` command, which removes the last mount at a mount point. -/
def execUmount (h : Host) (target : String) : Except CommandError Unit × Host :=
  if target ∈ h.mounts then
    (.ok (), { h with mounts := (h.mounts.reverse.erase target).reverse })
  else (.error ("exit status 32", "umount: " ++ target ++ ": not mounted.\n"), h)

/-- A node that exports something has its size, any other is empty. -/
def execProbe (h : Host) (node : ℕ) : Probe :=
  if node < h.nodes then
    match (h.exports.on (nodeName node)).bind h.spdk.bdev? with
    | some d => .size (d.blocklen.toNat * d.blockcnt.toNat)
    | none => .size 0
  else .notExist ("open " ++ nodeName node ++ ": no such file or directory")

/-- What each request does when nothing fails.  An export ends with its block device. -/
def exec (images : ConstructRBDBDevArgs → Option UInt64) : (q : Request) → Host → q.Reply × Host
  | .umount target, h => execUmount h target
  | .probe node, h => (execProbe h node, h)
  | .nbd q, h =>
    let r := Spdk.execNbd h.spdk h.exports q
    (r.1, { h with exports := r.2 })
  | .deliver reply, h => (reply, h)
  | .spdk q, h =>
    let r := Spdk.exec images q h.spdk
    (r.1, { h with
      spdk := r.2
      exports := h.exports.restrict fun d => (r.2.bdev? d.bdevName).isSome })

/-- The answers that stand for a failure without effect. -/
def Fault : (q : Request) → q.Reply → Prop
  | .umount _, r => ∃ e, r = (Except.error e : Except CommandError Unit)
  | .probe _, _ => True
  | .nbd q, r => ∃ e, r = (Except.error e : Except String q.Result)
  | .deliver _, r => ∃ e, r = (Except.error e : Except String Unit)
  | .spdk q, r => ∃ e, r = (Except.error e : Except String q.Result)

/-- The host, on which anything may fail. -/
def server (images : ConstructRBDBDevArgs → Option UInt64) :
    Server Request Request.Reply Host where
  exec := exec images
  Fault := Fault

/-! ### What a request can do -/

section Steps

variable {images : ConstructRBDBDevArgs → Option UInt64} {h h' : Host}

theorem step_probe {node : ℕ} {r : Probe} (hstep : (server images).Step (.probe node) h r h') :
    h' = h := by
  rcases hstep with ⟨-, rfl⟩ | ⟨-, rfl⟩ <;> rfl

theorem step_umount {target : String} {r : Except CommandError Unit}
    (hstep : (server images).Step (.umount target) h r h') :
    h' = h ∨ h' = { h with mounts := (h.mounts.reverse.erase target).reverse } := by
  rcases hstep with ⟨-, rfl⟩ | ⟨-, rfl⟩
  · simp only [server, exec, execUmount]
    split_ifs
    · exact .inr rfl
    · exact .inl rfl
  · exact .inl rfl

theorem step_spdk {q : Spdk.Rpc} {r : q.Reply} (hstep : (server images).Step (.spdk q) h r h') :
    h'.mounts = h.mounts ∧
      ∀ node v, h'.exports.on node = some v → h.exports.on node = some v := by
  rcases hstep with ⟨-, rfl⟩ | ⟨-, rfl⟩
  · exact ⟨rfl, fun node v hon => (Exports.on_restrict.1 hon).1⟩
  · exact ⟨rfl, fun _ _ hon => hon⟩

theorem step_deliver {reply r : Except String Unit}
    (hstep : (server images).Step (.deliver reply) h r h') :
    h' = h ∧ (r = reply ∨ ∃ e, r = .error e) := by
  rcases hstep with ⟨rfl, rfl⟩ | ⟨he, rfl⟩
  · exact ⟨rfl, .inl rfl⟩
  · exact ⟨rfl, .inr he⟩

theorem step_getNBDDisks {r : Except String (List StartNBDDiskArgs)}
    (hstep : (server images).Step (.nbd .getNBDDisks) h r h') :
    h' = h ∧ (r = .ok h.exports.disks ∨ ∃ e, r = .error e) := by
  rcases hstep with ⟨rfl, rfl⟩ | ⟨he, rfl⟩
  · exact ⟨rfl, .inl rfl⟩
  · exact ⟨rfl, .inr he⟩

/-- Either the disk is started, on a node that was free, or nothing happens. -/
theorem step_startNBDDisk {args : StartNBDDiskArgs} {r : Except String Unit}
    (hstep : (server images).Step (.nbd (.startNBDDisk args)) h r h') :
    (r = .ok () ∧ ∃ hne hfree, h' = { h with exports := h.exports.start args hne hfree }) ∨
      ((∃ e, r = .error e) ∧ h' = h) := by
  rcases hstep with ⟨rfl, rfl⟩ | ⟨he, rfl⟩
  · simp only [server, exec, Spdk.execNbd]
    rcases Spdk.execStart_cases h.spdk h.exports args with ⟨hne, hfree, heq⟩ | ⟨err, heq⟩
    · exact .inl (by rw [heq]; exact ⟨rfl, hne, hfree, rfl⟩)
    · exact .inr (by rw [heq]; exact ⟨⟨err, rfl⟩, rfl⟩)
  · exact .inr ⟨he, rfl⟩

/-- Either the disk is stopped, on a node that exports something, or nothing happens. -/
theorem step_stopNBDDisk {args : StopNBDDiskArgs} {r : Except String Unit}
    (hstep : (server images).Step (.nbd (.stopNBDDisk args)) h r h') :
    (r = .ok () ∧ (h.exports.on args.nbdDevice).isSome ∧
      h' = { h with exports := h.exports.stop args.nbdDevice }) ∨
      ((∃ e, r = .error e) ∧ h' = h) := by
  rcases hstep with ⟨rfl, rfl⟩ | ⟨he, rfl⟩
  · simp only [server, exec, Spdk.execNbd]
    rcases Spdk.execStop_cases h.exports args with ⟨hon, heq⟩ | ⟨-, err, heq⟩
    · exact .inl (by rw [heq]; exact ⟨rfl, hon, rfl⟩)
    · exact .inr (by rw [heq]; exact ⟨⟨err, rfl⟩, rfl⟩)
  · exact .inr ⟨he, rfl⟩

end Steps

end Host

/-- What the driver does on its host. -/
abbrev Task (α : Type) : Type := Prog Host.Request Host.Request.Reply α

namespace Task

/-- Calls to SPDK, made from here. -/
def spdk {α : Type} (p : Client α) : Task α := p.embed .spdk fun _ r => r

/-- They do on SPDK what they do anywhere, and leave the mounts alone. -/
theorem run_spdk {α : Type} (images : ConstructRBDBDevArgs → Option UInt64) (p : Client α)
    (h : Host) :
    ((spdk p).run (Host.server images) h).1 = (p.run (Spdk.server images) h.spdk).1 ∧
      ((spdk p).run (Host.server images) h).2.spdk = (p.run (Spdk.server images) h.spdk).2 ∧
      ((spdk p).run (Host.server images) h).2.mounts = h.mounts ∧
      ∀ node v, ((spdk p).run (Host.server images) h).2.exports.on node = some v →
        h.exports.on node = some v := by
  have hembed : ((spdk p).run (Host.server images) h).1 = (p.run (Spdk.server images) h.spdk).1 ∧
      ((spdk p).run (Host.server images) h).2.spdk = (p.run (Spdk.server images) h.spdk).2 :=
    Prog.run_embed (fun _ _ => rfl) (fun _ _ => rfl) p h
  refine ⟨hembed.1, hembed.2, ?_⟩
  have honly : (spdk p).Only (fun q => ∃ q', q = .spdk q') := Prog.only_embed (fun q => ⟨q, rfl⟩) p
  refine Prog.Runs.keeps (P := fun h' => h'.mounts = h.mounts ∧
    ∀ node v, h'.exports.on node = some v → h.exports.on node = some v) ?_ honly
    (Prog.runs_run (Host.server images) (spdk p) h) ⟨rfl, fun _ _ hon => hon⟩
  rintro _ h₁ r h₂ ⟨q, rfl⟩ hstep ⟨hmounts, hexports⟩
  obtain ⟨hmounts', hexports'⟩ := Host.step_spdk hstep
  exact ⟨hmounts'.trans hmounts, fun node v hon => hexports node v (hexports' node v hon)⟩

/-- `Mounter.Unmount`, given how the command `umount` has ended. -/
def unmountResult (target : String) : Except Host.CommandError Unit → Except String Unit
  | .ok () => .ok ()
  | .error (err, output) => .error ("Unmount failed: " ++ err ++ "\nUnmounting arguments: " ++
      target ++ "\nOutput: " ++ output ++ "\n")

/-- `Mounter.Unmount` on the host. -/
def unmount (target : String) : Task (Except String Unit) :=
  .call (.umount target) fun result => .ret (unmountResult target result)

/-- `spdk.GetNBDDisks`. -/
def getNBDDisks : Task (Except String (List StartNBDDiskArgs)) := .call (.nbd .getNBDDisks) .ret

/-- `spdk.StartNBDDisk`. -/
def startNBDDisk (args : StartNBDDiskArgs) : Task (Except String Unit) :=
  .call (.nbd (.startNBDDisk args)) fun reply => .call (.deliver reply) .ret

/-- `spdk.StopNBDDisk`. -/
def stopNBDDisk (args : StopNBDDiskArgs) : Task (Except String Unit) :=
  .call (.nbd (.stopNBDDisk args)) fun reply => .call (.deliver reply) .ret

end Task

/-! ## localSPDK -/

namespace Local

/-- The loop of `findNBDDevice`: the first node of the volume, or an empty string. -/
def nbdDeviceOf (nbdDisks : List StartNBDDiskArgs) (volumeID : String) : String :=
  match nbdDisks.find? (·.bdevName = volumeID) with
  | some nbd => nbd.nbdDevice
  | none => ""

/-- `findNBDDevice`. -/
def findNBDDevice (volumeID : String) : Task (Except String String) := do
  match ← Task.getNBDDisks with
  | .error err => return .error ("get NDB disks from SPDK: " ++ err)
  | .ok nbdDisks => return .ok (nbdDeviceOf nbdDisks volumeID)

/-- The search for a node that seems unused.  It ends at the first node that does not exist,
which is node `i + limit` at the latest. -/
def findUnused : (limit i : ℕ) → (nbdError : Option String) → Task (Except String String)
  | 0, i, nbdError =>
    return .error (nbdError.getD ("open " ++ Host.nodeName i ++ ": no such file or directory"))
  | limit + 1, i, nbdError => .call (.probe i) fun
    | .notExist err => .ret (.error (nbdError.getD err))
    | .failed err => findUnused limit (i + 1) (some err)
    | .size 0 => .ret (.ok (Host.nodeName i))
    | .size _ => findUnused limit (i + 1) nbdError

/-- The verb `%+v` on the arguments. -/
def startText (args : StartNBDDiskArgs) : String :=
  "\x7bBDevName:" ++ args.bdevName ++ " NBDDevice:" ++ args.nbdDevice ++ "\x7d"

/-- The end of `createDevice`. -/
def startDevice (volumeID nbdDevice : String) : Task (Except String String) := do
  let args : StartNBDDiskArgs := ⟨volumeID, nbdDevice⟩
  match ← Task.startNBDDisk args with
  | .error err => return .error ("start SPDK NBD disk " ++ startText args ++ ": " ++ err)
  | .ok () => return .ok nbdDevice

/-- `localSPDK.createDevice`.  A device that is started already is started again. -/
def createDevice (connectErr : Option String) (limit : ℕ) (volumeID : String) :
    Task (Except String String) :=
  match connectErr with
  | some err => return .error ("connect to SPDK: " ++ err)
  | none => do
    match ← findNBDDevice volumeID with
    | .error err => return .error ("find NBD device: " ++ err)
    | .ok nbdDevice =>
      if nbdDevice ≠ "" then startDevice volumeID nbdDevice
      else
        match ← findUnused limit 0 none with
        | .error err => return .error ("no unused /dev/nbd*: " ++ err)
        | .ok nbdDevice => startDevice volumeID nbdDevice

/-- The end of `deleteDevice`. -/
def stopDevice (nbdDevice : String) : Task (Except String Unit) := do
  match ← Task.stopNBDDisk ⟨nbdDevice⟩ with
  | .error err =>
    return .error ("stop SPDK NDB disk \x7bNBDDevice:" ++ nbdDevice ++ "\x7d: " ++ err)
  | .ok () => return .ok ()

/-- `localSPDK.deleteDevice`. -/
def deleteDevice (connectErr : Option String) (volumeID : String) : Task (Except String Unit) :=
  match connectErr with
  | some err => return .error ("connect to SPDK: " ++ err)
  | none => do
    match ← findNBDDevice volumeID with
    | .error err => return .error ("get NDB disks from SPDK: " ++ err)
    | .ok nbdDevice => stopDevice nbdDevice

end Local

/-! ## remoteSPDK -/

namespace Remote

/-- `deleteDevice`, once there is a connection to the registry. -/
def unmapDevice (link : Link) (controller : Controller) (volumeID : String) :
    Task (Except String Unit) := do
  match ← Task.spdk (link.call (controller.unmapVolume volumeID)) with
  | .error e => return .error ("UnmapVolume for " ++ volumeID ++ ": " ++ e.text)
  | .ok () => return .ok ()

/-- `remoteSPDK.deleteDevice`. -/
def deleteDevice (link : Link) (controller : Controller) (volumeID : String) :
    Task (Except String Unit) :=
  match link with
  | .undialable err => return .error ("connect to registry: " ++ err)
  | link => unmapDevice link controller volumeID

end Remote

/-! ## OIMBackend -/

/-- `deleteDevice` of either backend. -/
def Backend.deleteDevice : Backend → String → Task (Except String Unit)
  | .localSPDK connectErr, v => Local.deleteDevice connectErr v
  | .remoteSPDK link controller, v => Remote.deleteDevice link controller v

end Oim.Csi
