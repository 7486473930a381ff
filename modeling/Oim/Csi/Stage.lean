import Oim.Csi.Capabilities
import Oim.Csi.LocalDevice

/-!
# Staging a volume

`NodeStageVolume` of both driver versions (`pkg/oim-csi-driver/nodeserver.go`,
`nodeserver0.go`) with the local backend, and `FormatAndMount` (`pkg/mount/mount_linux.go`): make
the staging path, export the volume as a NBD device, format that if needed and mount it.  Each
step may fail, and nothing is undone then.

* `Machine`, `Machine.server` — the host with its directories and file systems, and what the
  driver asks of it.
* `run_createDevice_exported` — `createDevice` never succeeds for a volume that is exported
  already: it finds the device, and then starts it once more.
* `Interrupted` — how far a call that fails has got; `runs_nodeStageVolume` — every such call is
  one of these.
* `stage_retry_iff` — after a call that failed, another one without failures succeeds, and ends
  where a single call would have ended, **unless** the first one got as far as the export.
-/

namespace Oim.Csi

open Interaction
open Spdk (Exports ConstructRBDBDevArgs)

/-! ## The machine -/

/-- What a command comes to. -/
inductive CommandResult where
  | done (output : String)
  | exit (status : ℕ) (output : String)
  /-- The error `ErrExecutableNotFound`. -/
  | notFound
  | failed (err : String)

/-- The text of the error. -/
def CommandResult.text : CommandResult → String
  | .done _ => ""
  | .exit status _ => "exit status " ++ toString status
  | .notFound => "executable file not found in $PATH"
  | .failed err => err

/-- What `IsLikelyNotMountPoint` returns. -/
inductive MountCheck where
  | notExist (err : String)
  | failed (err : String)
  | notMnt (answer : Bool)

/-- An entry of the mount table. -/
structure MountEntry where
  source : String
  target : String
  fstype : String
  options : List String
  deriving DecidableEq

/-- The host with its directories and file systems. -/
structure Machine where
  host : Host
  /-- The directories that exist. -/
  dirs : List String
  /-- The file system on each block device of SPDK. -/
  fileSystem : String → Option String
  /-- What is mounted at the mount points of the host. -/
  table : List MountEntry

namespace Machine

/-- What the driver asks for. -/
inductive Request where
  | host (q : Host.Request)
  | isLikelyNotMountPoint (file : String)
  | mkdirAll (path : String)
  /-- The command `fsck -a`. -/
  | fsck (device : String)
  /-- The command `mount`. -/
  | mount (entry : MountEntry)
  /-- The command `blkid -p -s TYPE -s PTTYPE -o export`. -/
  | blkid (disk : String)
  /-- The command `mkfs.<fstype>`, with its flags and the device. -/
  | mkfs (fstype : String) (flags : List String) (device : String)

def Request.Reply : Request → Type
  | .host q => q.Reply
  | .isLikelyNotMountPoint _ => MountCheck
  | .mkdirAll _ => Except String Unit
  | .fsck _ => CommandResult
  | .mount _ => Except Host.CommandError Unit
  | .blkid _ => CommandResult
  | .mkfs _ _ _ => CommandResult

/-- The file system on a device. -/
def formatOf (m : Machine) (device : String) : Option String :=
  (m.host.exports.on device).bind m.fileSystem

/-- A mount point is told by its device. -/
def execCheck (m : Machine) (file : String) : MountCheck :=
  if file ∈ m.host.mounts then .notMnt false
  else if file ∈ m.dirs then .notMnt true
  else .notExist ("stat " ++ file ++ ": no such file or directory")

/-- Mounting takes a directory and a file system, of the type that was asked for if any. -/
def execMount (m : Machine) (entry : MountEntry) : Except Host.CommandError Unit × Machine :=
  match m.formatOf entry.source with
  | some format =>
    if entry.target ∈ m.dirs ∧ (entry.fstype = "" ∨ entry.fstype = format) then
      (.ok (), { m with
        host := { m.host with mounts := m.host.mounts ++ [entry.target] }
        table := m.table ++ [{ entry with fstype := format }] })
    else (.error ("exit status 32", "mount: wrong fs type or mount point\n"), m)
  | none => (.error ("exit status 32", "mount: bad superblock\n"), m)

/-- A device has to be exported for it to be formatted. -/
def execMkfs (m : Machine) (fstype device : String) : CommandResult × Machine :=
  match m.host.exports.on device with
  | some bdev =>
    (.done "", { m with fileSystem := Function.update m.fileSystem bdev (some fstype) })
  | none => (.exit 1 "mkfs: no such device\n", m)

/-- What each request does when nothing fails. -/
def exec (images : ConstructRBDBDevArgs → Option UInt64) :
    (q : Request) → Machine → q.Reply × Machine
  | .host q, m =>
    let r := Host.exec images q m.host
    (r.1, { m with host := r.2 })
  | .isLikelyNotMountPoint file, m => (m.execCheck file, m)
  | .mkdirAll path, m => (.ok (), { m with dirs := m.dirs ++ [path] })
  | .fsck device, m =>
    (match m.formatOf device with
      | some _ => .done ""
      | none => .exit 8 "fsck: bad magic number in super-block\n", m)
  | .mount entry, m => m.execMount entry
  | .blkid disk, m =>
    (match m.formatOf disk with
      | some format => .done ("DEVNAME=" ++ disk ++ "\nTYPE=" ++ format ++ "\n")
      | none => .exit 2 "", m)
  | .mkfs fstype _ device, m => m.execMkfs fstype device

/-- The answers that stand for a failure without effect. -/
def Fault : (q : Request) → q.Reply → Prop
  | .host q, r => Host.Fault q r
  | .isLikelyNotMountPoint _, r => ∃ err, r = MountCheck.failed err
  | .mkdirAll _, r => ∃ err, r = (Except.error err : Except String Unit)
  | .fsck _, _ => True
  | .mount _, r => ∃ e, r = (Except.error e : Except Host.CommandError Unit)
  | .blkid _, _ => True
  | .mkfs _ _ _, r => ∀ output, r ≠ CommandResult.done output

/-- The machine, on which anything may fail. -/
def server (images : ConstructRBDBDevArgs → Option UInt64) :
    Server Request Request.Reply Machine where
  exec := exec images
  Fault := Fault

end Machine

/-- What the driver does on the machine. -/
abbrev Stager (α : Type) : Type := Prog Machine.Request Machine.Request.Reply α

/-- What it does on the host, as a part of that. -/
def Task.onMachine {α : Type} (p : Task α) : Stager α := p.embed .host fun _ r => r

/-! ## FormatAndMount -/

/-- `makeMountArgs`. -/
def makeMountArgs (entry : MountEntry) : List String :=
  (if entry.fstype ≠ "" then ["-t", entry.fstype] else []) ++
  (if entry.options ≠ [] then ["-o", ",".intercalate entry.options] else []) ++
  (if entry.source ≠ "" then [entry.source] else []) ++ [entry.target]

/-- `addSystemdScope`: the command and its arguments. -/
def addSystemdScope (mountName command : String) (args : List String) : String × List String :=
  ("systemd-run", ["--description=Kubernetes transient mount for " ++ mountName, "--scope", "--",
    command] ++ args)

/-- `Mounter.doMount`, without another mounter, given how the command `mount` has ended. -/
def doMountResult (withSystemd : Bool) (entry : MountEntry) :
    Except Host.CommandError Unit → Except String Unit
  | .ok () => .ok ()
  | .error (err, output) =>
    let command := if withSystemd then addSystemdScope entry.target "mount" (makeMountArgs entry)
      else ("mount", makeMountArgs entry)
    .error ("mount failed: " ++ err ++ "\nMounting command: " ++ command.1 ++
      "\nMounting arguments: " ++ " ".intercalate command.2 ++ "\nOutput: " ++ output ++ "\n")

/-- `Mounter.Mount` on the machine.  Staging does not use the option `bind`. -/
def mountDevice (withSystemd : Bool) (entry : MountEntry) : Stager (Except String Unit) :=
  .call (.mount entry) fun result => .ret (doMountResult withSystemd entry result)

/-- The loop of `GetDiskFormat`, for one line: the type of the file system and the type of the
partition table. -/
def blkidLine (output : String) (types : String × String) (line : List Char) :
    Except String (String × String) :=
  if line = [] then .ok types
  else match line.splitOn '=' with
    | [key, value] =>
      if key = "TYPE".toList then .ok (String.ofList value, types.2)
      else if key = "PTTYPE".toList then .ok (types.1, String.ofList value)
      else .ok types
    | _ => .error ("blkid returns invalid output: " ++ output)

/-- `GetDiskFormat`. -/
def getDiskFormat (disk : String) : Stager (Except String String) :=
  .call (.blkid disk) fun
    | .done output =>
      match (output.toList.splitOn '\n').foldlM (blkidLine output) ("", "") with
      | .error err => .ret (.error err)
      | .ok (fstype, pttype) =>
        if pttype ≠ "" then .ret (.ok "unknown data, probably partitions") else .ret (.ok fstype)
    -- nothing was found on the device
    | .exit 2 _ => .ret (.ok "")
    | result => .ret (.error result.text)

/-- The flags of `mkfs`. -/
def mkfsFlags (fstype : String) : List String :=
  if fstype = "ext4" ∨ fstype = "ext3" then ["-F", "-m0"] else []

/-- `formatAndMount`, for a device that seems to be unformatted. -/
def formatDevice (withSystemd : Bool) (entry : MountEntry) : Stager (Except String Unit) :=
  let fstype := if entry.fstype = "" then "ext4" else entry.fstype
  .call (.mkfs fstype (mkfsFlags fstype) entry.source) fun
    | .done _ => mountDevice withSystemd { entry with fstype := fstype }
    | result => .ret (.error result.text)

/-- `formatAndMount`, once the device is checked. -/
def mountOrFormat (withSystemd readOnly : Bool) (entry : MountEntry) :
    Stager (Except String Unit) := do
  match ← mountDevice withSystemd entry with
  | .ok () => return .ok ()
  | .error mountErr =>
    match ← getDiskFormat entry.source with
    | .error err => return .error err
    | .ok existingFormat =>
      if existingFormat = "" then
        if readOnly then return .error "failed to mount unformatted volume as read only"
        else formatDevice withSystemd entry
      else if entry.fstype = "" ∨ entry.fstype = existingFormat then return .error mountErr
      else return .error ("failed to mount the volume as " ++ quote entry.fstype ++
        ", it already contains " ++ existingFormat ++ ". Mount error: " ++ mountErr)

/-- `FormatAndMount`.  Of the exit codes of `fsck` only 4 counts: there are errors that it could
not correct. -/
def formatAndMount (withSystemd : Bool) (source target fstype : String) (options : List String) :
    Stager (Except String Unit) :=
  let readOnly := options.contains "ro"
  let entry : MountEntry := ⟨source, target, fstype, options ++ ["defaults"]⟩
  if readOnly then mountOrFormat withSystemd readOnly entry
  else .call (.fsck source) fun
    | .exit 4 output => .ret (.error ("'fsck' found errors but could not correct them: device " ++
        source ++ ", output " ++ output))
    | _ => mountOrFormat withSystemd readOnly entry

/-! ## NodeStageVolume -/

/-- `NodeStageVolume`, once there is a staging path where nothing is mounted. -/
def mountVolume (withSystemd : Bool) (connectErr : Option String) (limit : ℕ)
    (volumeID targetPath fsType : String) : Stager (Except Status Unit) := do
  match ← (Local.createDevice connectErr limit volumeID).onMachine with
  | .error err => return .error ⟨.internal, err⟩
  | .ok device =>
    match ← formatAndMount withSystemd device targetPath fsType [] with
    | .error err => return .error ⟨.internal, "formatting as " ++ fsType ++ " and mounting " ++
        device ++ " at " ++ targetPath ++ ": " ++ err⟩
    | .ok () => return .ok ()

/-- What `NodeStageVolume` asks for. -/
structure StageRequest where
  volumeID : String
  targetPath : String
  volumeCapability : Option Capability

/-- The checks of `NodeStageVolume`. -/
def StageRequest.check (req : StageRequest) : Option Status :=
  if req.targetPath = "" then some ⟨.invalidArgument, "empty target path"⟩
  else if req.volumeID = "" then some ⟨.invalidArgument, "empty volume ID"⟩
  else if req.volumeCapability = none then some ⟨.invalidArgument, "missing volume capability"⟩
  else none

/-- The file system that is asked for, if any. -/
def StageRequest.fsType (req : StageRequest) : String :=
  ((req.volumeCapability.bind Capability.mount).map MountVolume.fsType).getD ""

/-- `oimDriver.NodeStageVolume` and `oimDriver03.NodeStageVolume`, with the local backend; the
second one only logs more. -/
def Driver.nodeStageVolume (_ : Driver) (withSystemd : Bool) (connectErr : Option String)
    (limit : ℕ) (req : StageRequest) : Stager (Except Status Unit) :=
  match req.check with
  | some e => .ret (.error e)
  | none =>
    let mountVolume := mountVolume withSystemd connectErr limit req.volumeID req.targetPath
      req.fsType
    .call (.isLikelyNotMountPoint req.targetPath) fun
      | .notExist _ => .call (.mkdirAll req.targetPath) fun
        | .error err => .ret (.error ⟨.internal, err⟩)
        | .ok () => mountVolume
      | .failed err => .ret (.error ⟨.internal, err⟩)
      | .notMnt true => mountVolume
      -- "Already mounted, nothing to do."
      | .notMnt false => .ret (.ok ())

/-! ## What the parts do -/

section Parts

variable {images : ConstructRBDBDevArgs → Option UInt64} {m m' : Machine}

/-- What is done on the host leaves the rest of the machine alone. -/
theorem run_onMachine {α : Type} (p : Task α) (m : Machine) :
    p.onMachine.run (Machine.server images) m = ((p.run (Host.server images) m.host).1,
      { m with host := (p.run (Host.server images) m.host).2 }) := by
  induction p generalizing m with
  | ret a => rfl
  | call q k ih => exact ih _ _

theorem runs_onMachine {α : Type} {p : Task α} {a : α}
    (h : Prog.Runs (Machine.server images) p.onMachine m a m') :
    ∃ host, Prog.Runs (Host.server images) p m.host a host ∧ m' = { m with host := host } := by
  induction p generalizing m with
  | ret b =>
    obtain ⟨rfl, rfl⟩ := Prog.runs_ret_iff.1 h
    exact ⟨m'.host, .ret _ _, rfl⟩
  | call q k ih =>
    obtain ⟨r, m₁, hstep, hrest⟩ := Prog.runs_call_iff.1 h
    have hhost : (Host.server images).Step q m.host r m₁.host ∧
        m₁ = { m with host := m₁.host } := by
      rcases hstep with ⟨hr, rfl⟩ | ⟨hfault, rfl⟩
      · exact ⟨Or.inl ⟨hr, rfl⟩, rfl⟩
      · exact ⟨Or.inr ⟨hfault, rfl⟩, rfl⟩
    obtain ⟨host, hruns, hm'⟩ := ih r hrest
    rw [hhost.2] at hm'
    exact ⟨host, .call hhost.1 hruns, hm'⟩

/-! ### createDevice -/

/-- Some node exports the volume. -/
def Exported (v : String) (h : Host) : Prop := ∃ node, h.exports.on node = some v

variable (images) in
theorem run_startDevice_error {v node e : String} {h : Host}
    (hstart : Spdk.execStart h.spdk h.exports ⟨v, node⟩ = (.error e, h.exports)) :
    ∃ e', (Local.startDevice v node).run (Host.server images) h = (.error e', h) := by
  have hexec : Host.exec images (.nbd (.startNBDDisk ⟨v, node⟩)) h =
      ((Except.error e : Except String Unit), h) := by
    simp only [Host.exec, Spdk.execNbd, hstart]
    rfl
  unfold Local.startDevice Task.startNBDDisk
  simp only [Prog.bind_eq, Prog.call_bind, Prog.run_call, Host.server]
  generalize Host.exec images (.nbd (.startNBDDisk ⟨v, node⟩)) h = x at hexec ⊢
  subst hexec
  exact ⟨_, rfl⟩

variable (images) in
/-- **A device that is there is never taken.**  It is found, and starting it again fails. -/
theorem run_createDevice_exported {v : String} {h : Host} (hon : Exported v h) (limit : ℕ) :
    ∃ e, (Local.createDevice none limit v).run (Host.server images) h = (.error e, h) := by
  obtain ⟨node, hnode⟩ := hon
  have hfound : h.exports.on (Local.nbdDeviceOf h.exports.disks v) = some v :=
    (Local.found_nbdDeviceOf v h).resolve_right fun hun => hun.2 node hnode
  have hne : Local.nbdDeviceOf h.exports.disks v ≠ "" := by
    intro hempty
    rw [hempty, Exports.on_unnamed] at hfound
    exact nomatch hfound
  rcases Spdk.execStart_cases h.spdk h.exports ⟨v, Local.nbdDeviceOf h.exports.disks v⟩ with
    ⟨-, hfree, -⟩ | ⟨e, hstart⟩
  · rw [hfound] at hfree
    exact nomatch hfree
  · obtain ⟨e', hrun⟩ := run_startDevice_error images hstart
    refine ⟨e', ?_⟩
    show Prog.run _ (if Local.nbdDeviceOf h.exports.disks v ≠ "" then _ else _) h = _
    rw [if_pos hne]
    exact hrun

/-- The requests of `createDevice`. -/
def Creates (v : String) : Host.Request → Prop
  | .nbd .getNBDDisks => True
  | .nbd (.startNBDDisk args) => args.bdevName = v
  | .probe _ => True
  | .deliver _ => True
  | _ => False

theorem only_startDevice (v node : String) : (Local.startDevice v node).Only (Creates v) := by
  refine ⟨rfl, fun r => ⟨trivial, fun r' => ?_⟩⟩
  cases r' <;> trivial

theorem only_findUnused (v : String) (limit i : ℕ) (nbdError : Option String) :
    (Local.findUnused limit i nbdError).Only (Creates v) := by
  induction limit generalizing i nbdError with
  | zero => trivial
  | succ limit ih =>
    refine ⟨trivial, fun r => ?_⟩
    cases r with
    | notExist err => trivial
    | failed err => exact ih _ _
    | size bytes =>
      cases bytes with
      | zero => trivial
      | succ n => exact ih _ _

theorem only_createDevice (connectErr : Option String) (limit : ℕ) (v : String) :
    (Local.createDevice connectErr limit v).Only (Creates v) := by
  cases connectErr with
  | some err => trivial
  | none =>
    refine ⟨trivial, fun r => ?_⟩
    cases r with
    | error err => trivial
    | ok disks =>
      show Prog.Only _ (if Local.nbdDeviceOf disks v ≠ "" then _ else _)
      split_ifs
      · exact only_startDevice v _
      · refine Prog.only_bind (only_findUnused v limit 0 none) fun r => ?_
        cases r with
        | error err => trivial
        | ok node => exact only_startDevice v node

/-- Wherever `createDevice` fails, it has exported the volume or changed nothing. -/
theorem runs_createDevice {connectErr : Option String} {limit : ℕ} {v : String} {h h' : Host}
    {r : Except String String}
    (hrun : Prog.Runs (Host.server images) (Local.createDevice connectErr limit v) h r h') :
    (h' = h ∨ Exported v h' ∧ h'.mounts = h.mounts) ∧
      (∀ device, r = .ok device → Exported v h') := by
  refine ⟨?_, fun device hr => ?_⟩
  · refine Prog.Runs.keeps (P := fun h' => h' = h ∨ Exported v h' ∧ h'.mounts = h.mounts) ?_
      (only_createDevice connectErr limit v) hrun (Or.inl rfl)
    intro q h₁ r h₂ hq hstep hP
    have hmounts : h₁.mounts = h.mounts := hP.elim (fun heq => by rw [heq]) And.right
    cases q with
    | probe node => rwa [Host.step_probe hstep]
    | deliver reply => rwa [(Host.step_deliver hstep).1]
    | umount target => exact hq.elim
    | spdk q => exact hq.elim
    | nbd q =>
      cases q with
      | getNBDDisks => rwa [(Host.step_getNBDDisks hstep).1]
      | stopNBDDisk args => exact hq.elim
      | startNBDDisk args =>
        obtain rfl : args.bdevName = v := hq
        rcases Host.step_startNBDDisk hstep with ⟨-, hne, hfree, rfl⟩ | ⟨-, rfl⟩
        · have hon : (h₁.exports.start args hne hfree).on args.nbdDevice = some args.bdevName :=
            Exports.on_start.2 (Or.inr ⟨rfl, rfl⟩)
          exact Or.inr ⟨⟨args.nbdDevice, hon⟩, hmounts⟩
        · exact hP
  · have hpost := ((Local.safe_createDevice connectErr limit).runs (Local.Keeps.refl v) hrun).2
    rw [hr] at hpost
    exact ⟨device, hpost⟩

/-! ### FormatAndMount -/

/-- The exports are the same, and so are the mounts in case of an error. -/
def Settled (m m' : Machine) (r : Except String Unit) : Prop :=
  m'.host.exports = m.host.exports ∧ ∀ e, r = .error e → m'.host.mounts = m.host.mounts

theorem settled_ret {e : String} {r : Except String Unit}
    (h : Prog.Runs (Machine.server images) (.ret (.error e)) m r m') : Settled m m' r := by
  obtain ⟨-, rfl⟩ := Prog.runs_ret_iff.1 h
  exact ⟨rfl, fun _ _ => rfl⟩

theorem step_fsck {device : String} {r : CommandResult}
    (h : (Machine.server images).Step (.fsck device) m r m') : m' = m := by
  rcases h with ⟨-, rfl⟩ | ⟨-, rfl⟩ <;> rfl

theorem step_blkid {disk : String} {r : CommandResult}
    (h : (Machine.server images).Step (.blkid disk) m r m') : m' = m := by
  rcases h with ⟨-, rfl⟩ | ⟨-, rfl⟩ <;> rfl

theorem step_mkfs {fstype device : String} {flags : List String} {r : CommandResult}
    (h : (Machine.server images).Step (.mkfs fstype flags device) m r m') : m'.host = m.host := by
  rcases h with ⟨-, rfl⟩ | ⟨-, rfl⟩
  · simp only [Machine.server, Machine.exec, Machine.execMkfs]
    split <;> rfl
  · rfl

theorem step_mount {entry : MountEntry} {r : Except Host.CommandError Unit}
    (h : (Machine.server images).Step (.mount entry) m r m') :
    m'.host.exports = m.host.exports ∧ ∀ e, r = .error e → m' = m := by
  rcases h with ⟨rfl, rfl⟩ | ⟨-, rfl⟩
  · simp only [Machine.server, Machine.exec, Machine.execMount]
    split
    · split_ifs
      · exact ⟨rfl, fun e he => absurd he (by simp)⟩
      · exact ⟨rfl, fun _ _ => rfl⟩
    · exact ⟨rfl, fun _ _ => rfl⟩
  · exact ⟨rfl, fun _ _ => rfl⟩

theorem runs_mountDevice {withSystemd : Bool} {entry : MountEntry} {r : Except String Unit}
    (h : Prog.Runs (Machine.server images) (mountDevice withSystemd entry) m r m') :
    m'.host.exports = m.host.exports ∧ ∀ e, r = .error e → m' = m := by
  obtain ⟨reply, m₁, hstep, hrest⟩ := Prog.runs_call_iff.1 h
  obtain ⟨hexports, herror⟩ := step_mount hstep
  cases reply with
  | ok u =>
    obtain ⟨rfl, rfl⟩ := Prog.runs_ret_iff.1 hrest
    exact ⟨hexports, fun e he => absurd he (by simp [doMountResult])⟩
  | error e =>
    obtain ⟨-, rfl⟩ := Prog.runs_ret_iff.1 hrest
    exact ⟨hexports, fun _ _ => herror e rfl⟩

theorem runs_getDiskFormat {disk : String} {r : Except String String}
    (h : Prog.Runs (Machine.server images) (getDiskFormat disk) m r m') : m' = m := by
  obtain ⟨reply, m₁, hstep, hrest⟩ := Prog.runs_call_iff.1 h
  obtain rfl := step_blkid hstep
  split at hrest
  · split at hrest
    · exact (Prog.runs_ret_iff.1 hrest).2
    · split_ifs at hrest <;> exact (Prog.runs_ret_iff.1 hrest).2
  · exact (Prog.runs_ret_iff.1 hrest).2
  · exact (Prog.runs_ret_iff.1 hrest).2

theorem runs_formatDevice {withSystemd : Bool} {entry : MountEntry} {r : Except String Unit}
    (h : Prog.Runs (Machine.server images) (formatDevice withSystemd entry) m r m') :
    Settled m m' r := by
  obtain ⟨reply, m₁, hstep, hrest⟩ := Prog.runs_call_iff.1 h
  -- `mkfs` leaves the host as it was
  have hsettled : Settled m₁ m' r := by
    split at hrest
    · obtain ⟨hexports, herror⟩ := runs_mountDevice hrest
      exact ⟨hexports, fun e he => by rw [herror e he]⟩
    · exact settled_ret hrest
  rwa [Settled, step_mkfs hstep] at hsettled

theorem runs_mountOrFormat {withSystemd readOnly : Bool} {entry : MountEntry}
    {r : Except String Unit}
    (h : Prog.Runs (Machine.server images) (mountOrFormat withSystemd readOnly entry) m r m') :
    Settled m m' r := by
  obtain ⟨r₁, m₁, hmount, hrest⟩ := Prog.runs_bind_iff.1 h
  obtain ⟨hexports, herror⟩ := runs_mountDevice hmount
  cases r₁ with
  | ok u =>
    obtain ⟨rfl, rfl⟩ := Prog.runs_ret_iff.1 hrest
    exact ⟨hexports, fun e he => absurd he (by simp)⟩
  | error e =>
    obtain rfl := herror e rfl
    obtain ⟨r₂, m₂, hformat, hrest⟩ := Prog.runs_bind_iff.1 hrest
    obtain rfl := runs_getDiskFormat hformat
    cases r₂ with
    | error e => exact settled_ret hrest
    | ok existingFormat =>
      simp only at hrest
      split_ifs at hrest
      · exact settled_ret hrest
      · exact runs_formatDevice hrest
      · exact settled_ret hrest
      · exact settled_ret hrest

/-- Formatting and mounting leaves the exports alone, and mounts nothing if it fails. -/
theorem runs_formatAndMount {withSystemd : Bool} {source target fstype : String}
    {options : List String} {r : Except String Unit}
    (h : Prog.Runs (Machine.server images)
      (formatAndMount withSystemd source target fstype options) m r m') : Settled m m' r := by
  unfold formatAndMount at h
  simp only at h
  split_ifs at h
  · exact runs_mountOrFormat h
  · obtain ⟨reply, m₁, hstep, hrest⟩ := Prog.runs_call_iff.1 h
    obtain rfl := step_fsck hstep
    split at hrest
    · exact settled_ret hrest
    · exact runs_mountOrFormat hrest

/-! ### NodeStageVolume -/

theorem runs_mountVolume_error {withSystemd : Bool} {connectErr : Option String} {limit : ℕ}
    {v p fsType : String} {e : Status}
    (h : Prog.Runs (Machine.server images) (mountVolume withSystemd connectErr limit v p fsType) m
      (.error e) m') :
    m' = m ∨ Exported v m'.host ∧ m'.host.mounts = m.host.mounts := by
  obtain ⟨r₁, m₁, hcreate, hrest⟩ := Prog.runs_bind_iff.1 h
  obtain ⟨host, hruns, rfl⟩ := runs_onMachine hcreate
  obtain ⟨hcreated, hok⟩ := runs_createDevice hruns
  cases r₁ with
  | error err =>
    obtain ⟨-, rfl⟩ := Prog.runs_ret_iff.1 hrest
    exact hcreated.imp_left fun hsame => by rw [hsame]
  | ok device =>
    obtain ⟨r₂, m₂, hformat, hrest⟩ := Prog.runs_bind_iff.1 hrest
    obtain ⟨hexports, hmounts⟩ := runs_formatAndMount hformat
    have hhost : host.mounts = m.host.mounts := hcreated.elim (fun hsame => by rw [hsame]) And.right
    cases r₂ with
    | ok u => exact absurd (Prog.runs_ret_iff.1 hrest).1 (by simp)
    | error err =>
      obtain ⟨-, rfl⟩ := Prog.runs_ret_iff.1 hrest
      refine Or.inr ⟨?_, (hmounts err rfl).trans hhost⟩
      rw [Exported, hexports]
      exact hok device rfl

/-- How far a call that failed has got: it has done nothing, it has made the staging path, or it
has exported the volume without mounting it. -/
inductive Interrupted (req : StageRequest) (m : Machine) : Machine → Prop where
  | early : Interrupted req m m
  | madeDir (hcheck : req.check = none) (hmounts : req.targetPath ∉ m.host.mounts)
      (hdirs : req.targetPath ∉ m.dirs) :
      Interrupted req m { m with dirs := m.dirs ++ [req.targetPath] }
  | exported {m₁ : Machine} (hon : Exported req.volumeID m₁.host)
      (hmounts : req.targetPath ∉ m₁.host.mounts) : Interrupted req m m₁

theorem step_isLikelyNotMountPoint {file : String} {r : MountCheck}
    (h : (Machine.server images).Step (.isLikelyNotMountPoint file) m r m') :
    m' = m ∧ (r = m.execCheck file ∨ ∃ err, r = .failed err) := by
  rcases h with ⟨rfl, rfl⟩ | ⟨hfault, rfl⟩
  · exact ⟨rfl, Or.inl rfl⟩
  · exact ⟨rfl, Or.inr hfault⟩

theorem step_mkdirAll {path : String} {r : Except String Unit}
    (h : (Machine.server images).Step (.mkdirAll path) m r m') :
    r = .ok () ∧ m' = { m with dirs := m.dirs ++ [path] } ∨ (∃ err, r = .error err) ∧ m' = m := by
  rcases h with ⟨rfl, rfl⟩ | ⟨hfault, rfl⟩
  · exact Or.inl ⟨rfl, rfl⟩
  · exact Or.inr ⟨hfault, rfl⟩

theorem execCheck_mounted {p : String} (h : p ∈ m.host.mounts) : m.execCheck p = .notMnt false :=
  if_pos h

theorem execCheck_dir {p : String} (h : p ∉ m.host.mounts) (hdir : p ∈ m.dirs) :
    m.execCheck p = .notMnt true := by
  rw [Machine.execCheck, if_neg h, if_pos hdir]

theorem execCheck_missing {p : String} (h : p ∉ m.host.mounts) (hdir : p ∉ m.dirs) :
    ∃ err, m.execCheck p = .notExist err := by
  rw [Machine.execCheck, if_neg h, if_neg hdir]
  exact ⟨_, rfl⟩

theorem interrupted_of_mountVolume {withSystemd : Bool} {connectErr : Option String} {limit : ℕ}
    {v p fsType : String} {e : Status} (hmounts : p ∉ m.host.mounts)
    (h : Prog.Runs (Machine.server images) (mountVolume withSystemd connectErr limit v p fsType) m
      (.error e) m') :
    m' = m ∨ Exported v m'.host ∧ p ∉ m'.host.mounts :=
  (runs_mountVolume_error h).imp_right fun hx => ⟨hx.1, by rw [hx.2]; exact hmounts⟩

/-- **Where a call can fail.** -/
theorem runs_nodeStageVolume {driver : Driver} {withSystemd : Bool} {connectErr : Option String}
    {limit : ℕ} {req : StageRequest} {e : Status}
    (h : Prog.Runs (Machine.server images)
      (driver.nodeStageVolume withSystemd connectErr limit req) m (.error e) m') :
    Interrupted req m m' := by
  unfold Driver.nodeStageVolume at h
  split at h
  · obtain ⟨-, rfl⟩ := Prog.runs_ret_iff.1 h
    exact .early
  · rename_i hcheck
    obtain ⟨reply, m₁, hstep, hrest⟩ := Prog.runs_call_iff.1 h
    obtain ⟨rfl, hreply⟩ := step_isLikelyNotMountPoint hstep
    rcases hreply with rfl | ⟨err, rfl⟩
    · by_cases hmounts : req.targetPath ∈ m₁.host.mounts
      · rw [execCheck_mounted hmounts] at hrest
        exact absurd (Prog.runs_ret_iff.1 hrest).1 (by simp)
      · by_cases hdirs : req.targetPath ∈ m₁.dirs
        · rw [execCheck_dir hmounts hdirs] at hrest
          rcases interrupted_of_mountVolume hmounts hrest with rfl | ⟨hon, hnot⟩
          · exact .early
          · exact .exported hon hnot
        · obtain ⟨err, herr⟩ := execCheck_missing hmounts hdirs
          rw [herr] at hrest
          obtain ⟨r, m₂, hmkdir, hmount⟩ := Prog.runs_call_iff.1 hrest
          rcases step_mkdirAll hmkdir with ⟨rfl, rfl⟩ | ⟨⟨err, rfl⟩, rfl⟩
          · rcases interrupted_of_mountVolume (m := { m₁ with dirs := m₁.dirs ++ [req.targetPath] })
              hmounts hmount with rfl | ⟨hon, hnot⟩
            · exact .madeDir hcheck hmounts hdirs
            · exact .exported hon hnot
          · obtain ⟨-, rfl⟩ := Prog.runs_ret_iff.1 hmount
            exact .early
    · obtain ⟨-, rfl⟩ := Prog.runs_ret_iff.1 hrest
      exact .early

end Parts

/-! ## A second call -/

section Retry

variable {images : ConstructRBDBDevArgs → Option UInt64} {m : Machine} (driver : Driver)
  (withSystemd : Bool) (limit : ℕ) {req : StageRequest}

/-- Without failures the staging path is made if it is missing, and then the volume is mounted. -/
theorem run_nodeStageVolume_dir (hcheck : req.check = none)
    (hmounts : req.targetPath ∉ m.host.mounts) (hdirs : req.targetPath ∈ m.dirs) :
    (driver.nodeStageVolume withSystemd none limit req).run (Machine.server images) m =
      (mountVolume withSystemd none limit req.volumeID req.targetPath req.fsType).run
        (Machine.server images) m := by
  simp only [Driver.nodeStageVolume, hcheck, Prog.run_call, Machine.server, Machine.exec]
  rw [execCheck_dir hmounts hdirs]

theorem run_nodeStageVolume_missing (hcheck : req.check = none)
    (hmounts : req.targetPath ∉ m.host.mounts) (hdirs : req.targetPath ∉ m.dirs) :
    (driver.nodeStageVolume withSystemd none limit req).run (Machine.server images) m =
      (mountVolume withSystemd none limit req.volumeID req.targetPath req.fsType).run
        (Machine.server images) { m with dirs := m.dirs ++ [req.targetPath] } := by
  obtain ⟨err, herr⟩ := execCheck_missing hmounts hdirs
  simp only [Driver.nodeStageVolume, hcheck, Prog.run_call, Machine.server, Machine.exec]
  rw [herr]
  rfl

/-- A staging path that is there already makes no difference. -/
theorem run_nodeStageVolume_madeDir (hcheck : req.check = none)
    (hmounts : req.targetPath ∉ m.host.mounts) (hdirs : req.targetPath ∉ m.dirs) :
    (driver.nodeStageVolume withSystemd none limit req).run (Machine.server images)
      { m with dirs := m.dirs ++ [req.targetPath] } =
    (driver.nodeStageVolume withSystemd none limit req).run (Machine.server images) m := by
  rw [run_nodeStageVolume_missing driver withSystemd limit hcheck hmounts hdirs]
  exact run_nodeStageVolume_dir driver withSystemd limit hcheck hmounts (by simp)

variable (images) in
theorem run_mountVolume_exported {v : String} (hon : Exported v m.host) (p fsType : String) :
    ∃ e, (mountVolume withSystemd none limit v p fsType).run (Machine.server images) m =
      (.error e, m) := by
  obtain ⟨err, herr⟩ := run_createDevice_exported images hon limit
  refine ⟨⟨.internal, err⟩, ?_⟩
  rw [mountVolume, Prog.bind_eq, Prog.run_bind, run_onMachine, herr]
  rfl

variable (images) in
/-- Once the volume is exported and not mounted, staging fails until somebody ends the export. -/
theorem run_nodeStageVolume_exported (hon : Exported req.volumeID m.host)
    (hmounts : req.targetPath ∉ m.host.mounts) :
    ∃ e, ((driver.nodeStageVolume withSystemd none limit req).run (Machine.server images) m).1 =
      .error e := by
  cases hcheck : req.check with
  | some e =>
    refine ⟨e, ?_⟩
    simp only [Driver.nodeStageVolume, hcheck]
    rfl
  | none =>
    by_cases hdirs : req.targetPath ∈ m.dirs
    · rw [run_nodeStageVolume_dir driver withSystemd limit hcheck hmounts hdirs]
      obtain ⟨e, hrun⟩ := run_mountVolume_exported images withSystemd limit hon req.targetPath
        req.fsType
      exact ⟨e, by rw [hrun]⟩
    · rw [run_nodeStageVolume_missing driver withSystemd limit hcheck hmounts hdirs]
      obtain ⟨e, hrun⟩ := run_mountVolume_exported images
        (m := { m with dirs := m.dirs ++ [req.targetPath] }) withSystemd limit hon
        req.targetPath req.fsType
      exact ⟨e, by rw [hrun]⟩

end Retry

/-- **Staging again.**  `createDevice` fails wherever the volume is exported already, instead of
returning the device.  So after a call that failed, another one in which nothing fails can only
succeed and end as a single call would have ended if that one succeeds; and if it does, the second
one does so just if the first call did not get as far as the export. -/
theorem stage_retry_iff (images : ConstructRBDBDevArgs → Option UInt64) (driver : Driver)
    (withSystemd : Bool) (connectErr : Option String) (limit : ℕ) (req : StageRequest)
    (m m₁ : Machine) (e : Status)
    (hfirst : Prog.Runs (Machine.server images)
      (driver.nodeStageVolume withSystemd connectErr limit req) m (.error e) m₁) :
    (∀ (host : Host) (v d : String), host.exports.on d = some v →
      ∃ err, (Local.createDevice none limit v).run (Host.server images) host =
        (.error err, host)) ∧
    ((driver.nodeStageVolume withSystemd none limit req).run (Machine.server images) m₁ =
        (.ok (), ((driver.nodeStageVolume withSystemd none limit req).run
          (Machine.server images) m).2) →
      ((driver.nodeStageVolume withSystemd none limit req).run (Machine.server images) m).1 =
        .ok ()) ∧
    (((driver.nodeStageVolume withSystemd none limit req).run (Machine.server images) m).1 =
        .ok () →
      ((driver.nodeStageVolume withSystemd none limit req).run (Machine.server images) m₁ =
          (.ok (), ((driver.nodeStageVolume withSystemd none limit req).run
            (Machine.server images) m).2) ↔
        ¬ (Exported req.volumeID m₁.host ∧ req.targetPath ∉ m₁.host.mounts))) := by
  refine ⟨fun host v d hon => run_createDevice_exported images ⟨d, hon⟩ limit, ?_⟩
  -- a run that succeeds did not start from an export that is not mounted
  have hnot : ∀ {m₂ : Machine}, ((driver.nodeStageVolume withSystemd none limit req).run
      (Machine.server images) m₂).1 = .ok () →
      ¬ (Exported req.volumeID m₂.host ∧ req.targetPath ∉ m₂.host.mounts) := by
    rintro m₂ hok ⟨hon, hmounts⟩
    obtain ⟨err, herr⟩ := run_nodeStageVolume_exported images driver withSystemd limit hon hmounts
    rw [hok] at herr
    exact nomatch herr
  refine ⟨fun hretry => ?_, fun hok => ⟨fun hretry => hnot (by rw [hretry]), fun hunexported => ?_⟩⟩
  · cases runs_nodeStageVolume hfirst with
    | early => rw [hretry]
    | madeDir hcheck hmounts hdirs =>
      rw [← run_nodeStageVolume_madeDir driver withSystemd limit hcheck hmounts hdirs, hretry]
    | exported hon hmounts => exact absurd ⟨hon, hmounts⟩ (hnot (by rw [hretry]))
  · cases runs_nodeStageVolume hfirst with
    | early => rw [← hok]
    | madeDir hcheck hmounts hdirs =>
      rw [run_nodeStageVolume_madeDir driver withSystemd limit hcheck hmounts hdirs, ← hok]
    | exported hon hmounts => exact absurd ⟨hon, hmounts⟩ hunexported

/-- A machine with a volume that has no file system yet. -/
def blank : Machine where
  host := Local.oneNode
  dirs := []
  fileSystem _ := none
  table := []

/-- A request for it. -/
def stageVol : StageRequest where
  volumeID := "vol"
  targetPath := "/staging"
  volumeCapability := some ⟨⟨false, .singleNodeWriter⟩, none, nofun⟩

/-- What staging it does if nothing fails. -/
def staged (m : Machine) : Except Status Unit × Machine :=
  (Driver.oimDriver.nodeStageVolume false none 1 stageVol).run (Machine.server fun _ => none) m

theorem staged_blank : (staged blank).1 = .ok () := by decide +kernel

/-- The first call does not reach SPDK, so the second one makes up for it. -/
theorem stage_retry_unconnected :
    staged { blank with dirs := ["/staging"] } = (.ok (), (staged blank).2) := by
  have hfirst := Prog.runs_run (Machine.server fun _ => none)
    (Driver.oimDriver.nodeStageVolume false (some "connection refused") 1 stageVol) blank
  refine (stage_retry_iff _ _ _ _ _ _ _ _ ⟨.internal, "connect to SPDK: connection refused"⟩
    hfirst).2.2 staged_blank |>.2 ?_
  rintro ⟨⟨node, hon⟩, -⟩
  exact nomatch hon

/-- The same machine with the volume exported. -/
def halfStaged : Machine where
  host := ((Local.createDevice none 1 "vol").run (Host.server fun _ => none) Local.oneNode).2
  dirs := ["/staging"]
  fileSystem _ := none
  table := []

theorem on_halfStaged : halfStaged.host.exports.on "/dev/nbd0" = some "vol" := rfl

/-- After the export, `fsck` finds errors. -/
theorem runs_halfStaged : ∃ e, Prog.Runs (Machine.server fun _ => none)
    (Driver.oimDriver.nodeStageVolume false none 1 stageVol) blank (.error e) halfStaged := by
  apply Exists.intro
  refine .call (q := Machine.Request.isLikelyNotMountPoint "/staging") (Or.inl ⟨rfl, rfl⟩) ?_
  refine .call (q := Machine.Request.mkdirAll "/staging") (Or.inl ⟨rfl, rfl⟩) ?_
  refine Prog.runs_bind_iff.2 ⟨.ok "/dev/nbd0", halfStaged, Prog.runs_run _ _ _, ?_⟩
  exact Prog.runs_bind_iff.2 ⟨_, _, .call (q := Machine.Request.fsck "/dev/nbd0")
    (r := CommandResult.exit 4 "") (Or.inr ⟨trivial, rfl⟩) (.ret _ _), .ret _ _⟩

/-- **Staging stays broken.**  The first call fails after the export.  A single call would have
formatted and mounted the volume; another one does not even get a device. -/
theorem stage_retry_fails :
    (∃ e, Prog.Runs (Machine.server fun _ => none)
      (Driver.oimDriver.nodeStageVolume false none 1 stageVol) blank (.error e) halfStaged) ∧
    (staged blank).1 = .ok () ∧
    (∃ err, (Local.createDevice none 1 "vol").run (Host.server fun _ => none) halfStaged.host =
      (.error err, halfStaged.host)) ∧
    ∃ e, staged halfStaged = (.error e, halfStaged) := by
  have hon : Exported "vol" halfStaged.host := ⟨_, on_halfStaged⟩
  refine ⟨runs_halfStaged, staged_blank, run_createDevice_exported _ hon 1, ?_⟩
  have hdir : staged halfStaged = _ := run_nodeStageVolume_dir Driver.oimDriver false 1 rfl
    (by decide +kernel) (by decide)
  rw [hdir]
  exact run_mountVolume_exported _ false 1 hon _ _

end Oim.Csi
