import Oim.Lib.Guarded
import Oim.Csi.Unpublish
import Oim.Csi.Unstage

/-!
# The host of a CSI driver, as a whole

`pkg/oim-csi-driver` works on three things at once when its backend is the local one: SPDK with its
block devices and NBD exports, the file systems on these, and the directories and mounts of the
host.  `Csi.Machine` and `Csi.FileSystem` are the parts of it that single calls need; here they
are one state, so that calls of all kinds can run on it side by side.

* `State`, `server` — the host, and what the driver asks of it.  Anything may fail; a check
  may fail as well but does not lie, and `blkid` is trusted not to miss a file system.
* `onFiles`, `onHost`, `onMachine`, `onSpdk` — the programs of the parts, run here.
* `step_elsewhere`, `step_files`, `step_nbd`, … — what each request can do.
-/

namespace Oim.Node

open Interaction
open Csi (FileSystem Mounted MountEntry CommandResult MountCheck OsError Probe Machine)
open Spdk (Exports NbdRpc StartNBDDiskArgs StopNBDDiskArgs ConstructRBDBDevArgs)

/-! ## The state -/

/-- The device numbers of the block devices: different nodes have different numbers. -/
structure Numbering where
  number : String → ℕ
  injective : Function.Injective number

/-- A type of file systems, which is the name of a command `mkfs.<type>` and of a module of the
kernel. -/
def IsType (fstype : String) : Prop := fstype ≠ "" ∧ '=' ∉ fstype.toList ∧ '\n' ∉ fstype.toList

instance (fstype : String) : Decidable (IsType fstype) := by unfold IsType; infer_instance

/-- The host, with its SPDK. -/
structure State (dev : Numbering) where
  /-- How many nodes `/dev/nbd*` there are. -/
  nodes : ℕ
  exports : Exports
  spdk : Spdk.State
  /-- The file system on each block device of SPDK. -/
  format : String → Option String
  files : FileSystem
  /-- An export ends with its block device. -/
  backed : ∀ node v, exports.on node = some v → (spdk.bdev? v).isSome = true
  /-- So does a file system. -/
  formatted : ∀ v, spdk.bdev? v = none → format v = none
  typed : ∀ v fstype, format v = some fstype → IsType fstype
  /-- The directories for mount points are not on NBD devices themselves. -/
  plain : ∀ path node, files.parentDev path ≠ dev.number node

variable {dev : Numbering}

namespace State

/-- The file system on a device. -/
def formatOf (s : State dev) (device : String) : Option String :=
  (s.exports.on device).bind s.format

/-- What the device calls see of it. -/
def host (s : State dev) : Csi.Host where
  mounts := s.files.table.reverse.map Mounted.path
  nodes := s.nodes
  exports := s.exports
  spdk := s.spdk

/-! ### What changes it -/

def setFiles (s : State dev) (fs : FileSystem) (h : fs.parentDev = s.files.parentDev) :
    State dev :=
  { s with
    files := fs
    plain := by rw [h]; exact s.plain }

def setExports (s : State dev) (e : Exports)
    (h : ∀ node v, e.on node = some v → (s.spdk.bdev? v).isSome = true) : State dev :=
  { s with
    exports := e
    backed := h }

/-- Another state of SPDK.  Exports and file systems of block devices that are gone are gone as
well. -/
def setSpdk (s : State dev) (spdk : Spdk.State) : State dev where
  nodes := s.nodes
  exports := s.exports.restrict fun d => (spdk.bdev? d.bdevName).isSome
  spdk := spdk
  format v := if (spdk.bdev? v).isSome then s.format v else none
  files := s.files
  backed node v h := (Exports.on_restrict.1 h).2
  formatted v h := by simp [h]
  typed v fstype h := by
    split at h
    · exact s.typed v fstype h
    · cases h
  plain := s.plain

theorem on_setSpdk {s : State dev} {spdk : Spdk.State} {node v : String} :
    (s.setSpdk spdk).exports.on node = some v ↔
      s.exports.on node = some v ∧ (spdk.bdev? v).isSome = true := Exports.on_restrict

theorem format_setSpdk (s : State dev) (spdk : Spdk.State) (v : String) :
    (s.setSpdk spdk).format v = if (spdk.bdev? v).isSome then s.format v else none := rfl

/-- A new file system on a block device. -/
def setFormat (s : State dev) (v fstype : String) (hv : (s.spdk.bdev? v).isSome = true)
    (htype : IsType fstype) : State dev :=
  { s with
    format := Function.update s.format v (some fstype)
    formatted := by
      intro w hw
      have hne : w ≠ v := by
        rintro rfl
        rw [hw] at hv
        cases hv
      rw [Function.update_of_ne hne]
      exact s.formatted w hw
    typed := by
      intro w t hw
      by_cases hne : w = v
      · rw [hne, Function.update_self, Option.some.injEq] at hw
        rwa [← hw]
      · rw [Function.update_of_ne hne] at hw
        exact s.typed w t hw }

end State

/-! ## Requests -/

/-- What the driver asks for. -/
inductive Request where
  | files (q : FileSystem.Request)
  | probe (node : ℕ)
  | nbd (q : NbdRpc)
  /-- The reply to a call that SPDK has carried out gets to the driver. -/
  | deliver (reply : Except String Unit)
  | spdk (q : Spdk.Rpc)
  /-- The command `fsck -a`. -/
  | fsck (device : String)
  /-- The command `mount`, for a device. -/
  | mountDevice (entry : MountEntry)
  /-- The command `blkid -p -s TYPE -s PTTYPE -o export`. -/
  | blkid (disk : String)
  /-- The command `mkfs.<fstype>`, with its flags and the device. -/
  | mkfs (fstype : String) (flags : List String) (device : String)

def Request.Reply : Request → Type
  | .files q => q.Reply
  | .probe _ => Probe
  | .nbd q => Except String q.Result
  | .deliver _ => Except String Unit
  | .spdk q => q.Reply
  | .fsck _ => CommandResult
  | .mountDevice _ => Except Csi.Host.CommandError Unit
  | .blkid _ => CommandResult
  | .mkfs _ _ _ => CommandResult

theorem parentDev_exec (q : FileSystem.Request) (fs : FileSystem) :
    (FileSystem.exec q fs).2.parentDev = fs.parentDev := by
  cases q with
  | mkdirAll path =>
    simp only [FileSystem.exec, FileSystem.execMkdirAll]
    cases fs.dir path with
    | missing => rfl
    | empty => cases fs.stat path <;> rfl
    | filled => cases fs.stat path <;> rfl
  | mount entry =>
    simp only [FileSystem.exec, FileSystem.execMount]
    split <;> split <;> rfl
  | umount target =>
    simp only [FileSystem.exec, FileSystem.execUmount]
    split <;> rfl
  | remove path =>
    simp only [FileSystem.exec, FileSystem.execRemove]
    split
    · rfl
    · split <;> rfl
  | _ => rfl

theorem backed_execNbd (s : State dev) (q : NbdRpc) (node v : String)
    (h : (Spdk.execNbd s.spdk s.exports q).2.on node = some v) :
    (s.spdk.bdev? v).isSome = true := by
  cases q with
  | getNBDDisks => exact s.backed node v h
  | startNBDDisk args =>
    simp only [Spdk.execNbd, Spdk.execStart] at h
    split_ifs at h with hne hfree hbdev
    · exact s.backed node v h
    · replace h : (s.exports.start args hne hfree).on node = some v := h
      rcases Exports.on_start.1 h with h | ⟨-, rfl⟩
      · exact s.backed node v h
      · exact hbdev
    · exact s.backed node v h
    · exact s.backed node v h
  | stopNBDDisk args =>
    rcases Spdk.execStop_cases s.exports args with ⟨-, heq⟩ | ⟨-, err, heq⟩
    · rw [Spdk.execNbd, heq] at h
      exact s.backed node v (Exports.on_stop.1 h).1
    · rw [Spdk.execNbd, heq] at h
      exact s.backed node v h

namespace State

/-- Mounting takes a directory and a file system, of the type that was asked for if any. -/
def execMountDevice (s : State dev) (entry : MountEntry) :
    Except Csi.Host.CommandError Unit × State dev :=
  match s.formatOf entry.source with
  | some format =>
    if h : s.files.dir entry.target ≠ .missing ∧ (entry.fstype = "" ∨ entry.fstype = format) then
      (.ok (), s.setFiles (s.files.addMount
        ⟨entry.target, .ok (dev.number entry.source), fun _ h => by cases h⟩ h.1) rfl)
    else (.error ("exit status 32", "mount: wrong fs type or mount point\n"), s)
  | none => (.error ("exit status 32", "mount: bad superblock\n"), s)

/-- A device has to be exported for it to be formatted, and there has to be such a command. -/
def execMkfs (s : State dev) (fstype device : String) : CommandResult × State dev :=
  match h : s.exports.on device with
  | some v =>
    if ht : IsType fstype then (.done "", s.setFormat v fstype (s.backed device v h) ht)
    else (.notFound, s)
  | none => (.exit 1 "mkfs: no such device\n", s)

/-- What `blkid` finds. -/
def execBlkid (s : State dev) (disk : String) : CommandResult :=
  match s.formatOf disk with
  | some format => .done ("DEVNAME=" ++ disk ++ "\nTYPE=" ++ format ++ "\n")
  | none => .exit 2 ""

/-- What each request does when nothing fails. -/
def exec (images : ConstructRBDBDevArgs → Option UInt64) :
    (q : Request) → State dev → q.Reply × State dev
  | .files q, s =>
    ((FileSystem.exec q s.files).1,
      s.setFiles (FileSystem.exec q s.files).2 (parentDev_exec q s.files))
  | .probe node, s => (s.host.execProbe node, s)
  | .nbd q, s =>
    ((Spdk.execNbd s.spdk s.exports q).1,
      s.setExports (Spdk.execNbd s.spdk s.exports q).2 (backed_execNbd s q))
  | .deliver reply, s => (reply, s)
  | .spdk q, s => ((Spdk.exec images q s.spdk).1, s.setSpdk (Spdk.exec images q s.spdk).2)
  | .fsck device, s =>
    (match s.formatOf device with
      | some _ => .done ""
      | none => .exit 8 "fsck: bad magic number in super-block\n", s)
  | .mountDevice entry, s => s.execMountDevice entry
  | .blkid disk, s => (s.execBlkid disk, s)
  | .mkfs fstype _ device, s => s.execMkfs fstype device

end State

/-- The answers that stand for a failure without effect.  A look at a device node may show
anything, and `fsck` may say anything; but that there is nothing at a path is not said unless it is
so, and `blkid` exits with status 2 only where there is no file system.  The latter is an assumption
about the host: `blkid` also ends like that on a device that it cannot read, which the driver would
then format. -/
def Fault : (q : Request) → q.Reply → Prop
  | .files (.isLikelyNotMountPoint _), r =>
    ∃ e, r = (Except.error e : Except OsError Bool) ∧ e.isNotExist = false
  | .files q, r => FileSystem.Fault q r
  | .probe _, _ => True
  | .nbd q, r => ∃ e, r = (Except.error e : Except String q.Result)
  | .deliver _, r => ∃ e, r = (Except.error e : Except String Unit)
  | .spdk q, r => ∃ e, r = (Except.error e : Except String q.Result)
  | .fsck _, _ => True
  | .mountDevice _, r => ∃ e, r = (Except.error e : Except Csi.Host.CommandError Unit)
  | .blkid _, r => ∀ output, r ≠ CommandResult.done output ∧ r ≠ CommandResult.exit 2 output
  | .mkfs _ _ _, r => ∀ output, r ≠ CommandResult.done output

/-- The host, on which anything may fail. -/
def server (dev : Numbering) (images : ConstructRBDBDevArgs → Option UInt64) :
    Server Request Request.Reply (State dev) where
  exec := State.exec images
  Fault := Fault

/-- What the driver does on its host. -/
abbrev Action (α : Type) : Type := Prog Request Request.Reply α

/-! ## The programs of the parts -/

/-- What is done with directories and mounts. -/
def onFiles {α : Type} (p : Csi.Mounting α) : Action α := p.embed .files fun _ r => r

theorem onFiles_bind {α β : Type} (p : Csi.Mounting α) (k : α → Csi.Mounting β) :
    onFiles (p.bind k) = (onFiles p).bind fun a => onFiles (k a) := Prog.embed_bind p k

/-- What is done on SPDK. -/
def onSpdk {α : Type} (p : Spdk.Client α) : Action α := p.embed .spdk fun _ r => r

theorem onSpdk_bind {α β : Type} (p : Spdk.Client α) (k : α → Spdk.Client β) :
    onSpdk (p.bind k) = (onSpdk p).bind fun a => onSpdk (k a) := Prog.embed_bind p k

/-- The requests of the device calls, here. -/
def ofHost : Csi.Host.Request → Request
  | .umount target => .files (.umount target)
  | .probe node => .probe node
  | .nbd q => .nbd q
  | .deliver reply => .deliver reply
  | .spdk q => .spdk q

def readHost : (q : Csi.Host.Request) → (ofHost q).Reply → q.Reply
  | .umount _, r => r
  | .probe _, r => r
  | .nbd _, r => r
  | .deliver _, r => r
  | .spdk _, r => r

/-- What the device calls and `NodeUnstageVolume` do. -/
def onHost {α : Type} (p : Csi.Task α) : Action α := p.embed ofHost readHost

theorem onHost_bind {α β : Type} (p : Csi.Task α) (k : α → Csi.Task β) :
    onHost (p.bind k) = (onHost p).bind fun a => onHost (k a) := Prog.embed_bind p k

/-- The requests of `NodeStageVolume`, here. -/
def ofMachine : Machine.Request → Request
  | .host q => ofHost q
  | .isLikelyNotMountPoint file => .files (.isLikelyNotMountPoint file)
  | .mkdirAll path => .files (.mkdirAll path)
  | .fsck device => .fsck device
  | .mount entry => .mountDevice entry
  | .blkid disk => .blkid disk
  | .mkfs fstype flags device => .mkfs fstype flags device

/-- What `NodeStageVolume` makes of the answer of `IsLikelyNotMountPoint`. -/
def readCheck : Except OsError Bool → MountCheck
  | .ok notMnt => .notMnt notMnt
  | .error err => if err.isNotExist then .notExist err.text else .failed err.text

def readMachine : (q : Machine.Request) → (ofMachine q).Reply → q.Reply
  | .host q, r => readHost q r
  | .isLikelyNotMountPoint _, r => readCheck r
  | .mkdirAll _, r => Except.mapError OsError.text r
  | .fsck _, r => r
  | .mount _, r => r
  | .blkid _, r => r
  | .mkfs _ _ _, r => r

/-- What `NodeStageVolume` does. -/
def onMachine {α : Type} (p : Csi.Stager α) : Action α := p.embed ofMachine readMachine

theorem onMachine_bind {α β : Type} (p : Csi.Stager α) (k : α → Csi.Stager β) :
    onMachine (p.bind k) = (onMachine p).bind fun a => onMachine (k a) := Prog.embed_bind p k

/-- A device call in `NodeStageVolume`. -/
theorem onMachine_onMachine {α : Type} (p : Csi.Task α) : onMachine p.onMachine = onHost p := by
  induction p with
  | ret a => rfl
  | call q k ih => exact congrArg (Prog.call (ofHost q)) (funext fun r => ih (readHost q r))

/-! ## Where the files change -/

section Files

variable {fs fs' : FileSystem} {path : String}

/-- The path that a request is about, if it can change anything. -/
def changes : FileSystem.Request → Option String
  | .mkdirAll path => some path
  | .mount entry => some entry.target
  | .umount target => some target
  | .remove path => some path
  | _ => none

theorem mountsAt_addMount_ne (m : Mounted) (h : fs.dir m.path ≠ .missing) (hne : path ≠ m.path) :
    (fs.addMount m h).mountsAt path = fs.mountsAt path := by
  have hpath : m.path ≠ path := fun heq => hne heq.symm
  simp [FileSystem.mountsAt, FileSystem.addMount, hpath]

theorem filter_eraseP_ne (l : List Mounted) {target : String} (hne : path ≠ target) :
    (l.eraseP fun m => m.path = target).filter (fun m => m.path = path) =
      l.filter fun m => m.path = path := by
  induction l with
  | nil => rfl
  | cons m l ih =>
    by_cases hm : m.path = target
    · have hpath : m.path ≠ path := fun heq => hne (heq.symm.trans hm)
      simp [hm, hne.symm]
    · rw [List.eraseP_cons_of_neg (by simpa using hm), List.filter_cons, List.filter_cons, ih]

theorem mountsAt_dropMount_ne {target : String} (hne : path ≠ target) :
    (fs.dropMount target).mountsAt path = fs.mountsAt path := filter_eraseP_ne _ hne

/-- **A request changes one path at most.** -/
theorem step_elsewhere {q : FileSystem.Request} {r : q.Reply}
    (h : FileSystem.server.Step q fs r fs') (hne : changes q ≠ some path) :
    fs'.mountsAt path = fs.mountsAt path ∧ fs'.dir path = fs.dir path := by
  rcases h with ⟨-, rfl⟩ | ⟨-, rfl⟩
  · cases q with
    | mkdirAll target =>
      have hpath : path ≠ target := fun heq => hne (by rw [changes, heq])
      simp only [FileSystem.server, FileSystem.exec, FileSystem.execMkdirAll]
      cases fs.dir target with
      | missing => exact ⟨rfl, Function.update_of_ne hpath _ _⟩
      | empty => cases fs.stat target <;> exact ⟨rfl, rfl⟩
      | filled => cases fs.stat target <;> exact ⟨rfl, rfl⟩
    | mount entry =>
      have hpath : path ≠ entry.target := fun heq => hne (by rw [changes, heq])
      simp only [FileSystem.server, FileSystem.exec, FileSystem.execMount]
      split
      · split <;> exact ⟨rfl, rfl⟩
      · split
        · rename_i h
          exact ⟨mountsAt_addMount_ne _ h.1 hpath, rfl⟩
        · exact ⟨rfl, rfl⟩
    | umount target =>
      have hpath : path ≠ target := fun heq => hne (by rw [changes, heq])
      simp only [FileSystem.server, FileSystem.exec, FileSystem.execUmount]
      split
      · exact ⟨mountsAt_dropMount_ne hpath, rfl⟩
      · exact ⟨rfl, rfl⟩
    | remove target =>
      have hpath : path ≠ target := fun heq => hne (by rw [changes, heq])
      simp only [FileSystem.server, FileSystem.exec, FileSystem.execRemove]
      split
      · exact ⟨rfl, rfl⟩
      · split
        · exact ⟨rfl, rfl⟩
        · exact ⟨rfl, rfl⟩
        · exact ⟨rfl, Function.update_of_ne hpath _ _⟩
    | _ => exact ⟨rfl, rfl⟩
  · exact ⟨rfl, rfl⟩

/-- What is seen at a path depends on what is there. -/
theorem stat_eq (hmounts : fs'.mountsAt path = fs.mountsAt path) (hdir : fs'.dir path = fs.dir path)
    (hdev : fs'.parentDev = fs.parentDev) : fs'.stat path = fs.stat path := by
  rw [FileSystem.stat, FileSystem.stat, hmounts, hdir, hdev]

end Files

/-! ## What a request can do -/

section Steps

variable {images : ConstructRBDBDevArgs → Option UInt64} {s s' : State dev}

/-- The requests that change nothing. -/
def Request.Looks : Request → Prop
  | .files (.stat _) => True
  | .files (.isLikelyNotMountPoint _) => True
  | .files (.evalSymlinks _) => True
  | .files .list => True
  | .probe _ => True
  | .nbd .getNBDDisks => True
  | .deliver _ => True
  | .spdk (.getBDevs _) => True
  | .spdk .getVHostControllers => True
  | .fsck _ => True
  | .blkid _ => True
  | _ => False

/-- Nothing is lost with SPDK as it is. -/
theorem setSpdk_self (s : State dev) : s.setSpdk s.spdk = s := by
  have hexports : (s.exports.restrict fun d => (s.spdk.bdev? d.bdevName).isSome) = s.exports := by
    rw [Exports.restrict]
    congr
    rw [List.filter_eq_self]
    exact fun d hd => s.backed d.nbdDevice d.bdevName (Exports.on_eq_some_iff.2 hd)
  have hformat : (fun v => if (s.spdk.bdev? v).isSome then s.format v else none) = s.format := by
    funext v
    cases h : s.spdk.bdev? v with
    | none => simp [s.formatted v h]
    | some d => rfl
  cases s
  simp only [State.setSpdk] at hexports hformat ⊢
  simp only [hexports, hformat]

theorem step_looks {q : Request} (hq : q.Looks) {r : q.Reply}
    (h : (server dev images).Step q s r s') : s' = s := by
  rcases h with ⟨-, rfl⟩ | ⟨-, rfl⟩
  · match q, hq with
    | .files (.stat _), _ => rfl
    | .files (.isLikelyNotMountPoint _), _ => rfl
    | .files (.evalSymlinks _), _ => rfl
    | .files .list, _ => rfl
    | .probe _, _ => rfl
    | .nbd .getNBDDisks, _ => rfl
    | .deliver _, _ => rfl
    | .spdk (.getBDevs _), _ => exact setSpdk_self s
    | .spdk .getVHostControllers, _ => exact setSpdk_self s
    | .fsck _, _ => rfl
    | .blkid _, _ => rfl
  · rfl

/-- What happens to the files happens to nothing else. -/
theorem step_files {q : FileSystem.Request} {r : q.Reply}
    (h : (server dev images).Step (.files q) s r s') :
    ∃ fs hdev, FileSystem.server.Step q s.files r fs ∧ s' = s.setFiles fs hdev := by
  rcases h with ⟨rfl, rfl⟩ | ⟨hfault, rfl⟩
  · exact ⟨_, parentDev_exec q s.files, Or.inl ⟨rfl, rfl⟩, rfl⟩
  · refine ⟨s'.files, rfl, Or.inr ⟨?_, rfl⟩, rfl⟩
    cases q with
    | isLikelyNotMountPoint file => exact trivial
    | _ => exact hfault

/-- A check does not lie. -/
theorem step_check {path : String} {r : Except OsError Bool}
    (h : (server dev images).Step (.files (.isLikelyNotMountPoint path)) s r s') :
    s' = s ∧
      (r = s.files.isLikelyNotMountPoint path ∨ ∃ e, r = .error e ∧ e.isNotExist = false) := by
  rcases h with ⟨rfl, rfl⟩ | ⟨hfault, rfl⟩
  · exact ⟨rfl, Or.inl rfl⟩
  · exact ⟨rfl, Or.inr hfault⟩

/-- A call about NBD devices does what it does on `Csi.Host`. -/
theorem step_nbd {q : NbdRpc} {r : Except String q.Result}
    (h : (server dev images).Step (.nbd q) s r s') :
    ∃ e he, (Csi.Host.server images).Step (.nbd q) s.host r { s.host with exports := e } ∧
      s' = s.setExports e he := by
  rcases h with ⟨rfl, rfl⟩ | ⟨hfault, rfl⟩
  · exact ⟨_, backed_execNbd s q, Or.inl ⟨rfl, rfl⟩, rfl⟩
  · exact ⟨s'.exports, s'.backed, Or.inr ⟨hfault, rfl⟩, rfl⟩

theorem execMalloc_cases (spdk : Spdk.State) {args : Spdk.ConstructBDevArgs}
    (hne : args.name ≠ "") :
    (Spdk.execMalloc spdk args).2 = spdk ∨
      ∃ d hd, d.name = args.name ∧ (Spdk.execMalloc spdk args).2 = spdk.addBDev d hd := by
  rw [Spdk.execMalloc, Spdk.mallocName, if_neg hne]
  split
  · rw [Spdk.register]
    split
    · rename_i hd
      exact Or.inr ⟨_, hd, rfl, rfl⟩
    · exact Or.inl rfl
  · exact Or.inl rfl

/-- Either there is a new block device, or nothing happens. -/
theorem step_construct {args : Spdk.ConstructBDevArgs} (hne : args.name ≠ "")
    {r : Except String String}
    (h : (server dev images).Step (.spdk (.constructMallocBDev args)) s r s') :
    s' = s ∨ ∃ d hd, d.name = args.name ∧ s' = s.setSpdk (s.spdk.addBDev d hd) := by
  rcases h with ⟨-, hs⟩ | ⟨-, hs⟩
  · replace hs : s' = s.setSpdk (Spdk.execMalloc s.spdk args).2 := hs
    rcases execMalloc_cases s.spdk hne with heq | ⟨d, hd, hname, heq⟩
    · rw [heq, setSpdk_self] at hs
      exact Or.inl hs
    · rw [heq] at hs
      exact Or.inr ⟨d, hd, hname, hs⟩
  · exact Or.inl hs

theorem execDelete_cases (spdk : Spdk.State) (v : String) :
    (Spdk.execDelete spdk v).2 = spdk ∨ (Spdk.execDelete spdk v).2 = spdk.deleteBDev v := by
  rw [Spdk.execDelete]
  split
  · exact Or.inl rfl
  · exact Or.inr rfl

/-- Either the block device is gone, or nothing happens. -/
theorem step_delete {v : String} {r : Except String Unit}
    (h : (server dev images).Step (.spdk (.deleteBDev v)) s r s') :
    s' = s ∨ s' = s.setSpdk (s.spdk.deleteBDev v) := by
  rcases h with ⟨-, hs⟩ | ⟨-, hs⟩
  · replace hs : s' = s.setSpdk (Spdk.execDelete s.spdk v).2 := hs
    rcases execDelete_cases s.spdk v with heq | heq
    · rw [heq, setSpdk_self] at hs
      exact Or.inl hs
    · rw [heq] at hs
      exact Or.inr hs
  · exact Or.inl hs

theorem execMountDevice_cases (s : State dev) (entry : MountEntry) :
    (∃ e, s.execMountDevice entry = (.error e, s)) ∨ ∃ m hm, m.path = entry.target ∧
      m.root = .ok (dev.number entry.source) ∧
      s.execMountDevice entry = (.ok (), s.setFiles (s.files.addMount m hm) rfl) := by
  rw [State.execMountDevice]
  split
  · split
    · rename_i h
      exact Or.inr ⟨⟨entry.target, .ok (dev.number entry.source), _⟩, h.1, rfl, rfl, rfl⟩
    · exact Or.inl ⟨_, rfl⟩
  · exact Or.inl ⟨_, rfl⟩

/-- A command that succeeds has mounted the device. -/
theorem step_mountDevice {entry : MountEntry} {r : Except Csi.Host.CommandError Unit}
    (h : (server dev images).Step (.mountDevice entry) s r s') :
    (∃ e, r = .error e ∧ s' = s) ∨ (r = .ok () ∧ ∃ m hm, m.path = entry.target ∧
      m.root = .ok (dev.number entry.source) ∧ s' = s.setFiles (s.files.addMount m hm) rfl) := by
  rcases h with ⟨hr, hs⟩ | ⟨⟨e, rfl⟩, rfl⟩
  · replace hr : r = (s.execMountDevice entry).1 := hr
    replace hs : s' = (s.execMountDevice entry).2 := hs
    rcases execMountDevice_cases s entry with ⟨e, heq⟩ | ⟨m, hm, hpath, hroot, heq⟩
    · rw [heq] at hr hs
      exact Or.inl ⟨e, hr, hs⟩
    · rw [heq] at hr hs
      exact Or.inr ⟨hr, m, hm, hpath, hroot, hs⟩
  · exact Or.inl ⟨e, rfl, rfl⟩

theorem execMkfs_cases (s : State dev) (fstype device : String) :
    (s.execMkfs fstype device).2 = s ∨ ∃ v hv ht, s.exports.on device = some v ∧
      s.execMkfs fstype device = (.done "", s.setFormat v fstype hv ht) := by
  rw [State.execMkfs]
  split
  · rename_i v hon
    split
    · rename_i ht
      exact Or.inr ⟨v, s.backed device v hon, ht, hon, rfl⟩
    · exact Or.inl rfl
  · exact Or.inl rfl

/-- Either there is a new file system on what the device exports, or nothing happens. -/
theorem step_mkfs {fstype device : String} {flags : List String} {r : CommandResult}
    (h : (server dev images).Step (.mkfs fstype flags device) s r s') :
    s' = s ∨ ∃ v hv ht, s.exports.on device = some v ∧ s' = s.setFormat v fstype hv ht := by
  rcases h with ⟨-, hs⟩ | ⟨-, hs⟩
  · replace hs : s' = (s.execMkfs fstype device).2 := hs
    rcases execMkfs_cases s fstype device with heq | ⟨v, hv, ht, hon, heq⟩
    · exact Or.inl (hs.trans heq)
    · rw [heq] at hs
      exact Or.inr ⟨v, hv, ht, hon, hs⟩
  · exact Or.inl hs

/-- What `blkid` says, unless it fails. -/
theorem step_blkid {disk : String} {r : CommandResult}
    (h : (server dev images).Step (.blkid disk) s r s') :
    s' = s ∧ (r = s.execBlkid disk ∨
      ∀ output, r ≠ CommandResult.done output ∧ r ≠ CommandResult.exit 2 output) := by
  rcases h with ⟨rfl, rfl⟩ | ⟨hfault, rfl⟩
  · exact ⟨rfl, Or.inl rfl⟩
  · exact ⟨rfl, Or.inr hfault⟩

end Steps

end Oim.Node
