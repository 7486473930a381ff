import Oim.Csi.Stage

/-!
# Mount points

`pkg/mount` (`mount.go`, `mount_linux.go`, `unmount.go`) on a file system where things are mounted
on top of directories: how the driver finds out whether a path is a mount point, how it makes a
bind mount, and how it gets rid of one.

* `FileSystem`, `FileSystem.server` — the directories and the mounts, and what the code asks of
  them.  Anything may fail, and a check for a mount point may give any answer.
* `mount` — a bind mount takes two commands; `isNotMountPoint`, `unmountPath` — as in the source.
* `step_umount`, `step_remove`, … — what each request can do to the mounts on a path.
-/

namespace Oim.Csi

open Interaction

/-! ## Errors -/

/-- The error numbers, as far as the code tells them apart. -/
inductive Errno where
  | enoent
  | eexist
  | enotempty
  | eacces
  | eperm
  | enotconn
  | estale
  | eio
  | ebusy
  /-- All others, and errors without a number. -/
  | other (number : ℕ)
  deriving DecidableEq

/-- An error of the package `os`. -/
structure OsError where
  errno : Errno
  text : String
  deriving DecidableEq

namespace OsError

/-- `os.IsNotExist`. -/
def isNotExist (e : OsError) : Bool := e.errno = .enoent

/-- `os.IsExist`. -/
def isExist (e : OsError) : Bool := e.errno = .eexist || e.errno = .enotempty

/-- `os.IsPermission`. -/
def isPermission (e : OsError) : Bool := e.errno = .eacces || e.errno = .eperm

/-- `IsCorruptedMnt`. -/
def isCorruptedMnt (e : OsError) : Bool :=
  e.errno = .enotconn || e.errno = .estale || e.errno = .eio

end OsError

/-! ## The file system -/

/-- What there is at a path, below the mounts on it. -/
inductive Directory where
  | missing
  | empty
  /-- There is something in it. -/
  | filled
  deriving DecidableEq

/-- Something that is mounted: the device of its root, or the error of looking at that, which
is not that there is nothing. -/
structure Mounted where
  path : String
  root : Except OsError ℕ
  exists_root : ∀ err, root = .error err → err.isNotExist = false

/-- The directories and the mounts.  Paths are clean and without symbolic links. -/
structure FileSystem where
  dir : String → Directory
  /-- The device of the directory that the path is in. -/
  parentDev : String → ℕ
  /-- What is mounted, the latest first. -/
  table : List Mounted
  mountPoint : ∀ m ∈ table, dir m.path ≠ .missing

namespace FileSystem

/-- What is mounted on a path, the latest first. -/
def mountsAt (fs : FileSystem) (path : String) : List Mounted :=
  fs.table.filter fun m => m.path = path

/-- The path is a mount point. -/
def IsMounted (fs : FileSystem) (path : String) : Prop := fs.mountsAt path ≠ []

instance (fs : FileSystem) (path : String) : Decidable (fs.IsMounted path) :=
  decidable_of_iff (¬ (fs.mountsAt path).isEmpty) (not_congr List.isEmpty_iff)

/-- `os.Stat`: the device of what is seen at the path. -/
def stat (fs : FileSystem) (path : String) : Except OsError ℕ :=
  match fs.dir path with
  | .missing => .error ⟨.enoent, "stat " ++ path ++ ": no such file or directory"⟩
  | _ =>
    match (fs.mountsAt path).head? with
    | some m => m.root
    | none => .ok (fs.parentDev path)

/-- There is something at every path that is not missing. -/
theorem isNotExist_of_stat {fs : FileSystem} {path : String} {err : OsError}
    (h : fs.stat path = .error err) : err.isNotExist = true ↔ fs.dir path = .missing := by
  unfold stat at h
  cases hdir : fs.dir path with
  | missing =>
    simp only [hdir, Except.error.injEq] at h
    subst h
    exact iff_of_true rfl rfl
  | _ =>
    simp only [hdir] at h
    cases htop : (fs.mountsAt path).head? with
    | none =>
      simp only [htop] at h
      exact nomatch h
    | some m =>
      simp only [htop] at h
      exact iff_of_false (Bool.eq_false_iff.1 (m.exists_root err h)) (fun h => nomatch h)

/-- `IsLikelyNotMountPoint`: a mount point is told by its device. -/
def isLikelyNotMountPoint (fs : FileSystem) (file : String) : Except OsError Bool :=
  (fs.stat file).map fun dev => dev = fs.parentDev file

/-- `/proc/mounts` has spaces and the like as octal numbers, and `parseProcMounts` leaves that
so. -/
def escape (path : String) : String :=
  String.ofList (path.toList.flatMap fun
    | ' ' => "\\040".toList
    | '\t' => "\\011".toList
    | '\n' => "\\012".toList
    | '\\' => "\\134".toList
    | c => [c])

/-- The paths that `List` returns. -/
def list (fs : FileSystem) : List String := fs.table.reverse.map fun m => escape m.path

/-! ### What changes it -/

/-- A new directory. -/
def makeDirectory (fs : FileSystem) (path : String) : FileSystem where
  dir := Function.update fs.dir path .empty
  parentDev := fs.parentDev
  table := fs.table
  mountPoint := by
    intro m hm
    by_cases hpath : m.path = path
    · rw [hpath, Function.update_self]
      exact fun h => nomatch h
    · rw [Function.update_of_ne hpath]
      exact fs.mountPoint m hm

/-- `os.MkdirAll`.  It finds out that a mount is broken, and then that the directory is there. -/
def execMkdirAll (fs : FileSystem) (path : String) : Except OsError Unit × FileSystem :=
  match fs.dir path with
  | .missing => (.ok (), fs.makeDirectory path)
  | _ =>
    match fs.stat path with
    | .error _ => (.error ⟨.eexist, "mkdir " ++ path ++ ": file exists"⟩, fs)
    | .ok _ => (.ok (), fs)

/-- One more mount on a directory. -/
def addMount (fs : FileSystem) (m : Mounted) (h : fs.dir m.path ≠ .missing) : FileSystem where
  dir := fs.dir
  parentDev := fs.parentDev
  table := m :: fs.table
  mountPoint := List.forall_mem_cons.2 ⟨h, fs.mountPoint⟩

/-- What is seen at the source is seen at the target as well. -/
def bindMount (fs : FileSystem) (source target : String)
    (h : fs.dir target ≠ .missing ∧ fs.dir source ≠ .missing) : FileSystem :=
  fs.addMount ⟨target, fs.stat source, fun _ herr =>
    Bool.eq_false_iff.2 (mt (isNotExist_of_stat herr).1 h.2)⟩ h.1

/-- The command `mount` for a bind mount and for the remount that follows. -/
def execMount (fs : FileSystem) (entry : MountEntry) :
    Except Host.CommandError Unit × FileSystem :=
  if "remount" ∈ entry.options then
    if fs.IsMounted entry.target then (.ok (), fs)
    else (.error ("exit status 32", "mount: " ++ entry.target ++ " not mounted\n"), fs)
  else if h : fs.dir entry.target ≠ .missing ∧ fs.dir entry.source ≠ .missing then
    (.ok (), fs.bindMount entry.source entry.target h)
  else (.error ("exit status 32", "mount: special device does not exist\n"), fs)

/-- The last mount on the path is gone. -/
def dropMount (fs : FileSystem) (path : String) : FileSystem where
  dir := fs.dir
  parentDev := fs.parentDev
  table := fs.table.eraseP fun m => m.path = path
  mountPoint m hm := fs.mountPoint m (List.mem_of_mem_eraseP hm)

/-- The command `umount`. -/
def execUmount (fs : FileSystem) (target : String) :
    Except Host.CommandError Unit × FileSystem :=
  if fs.IsMounted target then (.ok (), fs.dropMount target)
  else (.error ("exit status 32", "umount: " ++ target ++ ": not mounted.\n"), fs)

/-- The directory is gone. -/
def removeDirectory (fs : FileSystem) (path : String) (h : ¬ fs.IsMounted path) : FileSystem where
  dir := Function.update fs.dir path .missing
  parentDev := fs.parentDev
  table := fs.table
  mountPoint := by
    intro m hm
    have hpath : m.path ≠ path := by
      intro hpath
      refine h (List.ne_nil_of_mem (a := m) (List.mem_filter.2 ⟨hm, ?_⟩))
      exact decide_eq_true hpath
    rw [Function.update_of_ne hpath]
    exact fs.mountPoint m hm

/-- `os.Remove`, for what should be an empty directory. -/
def execRemove (fs : FileSystem) (path : String) : Except OsError Unit × FileSystem :=
  if h : fs.IsMounted path then
    (.error ⟨.ebusy, "remove " ++ path ++ ": device or resource busy"⟩, fs)
  else match fs.dir path with
    | .missing => (.error ⟨.enoent, "remove " ++ path ++ ": no such file or directory"⟩, fs)
    | .filled => (.error ⟨.enotempty, "remove " ++ path ++ ": directory not empty"⟩, fs)
    | .empty => (.ok (), fs.removeDirectory path h)

/-! ### Requests -/

/-- What the code asks for. -/
inductive Request where
  /-- `os.Stat`. -/
  | stat (path : String)
  /-- `Interface.IsLikelyNotMountPoint`. -/
  | isLikelyNotMountPoint (file : String)
  /-- `os.MkdirAll`. -/
  | mkdirAll (path : String)
  /-- The command `mount`. -/
  | mount (entry : MountEntry)
  /-- The command `umount`. -/
  | umount (target : String)
  /-- `filepath.EvalSymlinks`. -/
  | evalSymlinks (path : String)
  /-- `Interface.List`: the paths in `/proc/mounts`. -/
  | list
  /-- `os.Remove`. -/
  | remove (path : String)

def Request.Reply : Request → Type
  | .stat _ => Except OsError ℕ
  | .isLikelyNotMountPoint _ => Except OsError Bool
  | .mkdirAll _ => Except OsError Unit
  | .mount _ => Except Host.CommandError Unit
  | .umount _ => Except Host.CommandError Unit
  | .evalSymlinks _ => Except OsError String
  | .list => Except OsError (List String)
  | .remove _ => Except OsError Unit

/-- What each request does when nothing fails. -/
def exec : (q : Request) → FileSystem → q.Reply × FileSystem
  | .stat path, fs => (fs.stat path, fs)
  | .isLikelyNotMountPoint file, fs => (fs.isLikelyNotMountPoint file, fs)
  | .mkdirAll path, fs => fs.execMkdirAll path
  | .mount entry, fs => fs.execMount entry
  | .umount target, fs => fs.execUmount target
  | .evalSymlinks path, fs => ((fs.stat path).map fun _ => path, fs)
  | .list, fs => (.ok fs.list, fs)
  | .remove path, fs => fs.execRemove path

/-- The answers that stand for a failure without effect.  That there is nothing at a path is no
failure of `os.Stat`, and a check may give any answer. -/
def Fault : (q : Request) → q.Reply → Prop
  | .stat _, r => ∃ e, r = (Except.error e : Except OsError ℕ) ∧ e.isNotExist = false
  | .isLikelyNotMountPoint _, _ => True
  | .mkdirAll _, r => ∃ e, r = (Except.error e : Except OsError Unit)
  | .mount _, r => ∃ e, r = (Except.error e : Except Host.CommandError Unit)
  | .umount _, r => ∃ e, r = (Except.error e : Except Host.CommandError Unit)
  | .evalSymlinks _, r => ∃ e, r = (Except.error e : Except OsError String)
  | .list, r => ∃ e, r = (Except.error e : Except OsError (List String))
  | .remove _, r => ∃ e, r = (Except.error e : Except OsError Unit)

/-- The file system, on which anything may fail. -/
def server : Server Request Request.Reply FileSystem where
  exec := exec
  Fault := Fault

end FileSystem

/-- What is done on the file system. -/
abbrev Mounting (α : Type) : Type := Prog FileSystem.Request FileSystem.Request.Reply α

/-! ## The mounter -/

namespace Mounter

/-- `isBind`: whether a bind mount is asked for, and the options of the two commands that it
takes. -/
def isBind (options : List String) : Bool × List String × List String :=
  (options.contains "bind",
    if options.contains "_netdev" then ["bind", "_netdev"] else ["bind"],
    ["bind", "remount"] ++ options.filter fun option => option ≠ "bind" ∧ option ≠ "remount")

/-- `Mounter.IsLikelyNotMountPoint`.  With an error it says that there is no mount point. -/
def isLikelyNotMountPoint (file : String) : Mounting (Bool × Option OsError) :=
  .call (.isLikelyNotMountPoint file) fun
    | .error err => .ret (true, some err)
    | .ok notMnt => .ret (notMnt, none)

/-- `Mounter.MakeDir`. -/
def makeDir (pathname : String) : Mounting (Except OsError Unit) :=
  .call (.mkdirAll pathname) fun
    | .ok () => .ret (.ok ())
    | .error err => if err.isExist then .ret (.ok ()) else .ret (.error err)

/-- `Mounter.doMount` on the file system. -/
def doMount (withSystemd : Bool) (entry : MountEntry) : Mounting (Except String Unit) :=
  .call (.mount entry) fun result => .ret (doMountResult withSystemd entry result)

/-- `Mounter.Mount`. -/
def mount (withSystemd : Bool) (source target fstype : String) (options : List String) :
    Mounting (Except String Unit) :=
  let (bind, bindOpts, bindRemountOpts) := isBind options
  if bind then do
    match ← doMount withSystemd ⟨source, target, fstype, bindOpts⟩ with
    | .error err => return .error err
    | .ok () => doMount withSystemd ⟨source, target, fstype, bindRemountOpts⟩
  else doMount withSystemd ⟨source, target, fstype, options⟩

/-- `Mounter.Unmount` on the file system. -/
def unmount (target : String) : Mounting (Except String Unit) :=
  .call (.umount target) fun result => .ret (Task.unmountResult target result)

/-- `Mounter.IsMountPointMatch`. -/
def isMountPointMatch (mp dir : String) : Bool := mp = dir || mp = dir ++ "\\040(deleted)"

end Mounter

/-- `IsNotMountPoint`, once the quick check has found nothing. -/
def findMountPoint (file : String) : Mounting (Bool × Option OsError) :=
  .call (.evalSymlinks file) fun
    | .error err => .ret (true, some err)
    | .ok resolvedFile => .call .list fun
      | .error err => .ret (true, some err)
      | .ok mountPoints =>
        .ret (!mountPoints.any fun mp => Mounter.isMountPointMatch mp resolvedFile, none)

/-- `IsNotMountPoint`. -/
def isNotMountPoint (file : String) : Mounting (Bool × Option OsError) := do
  match ← Mounter.isLikelyNotMountPoint file with
  | (notMnt, some err) =>
    -- "We were not allowed to do the simple stat() check"
    if err.isPermission then findMountPoint file else return (notMnt, some err)
  | (false, none) => return (false, none)
  | (true, none) => findMountPoint file

/-- `PathExists`. -/
def pathExists (path : String) : Mounting (Bool × Option OsError) :=
  .call (.stat path) fun
    | .ok _ => .ret (true, none)
    | .error err =>
      if err.isNotExist then .ret (false, none)
      else if err.isCorruptedMnt then .ret (true, some err)
      else .ret (false, some err)

/-- `os.Remove`, as the last step. -/
def removePath (path : String) : Mounting (Except String Unit) :=
  .call (.remove path) fun
    | .ok () => .ret (.ok ())
    | .error err => .ret (.error err.text)

/-- `UnmountPath`, for what seems to be a mount point. -/
def unmountMountPoint (mountPath : String) : Mounting (Except String Unit) := do
  match ← Mounter.unmount mountPath with
  | .error err => return .error err
  | .ok () =>
    match ← Mounter.isLikelyNotMountPoint mountPath with
    | (_, some mntErr) => return .error mntErr.text
    | (true, none) => removePath mountPath
    | (false, none) => return .error ("Failed to unmount path " ++ mountPath)

/-- `UnmountPath`. -/
def unmountPath (mountPath : String) : Mounting (Except String Unit) := do
  match ← pathExists mountPath with
  | (false, _) => return .ok ()
  | (true, some pathErr) =>
    if pathErr.isCorruptedMnt then unmountMountPoint mountPath
    else return .error ("Error checking path: " ++ pathErr.text)
  | (true, none) =>
    match ← isNotMountPoint mountPath with
    | (_, some err) => return .error err.text
    | (true, none) => removePath mountPath
    | (false, none) => unmountMountPoint mountPath

/-! ## What a request can do -/

namespace FileSystem

variable {fs fs' : FileSystem} {path : String}

@[simp] theorem mountsAt_addMount (m : Mounted) (h : fs.dir m.path ≠ .missing) :
    (fs.addMount m h).mountsAt m.path = m :: fs.mountsAt m.path := by
  simp [mountsAt, addMount]

@[simp] theorem mountsAt_dropMount (path : String) :
    (fs.dropMount path).mountsAt path = (fs.mountsAt path).tail := by
  have h : ∀ table : List Mounted, (table.eraseP fun m => m.path = path).filter
      (fun m => m.path = path) = (table.filter fun m => m.path = path).tail := by
    intro table
    induction table with
    | nil => rfl
    | cons m table ih =>
      by_cases hm : m.path = path
      · simp [hm]
      · simpa [hm] using ih
  exact h fs.table

theorem not_isMounted_of_missing (h : fs.dir path = .missing) : ¬ fs.IsMounted path := by
  intro hmounted
  obtain ⟨m, hm⟩ := List.exists_mem_of_ne_nil _ hmounted
  obtain ⟨hmem, hpath⟩ := List.mem_filter.1 hm
  refine fs.mountPoint m hmem ?_
  rw [of_decide_eq_true hpath, h]

theorem stat_of_missing (h : fs.dir path = .missing) :
    ∃ err, fs.stat path = .error err ∧ err.isNotExist = true := by
  unfold stat
  rw [h]
  exact ⟨_, rfl, rfl⟩

theorem stat_of_not_isMounted (h : ¬ fs.IsMounted path) (hdir : fs.dir path ≠ .missing) :
    fs.stat path = .ok (fs.parentDev path) := by
  have hnil : fs.mountsAt path = [] := not_not.1 h
  unfold stat
  rw [hnil]
  cases hd : fs.dir path with
  | missing => exact absurd hd hdir
  | empty => rfl
  | filled => rfl

theorem step_check {r : Except OsError Bool}
    (h : server.Step (.isLikelyNotMountPoint path) fs r fs') : fs' = fs := by
  rcases h with ⟨-, rfl⟩ | ⟨-, rfl⟩ <;> rfl

theorem step_stat {r : Except OsError ℕ} (h : server.Step (.stat path) fs r fs') : fs' = fs := by
  rcases h with ⟨-, rfl⟩ | ⟨-, rfl⟩ <;> rfl

/-- `os.Stat` finds nothing only if there is nothing. -/
theorem step_stat_notExist {err : OsError} (h : server.Step (.stat path) fs (.error err) fs')
    (hnot : err.isNotExist = true) : fs.dir path = .missing := by
  rcases h with ⟨hr, -⟩ | ⟨⟨e, he, hexist⟩, -⟩
  · exact (isNotExist_of_stat hr.symm).1 hnot
  · obtain rfl := Except.error.inj he
    exact absurd hnot (Bool.eq_false_iff.1 hexist)

theorem step_mkdirAll {r : Except OsError Unit} (h : server.Step (.mkdirAll path) fs r fs') :
    fs'.table = fs.table := by
  rcases h with ⟨-, rfl⟩ | ⟨-, rfl⟩
  · simp only [server, exec, execMkdirAll]
    split
    · rfl
    · split <;> rfl
  · rfl

/-- A failed command does nothing, a remount does nothing to the mounts, and any other command
adds one. -/
theorem step_mount {entry : MountEntry} {r : Except Host.CommandError Unit}
    (h : server.Step (.mount entry) fs r fs') :
    (∃ e, r = .error e ∧ fs' = fs) ∨ (r = .ok () ∧ "remount" ∈ entry.options ∧ fs' = fs) ∨
      (r = .ok () ∧ "remount" ∉ entry.options ∧ ∃ m, m.path = entry.target ∧
        fs'.table = m :: fs.table) := by
  rcases h with ⟨hr, hfs'⟩ | ⟨⟨e, rfl⟩, rfl⟩
  · simp only [server, exec, execMount] at hr hfs'
    split_ifs at hr hfs' with hopt hmounted hdir
    · exact .inr (.inl ⟨hr, hopt, hfs'⟩)
    · exact .inl ⟨_, hr, hfs'⟩
    · exact .inr (.inr ⟨hr, hopt, _, rfl, congrArg table hfs'⟩)
    · exact .inl ⟨_, hr, hfs'⟩
  · exact .inl ⟨e, rfl, rfl⟩

/-- A command that succeeds takes one mount away. -/
theorem step_umount {r : Except Host.CommandError Unit} (h : server.Step (.umount path) fs r fs') :
    (∃ e, r = .error e ∧ fs' = fs) ∨ (r = .ok () ∧ fs' = fs.dropMount path) := by
  rcases h with ⟨hr, hfs'⟩ | ⟨⟨e, rfl⟩, rfl⟩
  · simp only [server, exec, execUmount] at hr hfs'
    split_ifs at hr hfs' with hmounted
    · exact .inr ⟨hr, hfs'⟩
    · exact .inl ⟨_, hr, hfs'⟩
  · exact .inl ⟨e, rfl, rfl⟩

/-- Only a directory where nothing is mounted can be removed. -/
theorem step_remove {r : Except OsError Unit} (h : server.Step (.remove path) fs r fs') :
    (∃ e, r = .error e ∧ fs' = fs) ∨
      (r = .ok () ∧ ∃ hfree : ¬ fs.IsMounted path, fs' = fs.removeDirectory path hfree) := by
  rcases h with ⟨hr, hfs'⟩ | ⟨⟨e, rfl⟩, rfl⟩
  · simp only [server, exec, execRemove] at hr hfs'
    by_cases hmounted : fs.IsMounted path
    · rw [dif_pos hmounted] at hr hfs'
      exact .inl ⟨_, hr, hfs'⟩
    · rw [dif_neg hmounted] at hr hfs'
      cases hdir : fs.dir path with
      | missing =>
        simp only [hdir] at hr hfs'
        exact .inl ⟨_, hr, hfs'⟩
      | filled =>
        simp only [hdir] at hr hfs'
        exact .inl ⟨_, hr, hfs'⟩
      | empty =>
        simp only [hdir] at hr hfs'
        exact .inr ⟨hr, hmounted, hfs'⟩
  · exact .inl ⟨e, rfl, rfl⟩

theorem step_remove_ok (h : server.Step (.remove path) fs (.ok ()) fs') :
    fs'.dir path = .missing := by
  rcases step_remove h with ⟨e, he, -⟩ | ⟨-, hfree, rfl⟩
  · exact nomatch he
  · exact Function.update_self ..

end FileSystem

end Oim.Csi
