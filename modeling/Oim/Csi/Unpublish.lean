import Oim.Csi.Publish

/-!
# Unpublishing a volume

`NodeUnpublishVolume` of both driver versions (`pkg/oim-csi-driver/nodeserver.go`,
`nodeserver0.go`), which is `UnmountPath` of `pkg/mount/unmount.go`: whoever gets a success may
delete the volume.

* `logged_unmountPath_ok` — a success is either the removal of the directory, or comes from a
  `stat` that failed: `PathExists` takes all but three errors for a path that does not exist.
* `run_unmountPath_iff` — when the call succeeds for a path where nothing is mounted.
* `unpublish_done_iff` — a success means that the target is not mounted and that it can be
  repeated, **unless** the first `stat` has failed that way and there was something to do.
-/

namespace Oim.Csi

open Interaction

/-! ## The code -/

/-- `csi.NodeUnpublishVolumeRequest`. -/
structure UnpublishRequest where
  targetPath : String
  volumeID : String

/-- The checks of `NodeUnpublishVolume`. -/
def UnpublishRequest.check (req : UnpublishRequest) : Option Status :=
  if req.targetPath = "" then some ⟨.invalidArgument, "empty target path"⟩
  else if req.volumeID = "" then some ⟨.invalidArgument, "empty volume ID"⟩
  else none

/-- `oimDriver.NodeUnpublishVolume` and `oimDriver03.NodeUnpublishVolume`. -/
def Driver.nodeUnpublishVolume (_ : Driver) (req : UnpublishRequest) :
    Mounting (Except Status Unit) :=
  match req.check with
  | some e => .ret (.error e)
  | none => do
    match ← unmountPath req.targetPath with
    | .error err => return .error ⟨.internal, "unmount failed: " ++ err⟩
    | .ok () => return .ok ()

/-! ## What a success means -/

section Success

variable {fs fs' : FileSystem} {log : List FileSystem.Exchange} {path : String}

/-- `os.Stat` has failed in a way that `PathExists` takes for a path that does not exist. -/
def StatFailed (path : String) (fs : FileSystem) (log : List FileSystem.Exchange) : Prop :=
  ∃ err : OsError, err.isNotExist = false ∧ err.isCorruptedMnt = false ∧
    log.head? = some ⟨fs, .stat path, (.error err : Except OsError ℕ)⟩

theorem runs_removePath_ok (h : Prog.Runs FileSystem.server (removePath path) fs (.ok ()) fs') :
    fs'.dir path = .missing := by
  obtain ⟨r, fs₁, hstep, hrest⟩ := Prog.runs_call_iff.1 h
  cases r with
  | error err => exact nomatch (Prog.runs_ret_iff.1 hrest).1
  | ok u =>
    obtain ⟨-, rfl⟩ := Prog.runs_ret_iff.1 hrest
    exact FileSystem.step_remove_ok hstep

theorem runs_unmountMountPoint_ok
    (h : Prog.Runs FileSystem.server (unmountMountPoint path) fs (.ok ()) fs') :
    fs'.dir path = .missing := by
  obtain ⟨r, fs₁, -, hrest⟩ := Prog.runs_bind_iff.1 h
  cases r with
  | error err => exact nomatch (Prog.runs_ret_iff.1 hrest).1
  | ok u =>
    obtain ⟨⟨notMnt, mntErr⟩, fs₂, -, hrest⟩ := Prog.runs_bind_iff.1 hrest
    cases mntErr with
    | some e => exact nomatch (Prog.runs_ret_iff.1 hrest).1
    | none =>
      cases notMnt with
      | false => exact nomatch (Prog.runs_ret_iff.1 hrest).1
      | true => exact runs_removePath_ok hrest

/-- What `PathExists` says, and why. -/
theorem logged_pathExists {r : Bool × Option OsError}
    (h : Prog.Logged FileSystem.server (pathExists path) fs log r fs') :
    fs' = fs ∧
      (r = (true, none) ∨ (∃ err, r = (true, some err) ∧ err.isCorruptedMnt = true) ∨
        (r.1 = false ∧ (fs.dir path = .missing ∨ StatFailed path fs log))) := by
  obtain ⟨answer, fs₁, log', hstep, hrest, rfl⟩ := Prog.logged_call_iff.1 h
  obtain rfl := FileSystem.step_stat hstep
  cases answer with
  | ok dev =>
    obtain ⟨-, rfl, rfl⟩ := Prog.logged_ret_iff.1 hrest
    exact ⟨rfl, .inl rfl⟩
  | error err =>
    by_cases hexist : err.isNotExist = true
    · simp only [hexist, if_true] at hrest
      obtain ⟨-, rfl, rfl⟩ := Prog.logged_ret_iff.1 hrest
      exact ⟨rfl, .inr (.inr ⟨rfl, .inl (FileSystem.step_stat_notExist hstep hexist)⟩)⟩
    by_cases hcorrupted : err.isCorruptedMnt = true
    · simp only [hexist, hcorrupted, if_true] at hrest
      obtain ⟨-, rfl, rfl⟩ := Prog.logged_ret_iff.1 hrest
      exact ⟨rfl, .inr (.inl ⟨err, rfl, hcorrupted⟩)⟩
    · simp only [hexist, hcorrupted] at hrest
      obtain ⟨-, rfl, rfl⟩ := Prog.logged_ret_iff.1 hrest
      exact ⟨rfl, .inr (.inr ⟨rfl, .inr ⟨err, Bool.eq_false_iff.2 hexist,
        Bool.eq_false_iff.2 hcorrupted, rfl⟩⟩)⟩

/-- Unless `os.Stat` has failed, the directory is gone after a success. -/
theorem logged_unmountPath_ok
    (h : Prog.Logged FileSystem.server (unmountPath path) fs log (.ok ()) fs') :
    fs'.dir path = .missing ∨ (StatFailed path fs log ∧ fs' = fs) := by
  obtain ⟨r, fs₁, log₁, log₂, hexists, hrest, rfl⟩ := Prog.logged_bind_iff.1 h
  obtain ⟨rfl, rfl | ⟨err, rfl, hcorrupted⟩ | ⟨hr, hwhy⟩⟩ := logged_pathExists hexists
  · refine .inl ?_
    obtain ⟨⟨notMnt, err⟩, fs₂, -, hrest⟩ := Prog.runs_bind_iff.1 hrest.runs
    cases err with
    | some e => exact nomatch (Prog.runs_ret_iff.1 hrest).1
    | none =>
      cases notMnt with
      | true => exact runs_removePath_ok hrest
      | false => exact runs_unmountMountPoint_ok hrest
  · simp only [hcorrupted, if_true] at hrest
    exact .inl (runs_unmountMountPoint_ok hrest.runs)
  · obtain ⟨exists', err⟩ := r
    obtain rfl : exists' = false := hr
    obtain ⟨rfl, -, rfl⟩ := Prog.logged_ret_iff.1 hrest
    rcases hwhy with hmissing | hfailed
    · exact .inl hmissing
    · rw [List.append_nil]
      exact .inr ⟨hfailed, rfl⟩

/-- If `os.Stat` has failed, then nothing is done, and that is a success. -/
theorem logged_unmountPath_statFailed {r : Except String Unit}
    (h : Prog.Logged FileSystem.server (unmountPath path) fs log r fs')
    (hfailed : StatFailed path fs log) : r = .ok () ∧ fs' = fs := by
  obtain ⟨answer, fs₁, log', hstep, hrest, rfl⟩ := Prog.logged_call_iff.1 h
  obtain ⟨err, hexist, hcorrupted, hhead⟩ := hfailed
  obtain ⟨-, -, hanswer⟩ := Prog.Exchange.mk.inj (Option.some_inj.1 hhead)
  obtain rfl := eq_of_heq hanswer
  simp only [hexist, hcorrupted] at hrest
  obtain ⟨-, rfl, rfl⟩ := Prog.logged_ret_iff.1 hrest
  exact ⟨rfl, FileSystem.step_stat hstep⟩

end Success

/-! ## The next call -/

section Again

variable {fs : FileSystem} {path : String}

/-- The directory cannot be removed: there is something in it, or it is taken for a mount point,
because of the way in which `/proc/mounts` writes the path of another one. -/
def Blocked (fs : FileSystem) (path : String) : Prop :=
  fs.dir path = .filled ∨
    (fs.dir path = .empty ∧ ∃ mp ∈ fs.list, Mounter.isMountPointMatch mp path = true)

theorem run_unmountPath_missing (h : fs.dir path = .missing) :
    ((unmountPath path).run FileSystem.server fs).1 = .ok () := by
  obtain ⟨err, hstat, hnot⟩ := FileSystem.stat_of_missing h
  unfold unmountPath pathExists
  simp only [Prog.bind_eq, Prog.call_bind, Prog.run_call, FileSystem.server, FileSystem.exec, hstat,
    hnot, if_true]
  rfl

/-- Without a mount, what `IsNotMountPoint` says depends on the list alone. -/
theorem run_isNotMountPoint (hfree : ¬ fs.IsMounted path) (hdir : fs.dir path ≠ .missing) :
    (isNotMountPoint path).run FileSystem.server fs =
      ((!fs.list.any fun mp => Mounter.isMountPointMatch mp path, none), fs) := by
  have hstat := FileSystem.stat_of_not_isMounted hfree hdir
  have hcheck : fs.isLikelyNotMountPoint path = .ok true := by
    rw [FileSystem.isLikelyNotMountPoint, hstat]
    exact congrArg Except.ok (decide_eq_true rfl)
  simp only [isNotMountPoint, Mounter.isLikelyNotMountPoint, findMountPoint, Prog.bind_eq,
    Prog.call_bind, Prog.run_call, FileSystem.server, FileSystem.exec, hcheck, hstat, Prog.ret_bind,
    Except.map, Prog.run_ret]

theorem run_unmountPath_directory (hfree : ¬ fs.IsMounted path) (hdir : fs.dir path ≠ .missing) :
    (unmountPath path).run FileSystem.server fs =
      if fs.list.any fun mp => Mounter.isMountPointMatch mp path then
        (unmountMountPoint path).run FileSystem.server fs
      else (removePath path).run FileSystem.server fs := by
  have hexists : (pathExists path).run FileSystem.server fs = ((true, none), fs) := by
    simp only [pathExists, Prog.run_call, FileSystem.server, FileSystem.exec,
      FileSystem.stat_of_not_isMounted hfree hdir, Prog.run_ret]
  rw [unmountPath, Prog.bind_eq, Prog.run_bind, hexists]
  simp only [Prog.bind_eq, Prog.run_bind, run_isNotMountPoint hfree hdir]
  cases fs.list.any fun mp => Mounter.isMountPointMatch mp path <;> rfl

theorem run_unmountMountPoint (hfree : ¬ fs.IsMounted path) :
    ∃ err, ((unmountMountPoint path).run FileSystem.server fs).1 = .error err := by
  simp only [unmountMountPoint, Mounter.unmount, Prog.bind_eq, Prog.call_bind, Prog.ret_bind,
    Prog.run_call, FileSystem.server, FileSystem.exec, FileSystem.execUmount, if_neg hfree]
  exact ⟨_, rfl⟩

theorem run_removePath_iff (hfree : ¬ fs.IsMounted path) :
    ((removePath path).run FileSystem.server fs).1 = .ok () ↔ fs.dir path = .empty := by
  simp only [removePath, Prog.run_call, FileSystem.server, FileSystem.exec, FileSystem.execRemove,
    dif_neg hfree]
  cases hdir : fs.dir path <;> simp

/-- When the call succeeds for a path where nothing is mounted. -/
theorem run_unmountPath_iff (hfree : ¬ fs.IsMounted path) :
    ((unmountPath path).run FileSystem.server fs).1 = .ok () ↔ ¬ Blocked fs path := by
  by_cases hmissing : fs.dir path = .missing
  · refine iff_of_true (run_unmountPath_missing hmissing) ?_
    rintro (hfilled | ⟨hempty, -⟩)
    · exact nomatch hmissing.symm.trans hfilled
    · exact nomatch hmissing.symm.trans hempty
  · rw [run_unmountPath_directory hfree hmissing]
    by_cases hlisted : (fs.list.any fun mp => Mounter.isMountPointMatch mp path) = true
    · rw [if_pos hlisted]
      obtain ⟨err, herr⟩ := run_unmountMountPoint hfree
      refine iff_of_false (fun hok => nomatch herr.symm.trans hok) (not_not.2 ?_)
      cases hdir : fs.dir path with
      | missing => exact absurd hdir hmissing
      | filled => exact .inl hdir
      | empty => exact .inr ⟨hdir, List.any_eq_true.1 hlisted⟩
    · rw [if_neg hlisted, run_removePath_iff hfree]
      constructor
      · rintro hempty (hfilled | ⟨-, hmatch⟩)
        · exact nomatch hempty.symm.trans hfilled
        · exact hlisted (List.any_eq_true.2 hmatch)
      · intro hnot
        cases hdir : fs.dir path with
        | missing => exact absurd hdir hmissing
        | filled => exact absurd (.inl hdir) hnot
        | empty => rfl

end Again

/-! ## NodeUnpublishVolume -/

/-- A success means that nothing is mounted on the target, and another call succeeds as well. -/
def Unpublished (driver : Driver) (req : UnpublishRequest) (result : Except Status Unit)
    (fs : FileSystem) : Prop :=
  result = .ok () → ¬ fs.IsMounted req.targetPath ∧
    ((driver.nodeUnpublishVolume req).run FileSystem.server fs).1 = .ok ()

section Call

variable {driver : Driver} {req : UnpublishRequest} {fs fs' : FileSystem}
  {log : List FileSystem.Exchange} {result : Except Status Unit}

theorem logged_nodeUnpublishVolume (hcheck : req.check = none)
    (h : Prog.Logged FileSystem.server (driver.nodeUnpublishVolume req) fs log result fs') :
    ∃ r, Prog.Logged FileSystem.server (unmountPath req.targetPath) fs log r fs' ∧
      (result = .ok () ↔ r = .ok ()) := by
  simp only [Driver.nodeUnpublishVolume, hcheck] at h
  obtain ⟨r, fs₁, log₁, log₂, hunmount, hrest, rfl⟩ := Prog.logged_bind_iff.1 h
  cases r with
  | error err =>
    obtain ⟨rfl, rfl, rfl⟩ := Prog.logged_ret_iff.1 hrest
    rw [List.append_nil]
    exact ⟨_, hunmount, iff_of_false (fun h => nomatch h) (fun h => nomatch h)⟩
  | ok u =>
    obtain ⟨rfl, rfl, rfl⟩ := Prog.logged_ret_iff.1 hrest
    rw [List.append_nil]
    exact ⟨_, hunmount, iff_of_true rfl rfl⟩

theorem run_nodeUnpublishVolume_iff (hcheck : req.check = none) :
    ((driver.nodeUnpublishVolume req).run FileSystem.server fs).1 = .ok () ↔
      ((unmountPath req.targetPath).run FileSystem.server fs).1 = .ok () := by
  simp only [Driver.nodeUnpublishVolume, hcheck, Prog.bind_eq, Prog.run_bind]
  cases ((unmountPath req.targetPath).run FileSystem.server fs).1 <;> simp

theorem check_of_ok
    (h : Prog.Logged FileSystem.server (driver.nodeUnpublishVolume req) fs log (.ok ()) fs') :
    req.check = none := by
  cases hcheck : req.check with
  | none => rfl
  | some e =>
    simp only [Driver.nodeUnpublishVolume, hcheck] at h
    exact nomatch (Prog.logged_ret_iff.1 h).2.1

/-- **When a success of unpublishing means what it says.**  Whatever fails, nothing is mounted on
the target then and the next call succeeds, unless the first `os.Stat` has failed with an error
that is not about a corrupted mount, and there was something mounted on the target or its
directory could not have been removed. -/
theorem unpublish_done_iff (driver : Driver) (req : UnpublishRequest) (fs fs' : FileSystem)
    (log : List FileSystem.Exchange) (result : Except Status Unit)
    (h : Prog.Logged FileSystem.server (driver.nodeUnpublishVolume req) fs log result fs') :
    Unpublished driver req result fs' ↔
      ¬ (req.check = none ∧ StatFailed req.targetPath fs log ∧
        (fs.IsMounted req.targetPath ∨ Blocked fs req.targetPath)) := by
  constructor
  · rintro hdone ⟨hcheck, hfailed, hleft⟩
    obtain ⟨r, hunmount, hresult⟩ := logged_nodeUnpublishVolume hcheck h
    obtain ⟨hr, rfl⟩ := logged_unmountPath_statFailed hunmount hfailed
    obtain ⟨hfree, hagain⟩ := hdone (hresult.2 hr)
    rw [run_nodeUnpublishVolume_iff hcheck, run_unmountPath_iff hfree] at hagain
    exact hleft.elim hfree hagain
  · rintro hnot rfl
    have hcheck := check_of_ok h
    obtain ⟨r, hunmount, hresult⟩ := logged_nodeUnpublishVolume hcheck h
    obtain rfl := hresult.1 rfl
    rw [run_nodeUnpublishVolume_iff hcheck]
    rcases logged_unmountPath_ok hunmount with hmissing | ⟨hfailed, rfl⟩
    · exact ⟨FileSystem.not_isMounted_of_missing hmissing, run_unmountPath_missing hmissing⟩
    · have hfree : ¬ fs'.IsMounted req.targetPath :=
        fun hmounted => hnot ⟨hcheck, hfailed, .inl hmounted⟩
      rw [run_unmountPath_iff hfree]
      exact ⟨hfree, fun hblocked => hnot ⟨hcheck, hfailed, .inr hblocked⟩⟩

/-- Nothing fails, for a target where nothing is mounted. -/
theorem unpublish_done_staged :
    ∃ log fs', Prog.Logged FileSystem.server
        (Driver.oimDriver.nodeUnpublishVolume ⟨"/target", "vol"⟩) .staged log (.ok ()) fs' ∧
      Unpublished .oimDriver ⟨"/target", "vol"⟩ (.ok ()) fs' := by
  obtain ⟨log, fs', h, hlog⟩ : ∃ log fs', Prog.Logged FileSystem.server
      (Driver.oimDriver.nodeUnpublishVolume ⟨"/target", "vol"⟩) .staged log (.ok ()) fs' ∧
      log.head? = some ⟨.staged, .stat "/target", (.ok 1 : Except OsError ℕ)⟩ :=
    ⟨_, _, .call (.inl ⟨rfl, rfl⟩) (.call (.inl ⟨rfl, rfl⟩) (.call (.inl ⟨rfl, rfl⟩)
      (.call (.inl ⟨rfl, rfl⟩) (.call (.inl ⟨rfl, rfl⟩) (.ret _ _))))), rfl⟩
  refine ⟨log, fs', h, (unpublish_done_iff _ _ _ _ _ _ h).2 ?_⟩
  rintro ⟨-, ⟨err, -, -, hhead⟩, -⟩
  obtain ⟨-, -, hreply⟩ := Prog.Exchange.mk.inj (Option.some_inj.1 (hlog.symm.trans hhead))
  exact nomatch eq_of_heq hreply

/-- The target is mounted, and `os.Stat` is not allowed to look at it. -/
theorem unpublish_mounted_denied :
    ∃ log fs', Prog.Logged FileSystem.server
        (Driver.oimDriver.nodeUnpublishVolume ⟨"/target", "vol"⟩) .published log (.ok ()) fs' ∧
      fs'.IsMounted "/target" :=
  ⟨_, _, .call (.inr ⟨⟨⟨.eacces, "stat /target: permission denied"⟩, rfl, rfl⟩, rfl⟩) (.ret _ _),
    fun h => nomatch h⟩

end Call

/-! ## Publishing and unpublishing -/

section RoundTrip

variable {fs fs' : FileSystem} {source target : String}

end RoundTrip

end Oim.Csi
