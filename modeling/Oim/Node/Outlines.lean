import Oim.Lib.Fields
import Oim.Node.Calls

/-!
# What the calls do, one request at a time

The proof outline of every call of the driver (`Prog.Safe`): with others at work on other volumes
between any two of its requests, it issues nothing but what `Issues` allows.

* `safe_createDevice`, `safe_getDiskFormat`, … — the parts of `NodeStageVolume`.  Nothing is
  formatted unless `blkid` has found that there is no file system (`foldlM_blkidLine`).
* `safe_publish`, `only_unmountPath`, … — those of the other calls.
* `discipline` — all calls, together.
-/

namespace Oim.Node

open Interaction
open Csi (FileSystem MountEntry CommandResult OsError Driver CreateVolumeRequest StageRequest
  PublishRequest PublishResult UnpublishRequest)
open Csi.Local (Unexported DeviceCall)
open Spdk (Exports ConstructRBDBDevArgs Rpc)

variable {dev : Numbering} {images : ConstructRBDBDevArgs → Option UInt64} {L : Layout}
  {s : State dev}

/-! ## blkid -/

theorem splitOnP_line (l l' : List Char) :
    (l ++ '\n' :: l').splitOnP (· == '\n') = l.splitOnP (· == '\n') ++ l'.splitOnP (· == '\n') :=
  List.splitOnP_append_cons l l' (by simp)

/-- The line with the type of the file system. -/
theorem blkidLine_type {fstype : String} (htype : IsType fstype) (output : String)
    (types : String × String) :
    Csi.blkidLine output types ("TYPE=" ++ fstype).toList = .ok (fstype, types.2) := by
  have hsplit : ("TYPE=" ++ fstype).toList.splitOn '=' = ["TYPE".toList, fstype.toList] := by
    rw [String.toList_append, show "TYPE=".toList = "TYPE".toList ++ ['='] from rfl,
      List.append_assoc]
    change (_ ++ '=' :: fstype.toList).splitOnP (· == '=') = _
    rw [List.splitOnP_append_cons _ _ (by simp), (Fields.pieces_singleton htype.2.1).eq,
      (Fields.pieces_singleton (by decide : '=' ∉ "TYPE".toList)).eq]
    rfl
  rw [Csi.blkidLine, if_neg (by simp), hsplit]
  simp

/-- **`blkid` is understood.**  If there is a file system, then `GetDiskFormat` fails or has its
type. -/
theorem foldlM_blkidLine {fstype : String} (htype : IsType fstype) (disk output : String)
    (houtput : output = "DEVNAME=" ++ disk ++ "\nTYPE=" ++ fstype ++ "\n") :
    (∃ e, (output.toList.splitOn '\n').foldlM (Csi.blkidLine output) ("", "") = .error e) ∨
      ∃ pttype, (output.toList.splitOn '\n').foldlM (Csi.blkidLine output) ("", "") =
        .ok (fstype, pttype) := by
  have hlines : output.toList.splitOn '\n' = ("DEVNAME=" ++ disk).toList.splitOnP (· == '\n') ++
      [("TYPE=" ++ fstype).toList, []] := by
    have hlist : output.toList = ("DEVNAME=" ++ disk).toList ++
        '\n' :: (("TYPE=" ++ fstype).toList ++ '\n' :: []) := by
      simp [houtput]
    have hline : '\n' ∉ ("TYPE=" ++ fstype).toList := by
      simpa using htype.2.2
    rw [hlist]
    change List.splitOnP (· == '\n') _ = _
    rw [splitOnP_line, splitOnP_line, (Fields.pieces_singleton hline).eq]
    rfl
  rw [hlines, List.foldlM_append]
  cases (("DEVNAME=" ++ disk).toList.splitOnP (· == '\n')).foldlM (Csi.blkidLine output)
      ("", "") with
  | error e => exact Or.inl ⟨e, rfl⟩
  | ok types =>
    refine Or.inr ⟨types.2, ?_⟩
    change [("TYPE=" ++ fstype).toList, []].foldlM (Csi.blkidLine output) types = _
    rw [List.foldlM_cons, blkidLine_type htype]
    rfl

/-! ## NodeStageVolume -/

section Stage

variable {driver : Driver} {withSystemd : Bool} {connectErr : Option String} {limit : ℕ}
  {req : StageRequest} {α ε : Type} {post : α → State dev → Prop}

/-- The call. -/
abbrev staging (driver : Driver) (withSystemd : Bool) (connectErr : Option String) (limit : ℕ)
    (req : StageRequest) : Call := .nodeStageVolume driver withSystemd connectErr limit req

/-- The device exports the volume, and no mount is seen at the staging path. -/
structure Ready (L : Layout) (req : StageRequest) (device : String) (s : State dev) : Prop where
  on : s.exports.on device = some req.volumeID
  clear : Clear L req.targetPath s

/-- Whatever is set aside for the staging path, it is for the volume. -/
theorem volume_of_fits (hfits : Fits L (staging driver withSystemd connectErr limit req)) {u : Use}
    (hu : L.use req.targetPath = some u) : u.volume = req.volumeID := by
  rw [hfits _ _ rfl u hu]
  rfl

theorem Ready.keeps (hfits : Fits L (staging driver withSystemd connectErr limit req))
    {device : String} {s' : State dev} (h : Ready L req device s)
    (hk : Keeps L req.volumeID s s') : Ready L req device s' :=
  ⟨(hk.exports device).2 h.on, hk.clear (fun _ hu => volume_of_fits hfits hu) h.clear⟩

/-- The steps of the device calls are those of `Csi.Host`. -/
theorem step_ofHost {c : DeviceCall} {q : Csi.Host.Request} {s' : State dev} {h : Csi.Host}
    (hq : Csi.Local.Issues c h q) {r : (ofHost q).Reply}
    (hstep : (server dev images).Step (ofHost q) s r s') :
    (Csi.Host.server images).Step q s.host (readHost q r) s'.host ∧ s'.files = s.files := by
  cases hq with
  | probe =>
    rcases hstep with ⟨rfl, rfl⟩ | ⟨-, rfl⟩
    · exact ⟨Or.inl ⟨rfl, rfl⟩, rfl⟩
    · exact ⟨Or.inr ⟨trivial, rfl⟩, rfl⟩
  | deliver =>
    rcases hstep with ⟨hr, rfl⟩ | ⟨hfault, rfl⟩
    · exact ⟨Or.inl ⟨hr, rfl⟩, rfl⟩
    · exact ⟨Or.inr ⟨hfault, rfl⟩, rfl⟩
  | list =>
    obtain ⟨e, he, hhost, rfl⟩ := step_nbd hstep
    exact ⟨hhost, rfl⟩
  | start hwhere =>
    obtain ⟨e, he, hhost, rfl⟩ := step_nbd hstep
    exact ⟨hhost, rfl⟩
  | stop hwhere =>
    obtain ⟨e, he, hhost, rfl⟩ := step_nbd hstep
    exact ⟨hhost, rfl⟩

/-- What a device call may request, here. -/
def DeviceIssues (c : DeviceCall) (s : State dev) (q : Request) : Prop :=
  ∃ q', q = ofHost q' ∧ Csi.Local.Issues c s.host q'

theorem DeviceIssues.files {c : DeviceCall} {q : Request} (hq : DeviceIssues c s q) {r : q.Reply}
    {s' : State dev} (hstep : (server dev images).Step q s r s') : s'.files = s.files := by
  obtain ⟨q', rfl, hq'⟩ := hq
  exact (step_ofHost hq' hstep).2

/-- The outline of a device call, here. -/
theorem safe_onHost {c : DeviceCall} {p : Csi.Task α} {post : α → Csi.Host → Prop}
    (h : Prog.Safe (Csi.Host.server images) (Csi.Local.Keeps c.key) (Csi.Local.Issues c) post p
      s.host) :
    Prog.Safe (server dev images) (Keeps L c.key) (DeviceIssues c) (fun a s => post a s.host)
      (onHost p) s :=
  Prog.Safe.embed State.host (fun _ _ hk => hk.exports)
    (fun _ _ _ _ hq hstep => (step_ofHost hq hstep).1) h

theorem DeviceIssues.staging {c : Call}
    (hc : c = staging driver withSystemd connectErr limit req) {q : Request}
    (hq : DeviceIssues (.createDevice connectErr limit req.volumeID) s q) : Issues L c s q := by
  subst hc
  obtain ⟨q', rfl, hq'⟩ := hq
  generalize hh : s.host = h at hq'
  cases hq' with
  | probe node => exact .looks trivial
  | deliver reply => exact .looks trivial
  | list => exact .looks trivial
  | start hwhere =>
    subst hh
    exact .start hwhere

/-- `createDevice` finds or makes a device of the volume, and leaves the paths alone. -/
theorem safe_createDevice (hfits : Fits L (staging driver withSystemd connectErr limit req))
    (hclear : Clear L req.targetPath s) :
    Prog.Safe (server dev images) (Keeps L req.volumeID)
      (Issues L (staging driver withSystemd connectErr limit req))
      (fun r s' => Clear L req.targetPath s' ∧
        ∀ device, r = .ok device → s'.exports.on device = some req.volumeID)
      (onHost (Csi.Local.createDevice connectErr limit req.volumeID)) s := by
  have hdevice : Prog.Safe (server dev images) (Keeps L req.volumeID) _ _
      (onHost (Csi.Local.createDevice connectErr limit req.volumeID)) s :=
    safe_onHost (c := .createDevice connectErr limit req.volumeID)
      (Csi.Local.safe_createDevice connectErr limit)
  have hduring := hdevice.during _ (fun _ _ hk => hk) (Clear L req.targetPath) hclear
    (fun _ _ hk => hk.clear fun _ hu => volume_of_fits hfits hu)
    (fun s₁ q r s₂ hq hclear hstep u hu => by rw [hq.files hstep, hclear u hu])
  refine (hduring.mono fun r s' hpost => ⟨hpost.2, ?_⟩).mono_may fun s' q hq => hq.1.staging rfl
  rintro device rfl
  exact hpost.1

theorem safe_mountDevice (hfits : Fits L (staging driver withSystemd connectErr limit req))
    (entry : MountEntry) (htarget : entry.target = req.targetPath)
    (hready : Ready L req entry.source s) {k : Except String Unit → Action α}
    (herr : ∀ s' e, Ready L req entry.source s' →
      Prog.Safe (server dev images) (Keeps L req.volumeID)
        (Issues L (staging driver withSystemd connectErr limit req)) post (k (.error e)) s')
    (hok : ∀ s' : State dev, s'.files.mountsAt req.targetPath ≠ [] →
      Prog.Safe (server dev images) (Keeps L req.volumeID)
        (Issues L (staging driver withSystemd connectErr limit req)) post (k (.ok ())) s') :
    Prog.Safe (server dev images) (Keeps L req.volumeID)
      (Issues L (staging driver withSystemd connectErr limit req)) post
      ((onMachine (Csi.mountDevice withSystemd entry)).bind k) s := by
  refine Prog.safe_call (fun s' hk => ?_) fun s₁ r s₂ hk hstep => ?_
  · have hready' := hready.keeps hfits hk
    exact .mountDevice hready'.on htarget hready'.clear
  · rcases step_mountDevice hstep with ⟨e, rfl, rfl⟩ | ⟨rfl, m, hm, hpath, -, rfl⟩
    · exact herr s₂ _ (hready.keeps hfits hk)
    · refine hok _ ?_
      change (s₁.files.addMount m hm).mountsAt req.targetPath ≠ []
      rw [← htarget, ← hpath, FileSystem.mountsAt_addMount]
      exact List.cons_ne_nil _ _

/-- `GetDiskFormat` says that there is nothing on the device only if that is so. -/
theorem safe_getDiskFormat (hfits : Fits L (staging driver withSystemd connectErr limit req))
    {device : String} (hready : Ready L req device s) {k : Except String String → Action α}
    (herr : ∀ s' e, Ready L req device s' →
      Prog.Safe (server dev images) (Keeps L req.volumeID)
        (Issues L (staging driver withSystemd connectErr limit req)) post (k (.error e)) s')
    (hok : ∀ s' format, Ready L req device s' → (format = "" → s'.format req.volumeID = none) →
      Prog.Safe (server dev images) (Keeps L req.volumeID)
        (Issues L (staging driver withSystemd connectErr limit req)) post (k (.ok format)) s') :
    Prog.Safe (server dev images) (Keeps L req.volumeID)
      (Issues L (staging driver withSystemd connectErr limit req)) post
      ((onMachine (Csi.getDiskFormat device)).bind k) s := by
  refine Prog.safe_call (fun _ _ => .looks trivial) fun s₁ r s₂ hk hstep => ?_
  obtain ⟨rfl, hr⟩ := step_blkid hstep
  have hready' := hready.keeps hfits hk
  rcases hr with rfl | hfault
  · have hformat : s₂.formatOf device = s₂.format req.volumeID := by
      rw [State.formatOf, hready'.on]
      rfl
    rw [State.execBlkid, hformat]
    cases hfs : s₂.format req.volumeID with
    | none => exact hok s₂ "" hready' fun _ => hfs
    | some fstype =>
      have htype := s₂.typed _ _ hfs
      simp only [readMachine]
      rcases foldlM_blkidLine htype device _ rfl with ⟨e, he⟩ | ⟨pttype, he⟩
      · rw [he]
        exact herr s₂ _ hready'
      · rw [he]
        simp only
        split
        · exact hok s₂ _ hready' fun hempty => absurd hempty (by decide)
        · exact hok s₂ _ hready' fun hempty => absurd hempty htype.1
  · -- any other failure of the command is an error
    cases r with
    | done output => exact absurd rfl (hfault output).1
    | exit status output =>
      rcases status with _ | _ | _ | status
      · exact herr s₂ _ hready'
      · exact herr s₂ _ hready'
      · exact absurd rfl (hfault output).2
      · exact herr s₂ _ hready'
    | notFound => exact herr s₂ _ hready'
    | failed err => exact herr s₂ _ hready'

/-- What a success of the call means: there is a mount. -/
def StagePost (L : Layout) (req : StageRequest) (r : Except ε Unit) (s : State dev) : Prop :=
  r = .ok () → ∀ u, L.use req.targetPath = some u → s.files.mountsAt req.targetPath ≠ []

theorem stagePost_error {e : ε} : StagePost L req (.error e : Except ε Unit) s := by
  rintro ⟨⟩

theorem StagePost.keeps {r : Except ε Unit} {s' : State dev}
    (hfits : Fits L (staging driver withSystemd connectErr limit req))
    (h : StagePost L req r s) (hk : Keeps L req.volumeID s s') : StagePost L req r s' := by
  intro hr u hu
  rw [hk.mounts _ u hu (volume_of_fits hfits hu)]
  exact h hr u hu

theorem safe_ret_stage {r : Except ε Unit}
    (hfits : Fits L (staging driver withSystemd connectErr limit req))
    (h : StagePost L req r s) :
    Prog.Safe (server dev images) (Keeps L req.volumeID)
      (Issues L (staging driver withSystemd connectErr limit req)) (StagePost L req) (.ret r) s :=
  fun _ hk => h.keeps hfits hk

/-- A device that is formatted had no file system. -/
theorem safe_formatDevice (hfits : Fits L (staging driver withSystemd connectErr limit req))
    {entry : MountEntry} (htarget : entry.target = req.targetPath)
    (hready : Ready L req entry.source s) (hnone : s.format req.volumeID = none) :
    Prog.Safe (server dev images) (Keeps L req.volumeID)
      (Issues L (staging driver withSystemd connectErr limit req)) (StagePost L req)
      (onMachine (Csi.formatDevice withSystemd entry)) s := by
  refine Prog.safe_call (fun s' hk => ?_) fun s₁ r s₂ hk hstep => ?_
  · exact .mkfs (hready.keeps hfits hk).on (hk.format.trans hnone)
  · have hready₂ : Ready L req entry.source s₂ := by
      have hready₁ := hready.keeps hfits hk
      rcases step_mkfs hstep with rfl | ⟨v, hv, ht, -, rfl⟩
      · exact hready₁
      · exact ⟨hready₁.on, hready₁.clear⟩
    cases r with
    | done output =>
      change Prog.Safe _ _ _ _ (onMachine (Csi.mountDevice withSystemd _)) s₂
      rw [← Prog.bind_ret (onMachine _)]
      refine safe_mountDevice hfits
        { entry with fstype := if entry.fstype = "" then "ext4" else entry.fstype } htarget hready₂
        (fun _ _ _ => safe_ret_stage hfits stagePost_error) fun _ hmounted => ?_
      exact safe_ret_stage hfits fun _ _ _ => hmounted
    | _ => exact safe_ret_stage hfits stagePost_error

theorem safe_mountOrFormat (hfits : Fits L (staging driver withSystemd connectErr limit req))
    {entry : MountEntry} (htarget : entry.target = req.targetPath)
    (hready : Ready L req entry.source s) (readOnly : Bool) :
    Prog.Safe (server dev images) (Keeps L req.volumeID)
      (Issues L (staging driver withSystemd connectErr limit req)) (StagePost L req)
      (onMachine (Csi.mountOrFormat withSystemd readOnly entry)) s := by
  rw [Csi.mountOrFormat, Prog.bind_eq, onMachine_bind]
  refine safe_mountDevice hfits entry htarget hready (fun s₁ e hready₁ => ?_)
    fun _ hmounted => safe_ret_stage hfits fun _ _ _ => hmounted
  change Prog.Safe _ _ _ _ (onMachine ((Csi.getDiskFormat entry.source).bind _)) s₁
  rw [onMachine_bind]
  refine safe_getDiskFormat hfits hready₁ (fun _ _ _ => safe_ret_stage hfits stagePost_error)
    fun s₂ format hready₂ hnone => ?_
  simp only
  split
  · rename_i hempty
    split
    · exact safe_ret_stage hfits stagePost_error
    · exact safe_formatDevice hfits htarget hready₂ (hnone hempty)
  · split <;> exact safe_ret_stage hfits stagePost_error

/-- **`FormatAndMount`.** -/
theorem safe_formatAndMount (hfits : Fits L (staging driver withSystemd connectErr limit req))
    {device : String} (hready : Ready L req device s) (options : List String) :
    Prog.Safe (server dev images) (Keeps L req.volumeID)
      (Issues L (staging driver withSystemd connectErr limit req)) (StagePost L req)
      (onMachine (Csi.formatAndMount withSystemd device req.targetPath req.fsType options)) s := by
  rw [Csi.formatAndMount]
  split
  · exact safe_mountOrFormat hfits rfl hready _
  · refine Prog.safe_call (fun _ _ => .looks trivial) fun s₁ r s₂ hk hstep => ?_
    obtain rfl := step_looks (q := .fsck device) trivial hstep
    have hready' := hready.keeps hfits hk
    cases r with
    | exit status output =>
      -- only the exit code 4 is an error
      rcases status with _ | _ | _ | _ | _ | status
      case succ.succ.succ.succ.zero => exact safe_ret_stage hfits stagePost_error
      all_goals exact safe_mountOrFormat hfits rfl hready' _
    | _ => exact safe_mountOrFormat hfits rfl hready' _

theorem safe_mountVolume (hfits : Fits L (staging driver withSystemd connectErr limit req))
    (hclear : Clear L req.targetPath s) :
    Prog.Safe (server dev images) (Keeps L req.volumeID)
      (Issues L (staging driver withSystemd connectErr limit req)) (StagePost L req)
      (onMachine (Csi.mountVolume withSystemd connectErr limit req.volumeID req.targetPath
        req.fsType)) s := by
  rw [Csi.mountVolume, Prog.bind_eq, onMachine_bind, onMachine_onMachine]
  refine Prog.safe_bind (Keeps.refl L _) ((safe_createDevice hfits hclear).mono ?_)
  rintro (e | device) s₁ ⟨hclear₁, hdevice⟩
  · exact safe_ret_stage hfits stagePost_error
  · change Prog.Safe _ _ _ _ (onMachine ((Csi.formatAndMount _ _ _ _ _).bind _)) s₁
    rw [onMachine_bind]
    refine Prog.safe_bind (Keeps.refl L _)
      ((safe_formatAndMount hfits ⟨hdevice device rfl, hclear₁⟩ []).mono ?_)
    rintro (e | ⟨⟩) s₂ hpost
    · exact safe_ret_stage hfits stagePost_error
    · exact safe_ret_stage hfits fun _ => hpost rfl

/-- A new directory is no mount point. -/
theorem stat_of_mkdirAll {fs fs' : FileSystem} {path : String} (hmissing : fs.dir path = .missing)
    (hstep : FileSystem.server.Step (.mkdirAll path) fs (.ok () : Except OsError Unit) fs') :
    fs'.stat path = .ok (fs'.parentDev path) := by
  rcases hstep with ⟨-, rfl⟩ | ⟨⟨e, he⟩, -⟩
  · have hexec : (FileSystem.exec (.mkdirAll path) fs).2 = fs.makeDirectory path := by
      simp only [FileSystem.exec, FileSystem.execMkdirAll, hmissing]
    change (FileSystem.exec (.mkdirAll path) fs).2.stat path =
      .ok ((FileSystem.exec (.mkdirAll path) fs).2.parentDev path)
    rw [hexec]
    have hfree : ¬ fs.IsMounted path := FileSystem.not_isMounted_of_missing hmissing
    exact FileSystem.stat_of_not_isMounted hfree (by simp [FileSystem.makeDirectory])
  · cases he

/-- A mount is seen by its device. -/
theorem mountsAt_ne_of_check {fs : FileSystem} {path : String}
    (h : fs.isLikelyNotMountPoint path = .ok false) : fs.mountsAt path ≠ [] := by
  intro hnone
  have hfree : ¬ fs.IsMounted path := not_not_intro hnone
  by_cases hdir : fs.dir path = .missing
  · obtain ⟨err, herr, -⟩ := FileSystem.stat_of_missing hdir
    rw [FileSystem.isLikelyNotMountPoint, herr] at h
    cases h
  · rw [FileSystem.isLikelyNotMountPoint, FileSystem.stat_of_not_isMounted hfree hdir] at h
    simp [Except.map] at h

/-- **`NodeStageVolume`.** -/
theorem safe_nodeStageVolume (hfits : Fits L (staging driver withSystemd connectErr limit req))
    (hcheck : req.check = none) :
    Prog.Safe (server dev images) (Keeps L req.volumeID)
      (Issues L (staging driver withSystemd connectErr limit req)) (StagePost L req)
      (onMachine (driver.nodeStageVolume withSystemd connectErr limit req)) s := by
  rw [Csi.Driver.nodeStageVolume, hcheck]
  refine Prog.safe_call (fun _ _ => .looks trivial) fun s₁ r s₂ _ hstep => ?_
  obtain ⟨rfl, hr⟩ := step_check hstep
  rcases hr with rfl | ⟨e, rfl, he⟩
  · cases hstat : s₂.files.stat req.targetPath with
    | error err =>
      rw [FileSystem.isLikelyNotMountPoint, hstat]
      cases hnot : err.isNotExist with
      | true =>
        have hmissing := (FileSystem.isNotExist_of_stat hstat).1 hnot
        simp only [readMachine, readCheck, Except.map, hnot, if_true]
        refine Prog.safe_call (fun _ _ => .mkdirAll rfl) fun s₃ r s₄ hk hmkdir => ?_
        obtain ⟨fs, hdev, hfs, rfl⟩ := step_files hmkdir
        cases r with
        | error err => exact safe_ret_stage hfits stagePost_error
        | ok done =>
          refine safe_mountVolume hfits fun u hu => stat_of_mkdirAll ?_ hfs
          rw [hk.dir _ u hu (volume_of_fits hfits hu), hmissing]
      | false =>
        simp only [readMachine, readCheck, Except.map, hnot]
        exact safe_ret_stage hfits stagePost_error
    | ok number =>
      by_cases hnumber : number = s₂.files.parentDev req.targetPath
      · have hcheck : s₂.files.isLikelyNotMountPoint req.targetPath = .ok true := by
          simp [FileSystem.isLikelyNotMountPoint, hstat, hnumber, Except.map]
        rw [hcheck]
        exact safe_mountVolume hfits fun u _ => by rw [hstat, hnumber]
      · have hcheck : s₂.files.isLikelyNotMountPoint req.targetPath = .ok false := by
          simp [FileSystem.isLikelyNotMountPoint, hstat, hnumber, Except.map]
        rw [hcheck]
        exact safe_ret_stage hfits fun _ _ _ => mountsAt_ne_of_check hcheck
  · simp only [readMachine, readCheck, he]
    exact safe_ret_stage hfits stagePost_error

end Stage

/-! ## NodeUnstageVolume -/

section Unstage

variable {driver : Driver} {connectErr : Option String} {v p : String}

theorem DeviceIssues.unstaging {q : Request} (hq : DeviceIssues (.deleteDevice connectErr v) s q) :
    Issues L (.nodeUnstageVolume driver connectErr v p) s q := by
  obtain ⟨q', rfl, hq'⟩ := hq
  generalize hh : s.host = h at hq'
  cases hq' with
  | probe node => exact .looks trivial
  | deliver reply => exact .looks trivial
  | list => exact .looks trivial
  | stop hwhere =>
    subst hh
    exact .stop hwhere

theorem safe_deleteDevice :
    Prog.Safe (server dev images) (Keeps L v) (DeviceIssues (.deleteDevice connectErr v))
      (fun _ _ => True) (onHost (Csi.Local.deleteDevice connectErr v)) s :=
  safe_onHost (c := .deleteDevice connectErr v) (Csi.Local.safe_deleteDevice connectErr)

/-- What the call makes of the answer of `deleteDevice`. -/
def unstageAnswer : Except String Unit → Except Status Unit
  | .error err => .error ⟨.internal, err⟩
  | .ok () => .ok ()

/-- The call, past its checks: the path is unmounted, and then the device is deleted. -/
theorem onHost_unstageVolume (driver : Driver) (connectErr : Option String) (hp : p ≠ "")
    (hv : v ≠ "") :
    ∃ k : Except Csi.Host.CommandError Unit → Action (Except Status Unit),
      onHost (driver.nodeUnstageVolume (.localSPDK connectErr) v p) =
        .call (.files (.umount p)) k ∧
      (∀ e, ∃ status, k (.error e) = .ret (.error status)) ∧
      k (.ok ()) = (onHost (Csi.Local.deleteDevice connectErr v)).bind fun r =>
        .ret (unstageAnswer r) := by
  have heq : driver.nodeUnstageVolume (.localSPDK connectErr) v p =
      Csi.unstageVolume (.localSPDK connectErr) v p := by cases driver <;> rfl
  rw [heq, Csi.unstageVolume, if_neg hp, if_neg hv]
  refine ⟨_, rfl, fun e => ⟨_, rfl⟩, ?_⟩
  change onHost ((Csi.Local.deleteDevice connectErr v).bind _) = _
  rw [onHost_bind]
  congr
  funext r
  rcases r with e | ⟨⟩ <;> rfl

theorem safe_nodeUnstageVolume (hp : p ≠ "") (hv : v ≠ "") :
    Prog.Safe (server dev images) (Keeps L v) (Issues L (.nodeUnstageVolume driver connectErr v p))
      (fun _ _ => True) (onHost (driver.nodeUnstageVolume (.localSPDK connectErr) v p)) s := by
  obtain ⟨k, hk, herr, hok⟩ := onHost_unstageVolume driver connectErr hp hv
  rw [hk]
  refine Prog.safe_call (fun _ _ => .unstage) fun s₁ r s₂ _ _ => ?_
  rcases r with e | ⟨⟩
  · obtain ⟨status, hstatus⟩ := herr e
    rw [hstatus]
    exact fun _ _ => trivial
  · rw [hok]
    exact Prog.safe_map (safe_deleteDevice.mono_may fun _ _ hq => hq.unstaging)

end Unstage

/-! ## NodePublishVolume and NodeUnpublishVolume -/

/-- The requests about files that do not mount anything, and change nothing but one path. -/
def Unmounts (target : String) : FileSystem.Request → Prop
  | .mkdirAll _ => False
  | .mount _ => False
  | .umount path => path = target
  | .remove path => path = target
  | _ => True

theorem Unmounts.issues {target v : String} {c : Call} (hplace : c.place = some (target, .target v))
    {q : FileSystem.Request} (hq : Unmounts target q) : Issues L c s (.files q) := by
  cases q with
  | mkdirAll path => exact hq.elim
  | mount entry => exact hq.elim
  | umount path => exact .umount (v := v) (by rw [hplace, hq])
  | remove path => exact .remove (v := v) (by rw [hplace, hq])
  | _ => exact .looks trivial

section Unpublish

variable {target : String}

theorem only_removePath : (Csi.removePath target).Only (Unmounts target) := by
  refine ⟨rfl, fun r => ?_⟩
  cases r <;> trivial

theorem only_unmountMountPoint : (Csi.unmountMountPoint target).Only (Unmounts target) := by
  refine ⟨rfl, fun r => ?_⟩
  rcases r with e | ⟨⟩
  · trivial
  · refine ⟨trivial, fun r => ?_⟩
    rcases r with e | _ | _
    · trivial
    · trivial
    · exact only_removePath

theorem only_findMountPoint : (Csi.findMountPoint target).Only (Unmounts target) := by
  refine ⟨trivial, fun r => ?_⟩
  rcases r with e | path
  · trivial
  · refine ⟨trivial, fun r => ?_⟩
    rcases r with e | mountPoints <;> trivial

theorem only_isNotMountPoint : (Csi.isNotMountPoint target).Only (Unmounts target) := by
  refine ⟨trivial, fun r => ?_⟩
  rcases r with e | _ | _
  · change Prog.Only _ (if e.isPermission then Csi.findMountPoint target else _)
    split
    · exact only_findMountPoint
    · trivial
  · trivial
  · exact only_findMountPoint

theorem only_pathExists : (Csi.pathExists target).Only (Unmounts target) := by
  refine ⟨trivial, fun r => ?_⟩
  rcases r with e | number
  · simp only
    split
    · trivial
    · split <;> trivial
  · trivial

/-- All that `UnmountPath` changes is the path. -/
theorem only_unmountPath : (Csi.unmountPath target).Only (Unmounts target) := by
  rw [Csi.unmountPath, Prog.bind_eq]
  refine Prog.only_bind only_pathExists fun r => ?_
  rcases r with ⟨_ | _, err⟩
  · trivial
  · rcases err with _ | err
    · refine Prog.only_bind only_isNotMountPoint fun r => ?_
      rcases r with ⟨_ | _, _ | err⟩
      · exact only_unmountMountPoint
      · trivial
      · exact only_removePath
      · trivial
    · simp only
      split
      · exact only_unmountMountPoint
      · trivial

theorem only_nodeUnpublishVolume (driver : Driver) (req : UnpublishRequest) :
    (driver.nodeUnpublishVolume req).Only (Unmounts req.targetPath) := by
  rw [Csi.Driver.nodeUnpublishVolume]
  split
  · trivial
  · refine Prog.only_bind only_unmountPath fun r => ?_
    rcases r with e | ⟨⟩ <;> trivial

end Unpublish

section Publish

variable {driver : Driver} {withSystemd : Bool} {req : PublishRequest}

/-- The call. -/
abbrev publishing (driver : Driver) (withSystemd : Bool) (req : PublishRequest) : Call :=
  .nodePublishVolume driver withSystemd req

/-- There is a mount on the target, if that is set aside for anything. -/
def OnTarget (L : Layout) (req : PublishRequest) (s : State dev) : Prop :=
  ∀ u, L.use req.targetPath = some u → s.files.mountsAt req.targetPath ≠ []

/-- What a success of the call means. -/
def PublishPost (L : Layout) (req : PublishRequest) (r : PublishResult) (s : State dev) : Prop :=
  r = .response → OnTarget L req s

theorem OnTarget.keeps (hfits : Fits L (publishing driver withSystemd req)) {s' : State dev}
    (h : OnTarget L req s) (hk : Keeps L req.volumeID s s') : OnTarget L req s' := by
  intro u hu
  have hv : u.volume = req.volumeID := by
    rw [hfits _ _ rfl u hu]
    rfl
  rw [hk.mounts _ u hu hv]
  exact h u hu

theorem safe_internalError (err : Option String) (message : String) :
    Prog.Safe (server dev images) (Keeps L req.volumeID)
      (Issues L (publishing driver withSystemd req)) (PublishPost L req)
      (.ret (Csi.internalError err message)) s := by
  intro s' _ hresponse
  cases err <;> cases hresponse

theorem safe_mountFailed (err : String) :
    Prog.Safe (server dev images) (Keeps L req.volumeID)
      (Issues L (publishing driver withSystemd req)) (PublishPost L req)
      (onFiles (Csi.mountFailed req.targetPath err)) s :=
  Prog.safe_call (fun _ _ => .remove (v := req.volumeID) rfl) fun _ _ _ _ _ =>
    safe_internalError _ _

/-- Cleaning up is no success. -/
theorem safe_cleanUp (err : String) :
    Prog.Safe (server dev images) (Keeps L req.volumeID)
      (Issues L (publishing driver withSystemd req)) (PublishPost L req)
      (onFiles (Csi.cleanUp req.targetPath err)) s := by
  refine Prog.safe_call (fun _ _ => .looks trivial) fun _ r s₁ _ _ => ?_
  rcases r with e | _ | _
  · exact safe_internalError _ _
  · refine Prog.safe_call (fun _ _ => .umount (v := req.volumeID) rfl) fun _ r s₂ _ _ => ?_
    rcases r with e | ⟨⟩
    · exact safe_internalError _ _
    · refine Prog.safe_call (fun _ _ => .looks trivial) fun _ r s₃ _ _ => ?_
      rcases r with e | _ | _
      · exact safe_internalError _ _
      · exact safe_internalError _ _
      · exact safe_mountFailed err
  · exact safe_mountFailed err

/-- A bind mount is there after the first of its two commands, and the second one does not undo
it. -/
theorem safe_doMount (hfits : Fits L (publishing driver withSystemd req)) {α : Type}
    {post : α → State dev → Prop} (entry : MountEntry)
    (hsource : entry.source = req.stagingTargetPath) (htarget : entry.target = req.targetPath)
    (hagain : "remount" ∈ entry.options → OnTarget L req s) {k : Except String Unit → Action α}
    (herr : ∀ s' e, Prog.Safe (server dev images) (Keeps L req.volumeID)
      (Issues L (publishing driver withSystemd req)) post (k (.error e)) s')
    (hok : ∀ s', OnTarget L req s' → Prog.Safe (server dev images) (Keeps L req.volumeID)
      (Issues L (publishing driver withSystemd req)) post (k (.ok ())) s') :
    Prog.Safe (server dev images) (Keeps L req.volumeID)
      (Issues L (publishing driver withSystemd req)) post
      ((onFiles (Csi.Mounter.doMount withSystemd entry)).bind k) s := by
  refine Prog.safe_call (fun _ _ => .bindMount hsource htarget) fun s₁ r s₂ hk hstep => ?_
  obtain ⟨fs, hdev, hfs, rfl⟩ := step_files hstep
  rcases FileSystem.step_mount hfs with ⟨e, rfl, rfl⟩ | ⟨rfl, hremount, rfl⟩ | ⟨rfl, -, m, hpath,
    htable⟩
  · exact herr _ _
  · exact hok _ ((hagain hremount).keeps hfits hk)
  · refine hok _ fun u hu => ?_
    change fs.mountsAt req.targetPath ≠ []
    rw [FileSystem.mountsAt, htable, ← htarget, ← hpath]
    simp

theorem safe_bindTarget (hfits : Fits L (publishing driver withSystemd req)) :
    Prog.Safe (server dev images) (Keeps L req.volumeID)
      (Issues L (publishing driver withSystemd req)) (PublishPost L req)
      (onFiles (Csi.bindTarget withSystemd req)) s := by
  have hmount : ∀ s₁, Prog.Safe (server dev images) (Keeps L req.volumeID)
      (Issues L (publishing driver withSystemd req)) (PublishPost L req)
      (onFiles ((Csi.Mounter.mount withSystemd req.stagingTargetPath req.targetPath "ext4"
        req.options).bind fun
          | .error err => Csi.cleanUp req.targetPath err
          | .ok () => .ret .response)) s₁ := by
    intro s₁
    rw [Csi.Mounter.mount, Csi.isBind_options]
    simp only [if_true, Prog.bind_eq]
    rw [Prog.bind_assoc, onFiles_bind]
    refine safe_doMount hfits _ rfl rfl (fun hremount => absurd hremount (by simp))
      (fun _ _ => safe_cleanUp _) fun s₂ hon => ?_
    change Prog.Safe _ _ _ _ (onFiles ((Csi.Mounter.doMount _ _).bind _)) s₂
    rw [onFiles_bind]
    refine safe_doMount hfits _ rfl rfl (fun _ => hon) (fun _ _ => safe_cleanUp _) fun s₃ hon => ?_
    exact fun s₄ hk _ => hon.keeps hfits hk
  refine Prog.safe_call (fun _ _ => .mkdirAll rfl) fun _ r s₁ _ _ => ?_
  rcases r with e | ⟨⟩
  · -- that the directory exists is no error
    change Prog.Safe _ _ _ _ (onFiles ((if e.isExist then _ else _ : Csi.Mounting _).bind _)) s₁
    split
    · exact hmount s₁
    · exact safe_internalError _ _
  · exact hmount s₁

/-- **`NodePublishVolume`.** -/
theorem safe_nodePublishVolume (hfits : Fits L (publishing driver withSystemd req))
    (hcheck : req.check = none) :
    Prog.Safe (server dev images) (Keeps L req.volumeID)
      (Issues L (publishing driver withSystemd req)) (PublishPost L req)
      (onFiles (driver.nodePublishVolume withSystemd req)) s := by
  rw [Csi.Driver.nodePublishVolume, hcheck]
  refine Prog.safe_call (fun _ _ => .looks trivial) fun s₁ r s₂ _ hstep => ?_
  obtain ⟨rfl, hr⟩ := step_check hstep
  rcases r with e | _ | _
  · change Prog.Safe _ _ _ _ (onFiles (if (some e).any (fun e => !e.isNotExist) then _ else
      if true then _ else _)) s₂
    cases hnot : e.isNotExist with
    | true =>
      rw [if_neg (by simp [hnot])]
      exact safe_bindTarget hfits
    | false =>
      rw [if_pos (by simp [hnot])]
      exact safe_internalError _ _
  · have hon : OnTarget L req s₂ := by
      rcases hr with hr | ⟨e, he, -⟩
      · exact fun u _ => mountsAt_ne_of_check hr.symm
      · cases he
    exact fun s₃ hk _ => hon.keeps hfits hk
  · exact safe_bindTarget hfits

end Publish

/-! ## The controller server -/

/-- The requests of the calls that only look at SPDK, or make or delete block devices. -/
def Provisions : Call → Rpc → Prop
  | _, .getBDevs _ => True
  | .createVolume _ _ req, .constructMallocBDev args => args.name = req.name ∧ req.name ≠ ""
  | .deleteVolume _ _ v, .deleteBDev name => name = v
  | _, _ => False

theorem Provisions.issues {c : Call} {q : Rpc} (hq : Provisions c q) :
    Issues L c s (.spdk q) := by
  cases q with
  | getBDevs name => exact .looks trivial
  | constructMallocBDev args =>
    cases c with
    | createVolume driver connectErr req => exact .construct hq.1 hq.2
    | _ => exact hq.elim
  | deleteBDev name =>
    cases c with
    | deleteVolume driver connectErr v =>
      obtain rfl : name = v := hq
      exact .delete
    | _ => exact hq.elim
  | _ => cases c <;> exact hq.elim

theorem safe_onSpdk {c : Call} {α : Type} {p : Spdk.Client α} (h : p.Only (Provisions c)) :
    Prog.Safe (server dev images) (Keeps L c.key) (Issues L c) (fun _ _ => True) (onSpdk p) s :=
  Prog.safe_of_only (A := fun q => ∃ q', q = .spdk q' ∧ Provisions c q')
    (Prog.Only.embed h fun q hq => ⟨q, rfl, hq⟩)
    (by rintro s _ ⟨q, rfl, hq⟩; exact hq.issues) fun _ _ => trivial

/-- The local backend looks for the volume, and makes it. -/
theorem only_local {driver : Driver} {connectErr : Option String} {req : CreateVolumeRequest}
    (hne : req.name ≠ "") : (Csi.Local.createVolume req.name req.requiredBytes).Only
      (Provisions (.createVolume driver connectErr req)) := by
  have hconstruct : (Csi.Local.constructVolume req.name req.requiredBytes).Only
      (Provisions (.createVolume driver connectErr req)) := by
    rw [Csi.Local.constructVolume]
    split
    · trivial
    · refine ⟨⟨rfl, hne⟩, fun r => ?_⟩
      cases r <;> trivial
  refine ⟨trivial, fun r => ?_⟩
  rcases r with err | bdevs
  · change Prog.Only _ (if Spdk.isJSONError err Spdk.errorInvalidParams = false then _ else _)
    split
    · trivial
    · exact hconstruct
  · rcases bdevs with _ | ⟨bdev, _ | ⟨bdev', bdevs⟩⟩
    · exact hconstruct
    · change Prog.Only _ (if _ then _ else _)
      split <;> trivial
    · exact hconstruct

theorem only_createVolume (driver : Driver) (connectErr : Option String)
    (req : CreateVolumeRequest) :
    (driver.createVolume (.localSPDK connectErr) req).Only
      (Provisions (.createVolume driver connectErr req)) := by
  have hwith : ∀ attributes, (Csi.createVolumeWith attributes (.localSPDK connectErr) req).Only
      (Provisions (.createVolume driver connectErr req)) := by
    intro attributes
    rw [Csi.createVolumeWith]
    cases hcheck : Csi.checkCreateVolume req with
    | some e => trivial
    | none =>
      refine Prog.only_bind ?_ fun r => by cases r <;> trivial
      cases connectErr with
      | some err => trivial
      | none => exact only_local (Csi.name_ne_of_check hcheck)
  cases driver with
  | oimDriver => exact hwith _
  | oimDriver03 => exact hwith _

theorem only_deleteVolume (driver : Driver) (connectErr : Option String) (v : String) :
    (driver.deleteVolume (.localSPDK connectErr) v).Only
      (Provisions (.deleteVolume driver connectErr v)) := by
  rw [Csi.Driver.deleteVolume]
  split
  · trivial
  · refine Prog.only_bind ?_ fun r => by rcases r with e | ⟨⟩ <;> trivial
    cases connectErr with
    | some err => trivial
    | none =>
      refine ⟨rfl, fun r => ?_⟩
      rcases r with err | ⟨⟩
      · change Prog.Only _ (if Spdk.isJSONError err Spdk.errorInvalidParams = false then _ else _)
        split <;> trivial
      · trivial

theorem only_validateVolumeCapabilities (driver : Driver) (connectErr : Option String)
    (req : Csi.ValidateRequest) :
    (driver.validateVolumeCapabilities (.localSPDK connectErr) req).Only
      (Provisions (.validateVolumeCapabilities driver connectErr req)) := by
  rw [Csi.Driver.validateVolumeCapabilities]
  split
  · trivial
  · split
    · trivial
    · refine Prog.only_bind ?_ fun r => by rcases r with e | ⟨⟩ <;> trivial
      cases connectErr with
      | some err => trivial
      | none =>
        refine ⟨trivial, fun r => ?_⟩
        rcases r with err | _ | ⟨bdev, _ | ⟨bdev', bdevs⟩⟩ <;> trivial

/-! ## All calls -/

/-- What the answer of a call means. -/
def Post (L : Layout) : Call → Answer → State dev → Prop
  | .nodeStageVolume _ _ _ _ req, .done r, s => StagePost L req r s
  | .nodePublishVolume _ _ req, .published r, s => PublishPost L req r s
  | _, _, _ => True

theorem unstage_args (driver : Driver) (connectErr : Option String) {v p : String}
    (h : (Call.nodeUnstageVolume driver connectErr v p).early = none) : p ≠ "" ∧ v ≠ "" := by
  rw [Call.early] at h
  split_ifs at h with hp hv
  exact ⟨hp, hv⟩

/-- The discipline of the calls. -/
def discipline (dev : Numbering) (images : ConstructRBDBDevArgs → Option UInt64) (L : Layout) :
    Discipline (server dev images) (calls L) where
  rely := Keeps L
  may c := Issues L c.1
  post c := Post L c.1
  refl := Keeps.refl L
  trans _ _ _ _ := Keeps.trans
  frame c k s q r s' hq hstep hk := hq.keeps c.2 hstep hk
  outline := by
    rintro ⟨c, hfits⟩ s hearly
    cases c with
    | createVolume driver connectErr req =>
      exact Prog.safe_map (safe_onSpdk (only_createVolume driver connectErr req))
    | deleteVolume driver connectErr v =>
      exact Prog.safe_map (safe_onSpdk (only_deleteVolume driver connectErr v))
    | validateVolumeCapabilities driver connectErr req =>
      exact Prog.safe_map (safe_onSpdk (only_validateVolumeCapabilities driver connectErr req))
    | nodeStageVolume driver withSystemd connectErr limit req =>
      exact Prog.safe_map (safe_nodeStageVolume hfits (Option.map_eq_none_iff.1 hearly))
    | nodeUnstageVolume driver connectErr v p =>
      have hne := unstage_args driver connectErr hearly
      exact Prog.safe_map (safe_nodeUnstageVolume hne.1 hne.2)
    | nodePublishVolume driver withSystemd req =>
      exact Prog.safe_map (safe_nodePublishVolume hfits (Option.map_eq_none_iff.1 hearly))
    | nodeUnpublishVolume driver req =>
      refine Prog.safe_map (Prog.safe_of_only (A := fun q => ∃ q', q = .files q' ∧
        Unmounts req.targetPath q') ?_ ?_ fun _ _ => trivial)
      · exact Prog.Only.embed (only_nodeUnpublishVolume driver req) fun q hq => ⟨q, rfl, hq⟩
      · rintro s _ ⟨q, rfl, hq⟩
        exact hq.issues (v := req.volumeID) rfl

end Oim.Node
