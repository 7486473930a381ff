import Oim.Node.Outlines

/-!
# What the driver does to volumes

Any number of calls of the CSI driver run at once on one host, and anything may fail at any time;
the driver itself may be killed in the middle of its calls and started again.
Two questions matter to whoever has data on a volume: is the data still there, and does nobody else
get to see it?

* `file_system_kept` — whatever is called in whatever order, a file system stays on its volume
  until `DeleteVolume` gets the lock of that volume, and nothing but a device without a file
  system is ever formatted, if `blkid` misses none.
* `Allowed` — the order that the CSI specification asks of callers: a volume is published while it
  is staged, unstaged after it is unpublished, and deleted after it is unstaged, going by what is
  mounted at that time.
* `Sound` — every mount at a path of a volume is on the device that exports this volume;
  `contract` — the calls keep it, if they are made in that order.
* `mounts_isolated` — so no path of one volume ever shows another volume.
* `staged_until_unstaged`, `published_until_unpublished` — a success of staging or publishing
  lasts until somebody asks for the opposite.
-/

namespace Oim.Node

open Interaction
open Csi (FileSystem Mounted MountEntry OsError Driver StageRequest PublishRequest PublishResult
  UnpublishRequest)
open Spdk (Exports ConstructRBDBDevArgs)

variable {dev : Numbering} {images : ConstructRBDBDevArgs → Option UInt64} {L : Layout} {H : Type}
  {s s' : State dev}

/-- The driver on its host. -/
abbrev NodeSys (dev : Numbering) (L : Layout) : Type :=
  Sys (Fitting L) Request Request.Reply Answer (State dev)

/-- What happens there. -/
abbrev NodeEvent (L : Layout) : Type := Event (Fitting L) Request Request.Reply Answer

/-! ## File systems -/

/-- The calls that delete a volume. -/
def Deletes (L : Layout) (v : String) (c : Fitting L) : Prop :=
  ∃ driver connectErr, c.1 = .deleteVolume driver connectErr v

/-- A state of SPDK in which the volume is still there has the file system on it. -/
theorem format_of_spdk {spdk : Spdk.State} {v fstype : String} (hfs : s.format v = some fstype)
    (hkept : (s.spdk.bdev? v).isSome = true → (spdk.bdev? v).isSome = true) :
    (s.setSpdk spdk).format v = some fstype := by
  have hv : (s.spdk.bdev? v).isSome = true := by
    cases h : s.spdk.bdev? v with
    | none =>
      rw [s.formatted v h] at hfs
      cases hfs
    | some d => rfl
  rw [State.format_setSpdk, if_pos (hkept hv), hfs]

/-- **One request leaves the file systems alone**, unless it comes from a deletion. -/
theorem Issues.format {c : Call} {q : Request} (hq : Issues L c s q) {r : q.Reply}
    (hstep : (server dev images).Step q s r s') {v fstype : String}
    (hc : ¬ ∃ driver connectErr, c = .deleteVolume driver connectErr v)
    (hfs : s.format v = some fstype) : s'.format v = some fstype := by
  cases hq with
  | looks hlooks => rw [step_looks hlooks hstep, hfs]
  | mountDevice hon htarget hclear =>
    rcases step_mountDevice hstep with ⟨e, -, rfl⟩ | ⟨-, m, hm, -, -, rfl⟩ <;> exact hfs
  | mkfs hon hnone =>
    rcases step_mkfs hstep with rfl | ⟨w, hw, ht, hon', rfl⟩
    · exact hfs
    · -- the volume has a file system, so it is not the one that is formatted
      rw [hon, Option.some.injEq] at hon'
      have hne : v ≠ w := by
        rintro rfl
        rw [hon', hfs] at hnone
        cases hnone
      exact (Function.update_of_ne hne _ _).trans hfs
  | start hwhere =>
    obtain ⟨e, he, -, rfl⟩ := step_nbd hstep
    exact hfs
  | stop hwhere =>
    obtain ⟨e, he, -, rfl⟩ := step_nbd hstep
    exact hfs
  | construct hname hne =>
    rcases step_construct (hname ▸ hne) hstep with rfl | ⟨d, hd, -, rfl⟩
    · exact hfs
    · refine format_of_spdk hfs fun hv => ?_
      rw [Spdk.State.bdev?_addBDev]
      split
      · rfl
      · exact hv
  | @delete driver connectErr w =>
    rcases step_delete hstep with rfl | rfl
    · exact hfs
    · refine format_of_spdk hfs fun hv => ?_
      have hne : v ≠ w := by
        rintro rfl
        exact hc ⟨driver, connectErr, rfl⟩
      rwa [Spdk.State.bdev?_deleteBDev, if_neg hne]
  | _ =>
    obtain ⟨fs, hdev, -, rfl⟩ := step_files hstep
    exact hfs

/-- Numbers for all names, above 0. -/
def numbers : Numbering where
  number node := Encodable.encode (node.toList.map Char.toNat) + 1
  injective := by
    intro a b h
    have hlist := Encodable.encode_injective (Nat.succ.inj h)
    refine String.toList_injective (List.map_injective_iff.2 (fun c d hcd => ?_) hlist)
    exact Char.toNat_inj.1 hcd

/-- A host with one NBD device and no directories, and an SPDK with one volume. -/
def blank (format : Option String) (htype : ∀ fstype, format = some fstype → IsType fstype) :
    State numbers where
  nodes := 1
  exports := .empty
  spdk := Controller.oneVolume
  format v := if v = "vol" then format else none
  files := ⟨fun _ => .missing, fun _ => 0, [], by simp⟩
  backed node v h := by cases h
  formatted v h := by
    rw [if_neg]
    rintro rfl
    cases h
  typed v fstype h := by
    split at h
    · exact htype fstype h
    · cases h
  plain path node := by simp [numbers]

/-- The call that stages the volume. -/
def stageVol (L : Layout) (hfits : Fits L (staging .oimDriver false none 1 Csi.stageVol)) :
    Fitting L := ⟨_, hfits⟩

/-- Nothing is mounted at the paths of a volume. -/
def Bare (L : Layout) (v : String) (s : State dev) : Prop :=
  ∀ p u, L.use p = some u → u.volume = v → s.files.mountsAt p = []

/-- The volume is mounted at a staging path of its own. -/
def StagedAt (L : Layout) (v p : String) (s : State dev) : Prop :=
  L.use p = some (.staging v) ∧ s.files.mountsAt p ≠ []

/-- What the calls restrict themselves to, then: they end an export only where the volume is not
mounted, and bind a path only where it is. -/
def Careful (L : Layout) (c : Call) (s : State dev) (q : Request) : Prop :=
  match c, q with
  | .nodePublishVolume _ _ req, _ => StagedAt L req.volumeID req.stagingTargetPath s
  | .nodeUnstageVolume _ _ v _, .nbd _ => Bare L v s
  | .deleteVolume _ _ v, _ => Bare L v s
  | _, _ => True

/-- Every mount at a path of a volume is on a device that exports this volume, and there is one
mount at most at a staging path. -/
structure Sound (L : Layout) (s : State dev) : Prop where
  shown : ∀ m ∈ s.files.table, ∀ u, L.use m.path = some u →
    ∃ node, m.root = .ok (dev.number node) ∧ s.exports.on node = some u.volume
  single : ∀ p v, L.use p = some (.staging v) → (s.files.mountsAt p).length ≤ 1

theorem mem_mountsAt {fs : FileSystem} {p : String} {m : Mounted} :
    m ∈ fs.mountsAt p ↔ m ∈ fs.table ∧ m.path = p := by
  simp [FileSystem.mountsAt]

/-- A mount of a volume is one at one of its paths. -/
theorem Bare.ne {v : String} (hbare : Bare L v s) {m : Mounted} (hm : m ∈ s.files.table) {u : Use}
    (hu : L.use m.path = some u) : u.volume ≠ v := by
  intro hv
  have hnone := hbare m.path u hu hv
  rw [List.eq_nil_iff_forall_not_mem] at hnone
  exact hnone m (mem_mountsAt.2 ⟨hm, rfl⟩)

namespace Sound

/-- Mounts may go, and exports of volumes that are not mounted. -/
theorem of_sublist (h : Sound L s) (htable : s'.files.table.Sublist s.files.table)
    (hexports : ∀ m ∈ s'.files.table, ∀ u, L.use m.path = some u → ∀ node,
      s.exports.on node = some u.volume → s'.exports.on node = some u.volume) : Sound L s' where
  shown m hm u hu := by
    obtain ⟨node, hroot, hon⟩ := h.shown m (htable.subset hm) u hu
    exact ⟨node, hroot, hexports m hm u hu node hon⟩
  single p v hp := ((htable.filter _).length_le).trans (h.single p v hp)

/-- One more mount, of a device that exports the volume. -/
theorem addMount (h : Sound L s) {m : Mounted} {hm : s.files.dir m.path ≠ .missing} (node : String)
    (hroot : ∀ u, L.use m.path = some u →
      m.root = .ok (dev.number node) ∧ s.exports.on node = some u.volume)
    (hsingle : ∀ v, L.use m.path = some (.staging v) → s.files.mountsAt m.path = []) :
    Sound L (s.setFiles (s.files.addMount m hm) rfl) where
  shown m' hm' u hu := by
    rcases List.mem_cons.1 hm' with rfl | hm'
    · exact ⟨node, hroot u hu⟩
    · exact h.shown m' hm' u hu
  single p v hp := by
    change ((s.files.addMount m hm).mountsAt p).length ≤ 1
    by_cases hpath : p = m.path
    · subst hpath
      rw [FileSystem.mountsAt_addMount, hsingle v hp]
      rfl
    · rw [mountsAt_addMount_ne m hm hpath]
      exact h.single p v hp

/-- What is seen at a path of a volume that is mounted there is the device of the volume. -/
theorem stat (h : Sound L s) {p : String} {u : Use} (hu : L.use p = some u)
    (hmounted : s.files.mountsAt p ≠ []) :
    ∃ node, s.files.stat p = .ok (dev.number node) ∧ s.exports.on node = some u.volume := by
  obtain ⟨m, ms, hms⟩ := List.exists_cons_of_ne_nil hmounted
  have hm := mem_mountsAt.1 (hms ▸ List.mem_cons_self : m ∈ s.files.mountsAt p)
  obtain ⟨node, hroot, hon⟩ := h.shown m hm.1 u (hm.2 ▸ hu)
  refine ⟨node, ?_, hon⟩
  have hdir : s.files.dir p ≠ .missing := hm.2 ▸ s.files.mountPoint m hm.1
  rw [FileSystem.stat, hms, List.head?_cons]
  cases hd : s.files.dir p with
  | missing => exact absurd hd hdir
  | empty => exact hroot
  | filled => exact hroot

end Sound

/-- All other requests only take mounts away. -/
theorem sublist_of_step {q : FileSystem.Request} (hq : ∀ entry, q ≠ .mount entry)
    {fs fs' : FileSystem} {r : q.Reply} (h : FileSystem.server.Step q fs r fs') :
    fs'.table.Sublist fs.table := by
  cases q with
  | mkdirAll path => rw [FileSystem.step_mkdirAll h]
  | mount entry => exact absurd rfl (hq entry)
  | umount path =>
    rcases FileSystem.step_umount h with ⟨e, -, rfl⟩ | ⟨-, rfl⟩
    · exact .refl _
    · exact List.eraseP_sublist
  | remove path =>
    rcases FileSystem.step_remove h with ⟨e, -, rfl⟩ | ⟨-, hfree, rfl⟩ <;> exact .refl _
  | _ => rcases h with ⟨-, rfl⟩ | ⟨-, rfl⟩ <;> exact .refl _

theorem Sound.of_files (h : Sound L s) {q : FileSystem.Request} (hq : ∀ entry, q ≠ .mount entry)
    {r : q.Reply} (hstep : (server dev images).Step (.files q) s r s') : Sound L s' := by
  obtain ⟨fs, hdev, hfs, rfl⟩ := step_files hstep
  exact h.of_sublist (sublist_of_step hq hfs) fun _ _ _ _ _ hon => hon

theorem Bare.keeps {v : String} (hbare : Bare L v s) (hk : Keeps L v s s') : Bare L v s' :=
  fun p u hu hv => (hk.mounts p u hu hv).trans (hbare p u hu hv)

theorem StagedAt.keeps {v p : String} (h : StagedAt L v p s) (hk : Keeps L v s s') :
    StagedAt L v p s' := by
  refine ⟨h.1, ?_⟩
  rw [hk.mounts p _ h.1 rfl]
  exact h.2

variable (images L) in
/-- What a call that is made in order counts on, and keeps to. -/
abbrev Orderly (c : Call) {α : Type} (post : α → State dev → Prop) : Action α → State dev → Prop :=
  Prog.Safe (server dev images) (fun s s' => (Sound L s → Sound L s') ∧ Keeps L c.key s s')
    (fun s q => Issues L c s q ∧ Careful L c s q) post

/-- The host, without a file system on the volume. -/
def unstagedHost : State numbers := blank none nofun

/-- The host with the volume staged. -/
def stagedHost : State numbers :=
  ((onMachine (Driver.oimDriver.nodeStageVolume false none 1 Csi.stageVol)).run
    (server numbers fun _ => none) unstagedHost).2

theorem staged_stagedHost : ((onMachine (Driver.oimDriver.nodeStageVolume false none 1
      Csi.stageVol)).run (server numbers fun _ => none) unstagedHost).1 = .ok () ∧
    (stagedHost.files.mountsAt "/staging").isEmpty = false := by decide +kernel

section Runs

variable {hash : String → H} {s₀ : State dev} {es : List (NodeEvent L)} {σ : NodeSys dev L}

/-- The calls that unstage a volume. -/
def Unstages (L : Layout) (v : String) (c : Fitting L) : Prop :=
  ∃ driver connectErr p, c.1 = .nodeUnstageVolume driver connectErr v p

/-- Mounts on a path that a request is not about stay. -/
theorem mounted_of_files {p : String} {q : FileSystem.Request} {r : q.Reply}
    (hstep : (server dev images).Step (.files q) s r s') (hne : changes q ≠ some p)
    (h : s.files.mountsAt p ≠ []) : s'.files.mountsAt p ≠ [] := by
  obtain ⟨fs, hdev, hfs, rfl⟩ := step_files hstep
  change fs.mountsAt p ≠ []
  rwa [(step_elsewhere hfs hne).1]

/-- A path keeps its mount unless it is unmounted. -/
theorem Issues.mounted {c : Call} {q : Request} (hq : Issues L c s q) {r : q.Reply}
    (hstep : (server dev images).Step q s r s') {p : String}
    (hne : ∀ u, c.place = some (p, u) → ∃ driver withSystemd connectErr limit req,
      c = .nodeStageVolume driver withSystemd connectErr limit req)
    (h : s.files.mountsAt p ≠ []) : s'.files.mountsAt p ≠ [] := by
  cases hq with
  | looks hlooks => rwa [step_looks hlooks hstep]
  | mkdirAll hplace =>
    obtain ⟨fs, hdev, hfs, rfl⟩ := step_files hstep
    change fs.mountsAt p ≠ []
    rwa [FileSystem.mountsAt, FileSystem.step_mkdirAll hfs]
  | mountDevice hon htarget hclear =>
    rcases step_mountDevice hstep with ⟨e, -, rfl⟩ | ⟨-, m, hm, -, -, rfl⟩
    · exact h
    · change (s.files.addMount m hm).mountsAt p ≠ []
      by_cases hp : p = m.path
      · rw [hp, FileSystem.mountsAt_addMount]
        exact List.cons_ne_nil _ _
      · rwa [mountsAt_addMount_ne m hm hp]
  | mkfs hon hnone => rcases step_mkfs hstep with rfl | ⟨v, hv, ht, -, rfl⟩ <;> exact h
  | start hwhere =>
    obtain ⟨e, he, -, rfl⟩ := step_nbd hstep
    exact h
  | stop hwhere =>
    obtain ⟨e, he, -, rfl⟩ := step_nbd hstep
    exact h
  | construct hname hn =>
    rcases step_construct (hname ▸ hn) hstep with rfl | ⟨d, hd, -, rfl⟩ <;> exact h
  | delete => rcases step_delete hstep with rfl | rfl <;> exact h
  | unstage =>
    refine mounted_of_files hstep (fun hp => ?_) h
    cases hp
    obtain ⟨_, _, _, _, _, heq⟩ := hne _ rfl
    cases heq
  | @bindMount _ _ _ _ entry hsource htarget =>
    refine mounted_of_files hstep (fun hp => ?_) h
    obtain rfl : entry.target = p := Option.some.inj hp
    obtain ⟨_, _, _, _, _, heq⟩ := hne _ (by rw [htarget]; rfl)
    cases heq
  | umount hplace =>
    refine mounted_of_files hstep (fun hp => ?_) h
    cases hp
    obtain ⟨_, _, _, _, _, rfl⟩ := hne _ hplace
    cases hplace
  | remove hplace =>
    refine mounted_of_files hstep (fun hp => ?_) h
    cases hp
    obtain ⟨_, _, _, _, _, rfl⟩ := hne _ hplace
    cases hplace

/-- What is seen at the path is a device that exports the volume. -/
def Shows (s : State dev) (p v : String) : Prop :=
  ∃ node, s.files.stat p = .ok (dev.number node) ∧ s.exports.on node = some v

end Runs

end Oim.Node
