import Oim.Controller.Exclusive
import Oim.Csi.CreateDevice

/-!
# The disk of a volume, across machines

With the remote backend a volume gets to a node in several steps, on different machines: the OIM
controller puts it behind a target of its vhost controller and answers with the number of that
target; the guest, whose virtual SCSI host bus adapter this is, lists a block device for each
target; and the CSI driver in the guest looks for the one with that number, and makes a device node
for it.  Meanwhile the controller maps and unmaps other volumes, and targets are used again.

* `GuestView` — what the listing of the guest has to do with the state of SPDK.
* `remote_node_backed` — a device node that the driver makes is that of a disk behind which there
  is the volume, and stays so until the volume is released.
* `remote_node_made` — it is made once the disk is listed.
-/

namespace Oim.System

open Interaction
open Controller (CallEvent CallSys MappedBy Releases exclusive_of_empty lun_of_mappedBy)
open Csi (Node DiskNode Listing Wakeup LeadsTo Selects Fatal Appears Created)
open Csi.DevTree (Suffix)
open Registry (Value)
open Spdk (State ConstructRBDBDevArgs)

variable {c : Controller} {addr : PCIAddress} {s : State} {l : Listing}

/-! ## The guest -/

/-- **What the guest sees.**  `addr` is the address of the host bus adapter in the guest: whatever
block devices it has are SCSI disks, or partitions of them, each on the LUN 0 of a target that the
vhost controller has something behind. -/
def GuestView (c : Controller) (addr : PCIAddress) (s : State) (l : Listing) : Prop :=
  ∀ x ∈ l.nodes, (∃ r, LeadsTo addr x.entry r) → ∃ d : DiskNode, d.toNode = x ∧ d.lun = 0 ∧
    (s.lun (s.resolve c.vhostSCSI) d.scsiTarget).isSome = true

/-- Targets have single digits. -/
theorem target_lt {name : String} {t : ℕ} (h : (s.lun name t).isSome = true) : t < 8 := by
  obtain ⟨v, hv⟩ := Option.isSome_iff_exists.1 h
  obtain ⟨b, -, hb⟩ := Option.bind_eq_some_iff.1 hv
  have ht : b.backend.hasTarget t = true := Spdk.Backend.hasTarget_of_lun hb
  cases hbackend : b.backend with
  | scsi f =>
    rw [hbackend] at ht
    exact of_decide_eq_true ht
  | block => simp [hbackend, Spdk.Backend.hasTarget] at ht

namespace GuestView

variable {disk : SCSIDisk} {x : Node}

/-- What is listed with the number of a target is a disk on that target. -/
theorem exists_disk (h : GuestView c addr s l) (hx : x ∈ l.nodes)
    (hselects : Selects addr (some disk) x.entry) :
    ∃ d : DiskNode, d.toNode = x ∧ d.slot.address = addr ∧ d.scsiTarget = disk.target := by
  obtain ⟨r, hleads, -⟩ := id hselects
  obtain ⟨d, rfl, -, hsome⟩ := h x hx ⟨r, hleads⟩
  obtain ⟨haddr, htarget, -⟩ := d.selects_iff.1 hselects
  have hlt : d.scsiTarget < 8 := target_lt hsome
  refine ⟨d, rfl, haddr, ?_⟩
  rwa [Csi.asHex_eq_iff.2 (by omega)] at htarget

/-- No link of the adapter makes the search panic. -/
theorem not_fatal (h : GuestView c addr s l) (hx : x ∈ l.nodes) :
    ¬ Fatal addr (some disk) x.entry := by
  rintro ⟨hsome, hfatal⟩
  have hleads : ∃ r, LeadsTo addr x.entry r := by
    rcases hfatal with ⟨r, hr, -⟩ | ⟨r, -, hr, -⟩ <;> exact ⟨r, hr⟩
  obtain ⟨d, rfl, -⟩ := h x hx hleads
  exact d.not_fatal' ⟨hsome, hfatal⟩

end GuestView

/-! ## The driver -/

section Driver

variable {images : ConstructRBDBDevArgs → Option UInt64} {H : Type} {hash : String → H} {s₀ : State}
  {v : String} {reply : MapVolumeReply}

/-- The volume is where the reply says, as long as it is mapped. -/
theorem lun_of_mapped (h₀ : ∀ n t, s₀.lun n t = none) {evs : List CallEvent} {σ : CallSys}
    (hrun : Run (Spdk.server images) c.calls hash (Sys.start s₀) evs σ)
    (hmap : MappedBy evs v reply) :
    reply.scsiDisk.lun = 0 ∧
      σ.srv.lun (σ.srv.resolve c.vhostSCSI) reply.scsiDisk.target = some v := by
  obtain ⟨t, rfl, hlun⟩ := lun_of_mappedBy (exclusive_of_empty h₀) hrun hmap
  exact ⟨rfl, hlun⟩

/-- **The driver gets the disk of the volume.**  The calls of the controller may be interleaved in
any way, and any request to SPDK and any system call of the driver may fail.  Each listing that the
driver sees is made by the guest while the volume is mapped with the given reply.  Then a device
node that the driver makes is that of a whole disk on the adapter, and as long as the volume is
mapped with this reply the volume is what is behind that disk. -/
theorem remote_node_backed (c : Controller) (images : ConstructRBDBDevArgs → Option UInt64)
    (hash : String → H) (s₀ : State) (h₀ : ∀ n t, s₀.lun n t = none) (v controllerID : String)
    (reply : MapVolumeReply) (values : Except Status (List Value)) (addr : PCIAddress)
    (haddr : Csi.Remote.createDevice controllerID v values (.ok reply) = some (.ok addr))
    (rounds : List (Listing × Wakeup))
    (hview : ∀ b ∈ rounds, ∃ evs σ,
      Run (Spdk.server images) c.calls hash (Sys.start s₀) evs σ ∧ MappedBy evs v reply ∧
        GuestView c addr σ.srv b.1)
    (watchErr : Option String) (suffix : Suffix) (tree tree' : Csi.DevTree) (devNode dir : String)
    (hnode : Prog.Runs (Csi.DevTree.server suffix) (Csi.Remote.createNode controllerID v values
      (.ok reply) watchErr (rounds.map fun b => b.1.round b.2)) tree (.device devNode dir) tree') :
    ∃ b ∈ rounds, ∃ d : DiskNode, d.toNode ∈ b.1.nodes ∧ d.partition = none ∧
      d.slot.address = addr ∧
      tree'.entry (pathElements devNode) = some (.blockDevice d.major d.minor) ∧
      ∀ evs σ, Run (Spdk.server images) c.calls hash (Sys.start s₀) evs σ →
        MappedBy evs v reply →
          σ.srv.lun (σ.srv.resolve c.vhostSCSI) d.scsiTarget = some v := by
  obtain ⟨addr', haddr', b, hb, x, hx, hdisk, hselects, hentry⟩ :=
    (Csi.runs_createNode hnode).2 devNode dir rfl
  obtain rfl : addr = addr' := Except.ok.inj (Option.some.inj (haddr.symm.trans haddr'))
  obtain ⟨evs, σ, hrun, hmap, hguest⟩ := hview b hb
  obtain ⟨d, rfl, hslot, htarget⟩ := hguest.exists_disk hx hselects
  refine ⟨b, hb, d, hx, hdisk, hslot, hentry, fun evs' σ' hrun' hmap' => ?_⟩
  rw [htarget]
  exact (lun_of_mapped h₀ hrun' hmap').2

/-- The adapter that `Controller.configured` is about. -/
def adapter : Csi.Slot := ⟨⟨0, 0, 0x15, 0⟩, by decide, by decide, by decide, by decide⟩

theorem zero_lt_limit : 0 < 10000 := by decide

theorem sda_name : ['s', 'd', 'a'] ≠ [] ∧ '/' ∉ ['s', 'd', 'a'] := by decide

theorem no_partition : ∀ p ∈ (none : Option (List Char)), p ≠ [] ∧ '/' ∉ p := by
  rintro p ⟨⟩

/-- A disk on its target 0. -/
def sda : DiskNode where
  major := 8
  minor := 0
  path := Csi.busPath Csi.pciRoot [adapter] ("virtio3/host0".toList ++ Csi.scsiDir 0 0 0 0 [])
  disk := ['s', 'd', 'a']
  partition := none
  disk_name := sda_name
  partition_name := no_partition
  root := Csi.pciRoot
  slot := adapter
  rest := "virtio3/host0".toList
  host := 0
  channel := 0
  scsiTarget := 0
  lun := 0
  path_eq := rfl
  host_lt := zero_lt_limit
  channel_lt := zero_lt_limit
  target_lt := zero_lt_limit
  lun_lt := zero_lt_limit
  rest_free := by decide +kernel

/-- No disks. -/
def noDisks : Listing := ⟨[], .nil, by simp⟩

/-- Nothing but that disk. -/
def listing : Listing where
  nodes := [sda.toNode]
  sorted := List.pairwise_singleton _ _
  proper := by
    intro x hx
    rw [List.mem_singleton.1 hx]
    exact ⟨by simp [Canonical, sda], by decide, by rintro p ⟨⟩, by decide, by decide⟩

/-- A directory `/dev` without files. -/
def devTree : Csi.DevTree where
  entry path := if path = [] ∨ path = ["dev"] then some .directory else none
  parent := by
    intro path name h
    have hdev : path ++ [name] = ["dev"] := by
      by_contra hne
      simp [hne] at h
    have hempty : path = [] := by
      have hlength := congrArg List.length hdev
      simpa using hlength
    simp [hempty]

/-- The first number that is tried is free. -/
def one : Suffix := ⟨fun _ _ => ['1'], by simp, by simp⟩

/-- The volume is mapped, and not used in any other way. -/
theorem mapped_vol : ∃ evs σ, Run (Spdk.server fun _ => none) Controller.configured.calls id
    (Sys.start Controller.oneVolume) evs σ ∧
      MappedBy evs "vol" (Controller.configured.mapReply 0) := by
  obtain ⟨es, -, hrun⟩ := run_alone (Spdk.server fun _ => none) Controller.configured.calls id
    Controller.oneVolume 0 (c := .mapVolume "vol" .malloc) rfl
  exact ⟨_, _, hrun, _, 0, .malloc, [], rfl, by simp⟩

theorem guestView_listing {s : State} (h : s.lun (s.resolve "vhost.0") 0 = some "vol") :
    GuestView Controller.configured ⟨0, 0, 0x15, 0⟩ s listing := by
  intro x hx _
  refine ⟨sda, (List.mem_singleton.1 hx).symm, rfl, ?_⟩
  exact Option.isSome_iff_exists.2 ⟨"vol", h⟩

/-- The driver finds it in its first round. -/
def nodeVol : Created × Csi.DevTree :=
  (Csi.Remote.createNode "host-0" "vol" (.ok []) (.ok (Controller.configured.mapReply 0)) none
    [listing.round .tick]).run (Csi.DevTree.server one) devTree

theorem nodeVol_device : ∃ devNode dir, nodeVol.1 = .device devNode dir := by
  have h : (match nodeVol.1 with | .device _ _ => true | _ => false) = true := by decide +kernel
  generalize nodeVol.1 = created at h ⊢
  cases created with
  | device devNode dir => exact ⟨devNode, dir, rfl⟩
  | _ => cases h

/-- Its node is that of the disk. -/
theorem remote_node_backed_vol : ∃ devNode dir, nodeVol.1 = .device devNode dir ∧
    nodeVol.2.entry (pathElements devNode) = some (.blockDevice 8 0) := by
  obtain ⟨devNode, dir, hdevice⟩ := nodeVol_device
  obtain ⟨evs, σ, hrun, hmap⟩ := mapped_vol
  have hnode := Prog.runs_run (Csi.DevTree.server one) (Csi.Remote.createNode "host-0" "vol"
    (.ok []) (.ok (Controller.configured.mapReply 0)) none [listing.round .tick]) devTree
  refine ⟨devNode, dir, hdevice, ?_⟩
  obtain ⟨b, hb, d, hd, -, -, hentry, -⟩ := remote_node_backed Controller.configured _ id
    Controller.oneVolume Controller.lun_oneVolume "vol" "host-0" (Controller.configured.mapReply 0)
    (.ok []) ⟨0, 0, 0x15, 0⟩ rfl [(listing, .tick)]
    (by
      intro b hb
      rw [List.mem_singleton.1 hb]
      exact ⟨evs, σ, hrun, hmap, guestView_listing
        (lun_of_mapped Controller.lun_oneVolume hrun hmap).2⟩)
    none one devTree nodeVol.2 devNode dir (hdevice ▸ hnode)
  rw [List.mem_singleton.1 hb] at hd
  rw [hentry, show d.toNode = sda.toNode from List.mem_singleton.1 hd]
  rfl

/-- **The driver gets a node.**  Once `MapVolume` has returned, the driver waits as long as the disk
is not listed, whatever else is; and when it is listed, in front of its partitions if it has any,
its node is made, if there is a place for the temporary directory. -/
theorem remote_node_made (c : Controller) (images : ConstructRBDBDevArgs → Option UInt64)
    (hash : String → H) (s₀ : State) (h₀ : ∀ n t, s₀.lun n t = none) (v controllerID : String)
    (reply : MapVolumeReply) (values : Except Status (List Value)) (addr : PCIAddress)
    (haddr : Csi.Remote.createDevice controllerID v values (.ok reply) = some (.ok addr))
    (evs : List CallEvent) (σ : CallSys)
    (hrun : Run (Spdk.server images) c.calls hash (Sys.start s₀) evs σ)
    (hmap : MappedBy evs v reply) (before : List (Listing × Wakeup))
    (hbefore : ∀ b ∈ before, (b.2 = .changed ∨ b.2 = .tick) ∧ (∃ s, GuestView c addr s b.1) ∧
      ∀ d : DiskNode, d.toNode ∈ b.1.nodes → d.slot.address = addr →
        d.scsiTarget ≠ reply.scsiDisk.target)
    (l : Listing) (hguest : GuestView c addr σ.srv l) (d : DiskNode) (hd : d.toNode ∈ l.nodes)
    (hdisk : d.partition = none) (hslot : d.slot.address = addr) (hlun : d.lun = 0)
    (htarget : d.scsiTarget = reply.scsiDisk.target)
    (hfirst : ∀ e : DiskNode, e.toNode ∈ l.nodes → e.slot.address = addr →
      e.scsiTarget = reply.scsiDisk.target → e.toNode = d.toNode ∨ d.name < e.name)
    (suffix : Suffix) (tree : Csi.DevTree) (hdir : tree.entry ["dev"] = some .directory)
    (hfree : tree.entry (pathElements (suffix.name tree "/dev" (String.ofList d.disk))) = none)
    (event : Wakeup) (after : List (Listing × Wakeup)) :
    ∃ devNode dir tree', (Csi.Remote.createNode controllerID v values (.ok reply) none
        ((before ++ (l, event) :: after).map fun b => b.1.round b.2)).run
          (Csi.DevTree.server suffix) tree = (.device devNode dir, tree') ∧
      tree'.entry (pathElements devNode) = some (.blockDevice d.major d.minor) := by
  obtain ⟨hzero, hbacked⟩ := lun_of_mapped h₀ hrun hmap
  have hlt : d.scsiTarget < 8 := by
    rw [htarget]
    exact target_lt (by rw [hbacked]; rfl)
  have happears : Appears addr (some reply.scsiDisk) before l d.toNode := by
    refine ⟨fun b hb => ?_, hd, hdisk, ?_, fun y hy hdecides => ?_⟩
    · obtain ⟨hevent, ⟨s, hs⟩, hother⟩ := hbefore b hb
      refine ⟨hevent, fun y hy => ⟨fun hselects => ?_, hs.not_fatal hy⟩⟩
      obtain ⟨e, rfl, heslot, hetarget⟩ := hs.exists_disk hy hselects
      exact hother e hy heslot hetarget
    · rw [d.selects_iff, Csi.asHex_eq_iff.2 (by omega), hlun, hzero]
      exact ⟨hslot, htarget, Csi.asHex_eq_iff.2 (by omega)⟩
    · rcases hdecides with hselects | hfatal
      · obtain ⟨e, rfl, heslot, hetarget⟩ := hguest.exists_disk hy hselects
        exact hfirst e hy heslot hetarget
      · exact absurd hfatal (hguest.not_fatal hy)
  exact Csi.run_createNode haddr happears hdir hfree event after

/-- The same disk, seen in the second round. -/
theorem remote_node_made_vol : ∃ devNode dir tree', (Csi.Remote.createNode "host-0" "vol" (.ok [])
    (.ok (Controller.configured.mapReply 0)) none
      [noDisks.round .changed, listing.round .tick]).run
        (Csi.DevTree.server one) devTree = (.device devNode dir, tree') ∧
    tree'.entry (pathElements devNode) = some (.blockDevice 8 0) := by
  obtain ⟨evs, σ, hrun, hmap⟩ := mapped_vol
  exact remote_node_made Controller.configured _ id Controller.oneVolume Controller.lun_oneVolume
    "vol" "host-0" (Controller.configured.mapReply 0) (.ok []) ⟨0, 0, 0x15, 0⟩ rfl evs σ hrun hmap
    [(noDisks, .changed)]
    (by
      intro b hb
      rw [List.mem_singleton.1 hb]
      exact ⟨Or.inl rfl, ⟨Controller.oneVolume, by rintro x ⟨⟩⟩, by rintro d ⟨⟩⟩)
    listing (guestView_listing (lun_of_mapped Controller.lun_oneVolume hrun hmap).2) sda
    (List.mem_singleton_self _) rfl rfl rfl rfl
    (fun e he _ _ => Or.inl (List.mem_singleton.1 he)) one devTree rfl (by decide) .tick []

end Driver

end Oim.System
