import Oim.Csi.DeviceNode
import Oim.Csi.RemoteDevice
import Oim.Csi.SysPaths

/-!
# From the address to the device node

All of `remoteSPDK.createDevice` (`pkg/oim-csi-driver/remote.go`): once it has the address of the
device, it waits for a link to it to show up under `/sys/dev/block`, and makes a node for it.

* `waitForDevice` — the loop, given what it gets to see in each of its rounds; `waitLoop_eq` — the
  first round that does not try again decides.
* `createNode` — the code, on top of `Remote.createDevice`.
* `runs_createNode` — the node has the numbers of a link to a whole disk, and the link leads to the
  right device.  So what `findDev` makes of partitions (`findDev_disk_iff`) is an error here.
* `run_createNode` — the node is made once there is such a link.
-/

namespace Oim.Csi

open Interaction
open Registry (Value)

/-! ## Waiting -/

/-- What ends the pause between two rounds. -/
inductive Wakeup where
  /-- The context is done. -/
  | done
  /-- The watcher has seen a change. -/
  | changed
  /-- Five seconds have passed. -/
  | tick
  /-- The watcher has failed. -/
  | error (err : String)
  deriving DecidableEq

/-- A round of the loop: the links that are there, and what comes after them. -/
structure Round where
  files : Except String (List SysEntry)
  event : Wakeup

/-- What the loop comes to, errors as their text. -/
inductive Wait where
  /-- There has been no round yet that ends it. -/
  | waiting
  | panic
  | failed (err : String)
  | found (dev : String) (major minor : ℕ)
  deriving DecidableEq

/-- A number in the text format of protocol buffers, which leaves out zero. -/
def textNumber (name : String) (value : ℕ) : String :=
  if value = 0 then "" else name ++ ":" ++ toString value ++ " "

/-- The verb `%+v` on a `*oim.SCSIDisk`. -/
def scsiText : Option SCSIDisk → String
  | none => "<nil>"
  | some disk => textNumber "target" disk.target ++ textNumber "lun" disk.lun

section Waiting

variable (sys : String) (pciAddress : PCIAddress) (scsiDisk : Option SCSIDisk)

/-- The body of the loop of `waitForDevice`; it tries again for `none`. -/
def Round.outcome (r : Round) : Option Wait :=
  match findDev sys r.files pciAddress scsiDisk with
  | none => some .panic
  | some (.error err) => some (.failed (Status.text ⟨.internal, err⟩))
  | some (.ok (dev, major, minor)) =>
    if dev ≠ "" then some (.found dev major minor)
    else match r.event with
      | .done => some (.failed ("rpc error: code = DeadlineExceeded desc = " ++
          "timed out waiting for device " ++ prettyPCIAddress (some pciAddress) ++
          ", SCSI disk '" ++ scsiText scsiDisk ++ "'"))
      | .changed => none
      | .tick => none
      | .error err => some (.failed (Status.text ⟨.internal, "watching " ++ sys ++ ": " ++ err⟩))

/-- The loop of `waitForDevice`. -/
def waitLoop : List Round → Wait
  | [] => .waiting
  | r :: rounds =>
    match r.outcome sys pciAddress scsiDisk with
    | some w => w
    | none => waitLoop rounds

/-- `waitForDevice`; `watchErr` is what becomes of setting up the watcher. -/
def waitForDevice (watchErr : Option String) (rounds : List Round) : Wait :=
  match watchErr with
  | some err => .failed (Status.text ⟨.internal, err⟩)
  | none => waitLoop sys pciAddress scsiDisk rounds

end Waiting

/-! ## The code -/

/-- `remoteSPDK.createDevice`; the first half of it is `Remote.createDevice`. -/
def Remote.createNode (controllerID volumeID : String) (values : Except Status (List Value))
    (mapped : Except Status MapVolumeReply) (watchErr : Option String) (rounds : List Round) :
    Prog DevTree.Request DevTree.Request.Reply Created :=
  match createDevice controllerID volumeID values mapped with
  | none => .ret .panic
  | some (.error e) => .ret (.failed e none)
  | some (.ok complete) =>
    let scsiDisk := mapped.toOption.map MapVolumeReply.scsiDisk
    match waitForDevice "/sys/dev/block" complete scsiDisk watchErr rounds with
    | .waiting => .ret .waiting
    | .panic => .ret .panic
    | .failed err => .ret (.failed (.wrap err "wait for device") none)
    | .found dev major minor => makeNode dev major minor

/-! ## Links of the kernel -/

/-- The names of a disk and of its partition can be names of files, the disk is not called
`block`, and the numbers are in the range of the kernel. -/
structure Node.Proper (x : Node) : Prop where
  disk : Canonical [String.ofList x.disk]
  not_block : x.disk ≠ ['b', 'l', 'o', 'c', 'k']
  partition : ∀ p ∈ x.partition, Canonical [String.ofList p]
  major_lt : x.major.toNat < 2 ^ 12
  minor_lt : x.minor.toNat < 2 ^ 20

/-- What is behind the last `/block/`, if that is a disk and its partition. -/
theorem afterLast_block_partition {b disk part : List Char} (hdisk : '/' ∉ disk)
    (hpart : '/' ∉ part) (hne : disk ≠ ['b', 'l', 'o', 'c', 'k']) :
    Pattern.afterLast block (b ++ (block ++ (disk ++ '/' :: part))) =
      some (disk ++ '/' :: part) := by
  refine Pattern.afterLast_append (by simp [block]) (fun b' m h hb hpre => ?_) b
  obtain ⟨z, rfl⟩ := hpre
  obtain ⟨c, b', rfl⟩ := List.exists_cons_of_ne_nil hb
  -- compare the pieces between the slashes: in front of another `/block/` there is only `block`
  have hpiece : ∀ w : List Char, '/' ∉ w → w.splitOnP (· == '/') = [w] := fun w hw =>
    (Fields.pieces_singleton hw).eq
  have happend : ∀ l l' : List Char, (l ++ '/' :: l').splitOnP (· == '/') =
      l.splitOnP (· == '/') ++ l'.splitOnP (· == '/') := fun l l' =>
    List.splitOnP_append_cons l l' (by simp)
  have htail : ['b', 'l', 'o', 'c', 'k'] ++ '/' :: (disk ++ '/' :: part) =
      b' ++ '/' :: (['b', 'l', 'o', 'c', 'k'] ++ '/' :: z) := by
    simpa [block] using (List.cons.inj h).2
  have hsplit := congrArg (List.splitOnP (· == '/')) htail
  rw [happend, happend, happend, happend, hpiece _ hdisk, hpiece _ hpart,
    hpiece ['b', 'l', 'o', 'c', 'k'] (by decide)] at hsplit
  obtain ⟨x, xs, hxs⟩ := List.exists_cons_of_ne_nil (List.splitOnP_ne_nil (· == '/') b')
  obtain ⟨y, ys, hys⟩ := List.exists_cons_of_ne_nil (List.splitOnP_ne_nil (· == '/') z)
  rw [hxs, hys] at hsplit
  have hlen := congrArg List.length hsplit
  simp only [List.length_append, List.length_cons, List.length_nil] at hlen
  obtain rfl : xs = [] := List.eq_nil_of_length_eq_zero (by omega)
  simp only [List.cons_append, List.nil_append, List.cons.injEq] at hsplit
  exact hne hsplit.2.1

namespace Node

/-- The elements of the path of a disk or of a partition of it. -/
def elements (x : Node) : List String :=
  String.ofList x.disk :: x.partition.toList.map String.ofList

theorem ofList_device (x : Node) : String.ofList x.device = joinRegistryPath x.elements := by
  rw [← String.toList_inj, toList_join, String.toList_ofList]
  cases hp : x.partition with
  | none => simp [device, elements, hp, Fields.join]
  | some p => simp [device, elements, hp, Fields.join]

theorem partition_eq_none {x : Node} {name : String} (h : x.elements = [] ++ [name]) :
    x.partition = none := by
  cases hp : x.partition with
  | none => rfl
  | some p => simp [elements, hp] at h

theorem Proper.canonical {x : Node} (h : x.Proper) : Canonical x.elements := by
  intro e he
  rcases List.mem_cons.1 he with rfl | he
  · exact h.disk _ (List.mem_singleton_self _)
  · obtain ⟨p, hp, rfl⟩ := List.mem_map.1 he
    exact h.partition p (Option.mem_toList.1 hp) _ (List.mem_singleton_self _)

/-- A link is found under the name of what it leads to, with its own numbers. -/
theorem Proper.accept_eq {x : Node} (h : x.Proper) (sys : String) :
    accept sys x.name x.target =
      .found (joinRegistryPath x.elements) x.major.toNat x.minor.toNat := by
  rw [← ofList_device]
  refine accept_linkName ?_
  rw [target, String.toList_ofList]
  cases hp : x.partition with
  | none =>
    rw [device_of_none hp]
    exact afterLast_block x.disk_name.2
  | some p =>
    have hdevice : x.device = x.disk ++ '/' :: p := by simp [device, hp]
    rw [hdevice]
    exact afterLast_block_partition x.disk_name.2 (x.partition_name p hp).2 h.not_block

end Node

/-- A listing of `/sys/dev/block`. -/
structure Listing where
  nodes : List Node
  sorted : nodes.Pairwise fun a b => a.name < b.name
  proper : ∀ x ∈ nodes, x.Proper

/-- A round in which the links are those of a listing. -/
def Listing.round (l : Listing) (event : Wakeup) : Round :=
  ⟨.ok (l.nodes.map Node.entry), event⟩

/-! ## The loop -/

section Loop

variable {sys : String} {pciAddress : PCIAddress} {scsiDisk : Option SCSIDisk}

/-- **The first round that does not try again decides.** -/
theorem waitLoop_eq (rounds : List Round) : waitLoop sys pciAddress scsiDisk rounds =
    (rounds.findSome? (Round.outcome sys pciAddress scsiDisk)).getD .waiting := by
  induction rounds with
  | nil => rfl
  | cons r rounds ih =>
    rw [waitLoop, List.findSome?_cons]
    cases r.outcome sys pciAddress scsiDisk with
    | none => exact ih
    | some w => rfl

theorem outcome_eq_found {r : Round} {dev : String} {major minor : ℕ}
    (h : r.outcome sys pciAddress scsiDisk = some (.found dev major minor)) :
    dev ≠ "" ∧ findDev sys r.files pciAddress scsiDisk = some (.ok (dev, major, minor)) := by
  unfold Round.outcome at h
  split at h
  · cases h
  · cases h
  · next dev' major' minor' hfind =>
    split_ifs at h with hdev
    · obtain ⟨rfl, rfl, rfl⟩ := by simpa using h
      exact ⟨hdev, hfind⟩
    · split at h <;> cases h

/-- What is found is what a search finds in one of the rounds. -/
theorem exists_round_of_found {rounds : List Round} {dev : String} {major minor : ℕ}
    (h : waitLoop sys pciAddress scsiDisk rounds = .found dev major minor) :
    ∃ r ∈ rounds, dev ≠ "" ∧
      findDev sys r.files pciAddress scsiDisk = some (.ok (dev, major, minor)) := by
  rw [waitLoop_eq] at h
  cases hsome : rounds.findSome? (Round.outcome sys pciAddress scsiDisk) with
  | none =>
    rw [hsome] at h
    cases h
  | some w =>
    rw [hsome, Option.getD_some] at h
    obtain ⟨r, hr, houtcome⟩ := List.exists_of_findSome?_eq_some hsome
    exact ⟨r, hr, outcome_eq_found (houtcome.trans (congrArg some h))⟩

/-- Among the links of the kernel, one that leads to what was asked for is found. -/
theorem exists_node_of_found {nodes : List Node} (hproper : ∀ x ∈ nodes, x.Proper) {dev : String}
    {major minor : ℕ} (hdev : dev ≠ "") (h : findDev sys (.ok (nodes.map Node.entry)) pciAddress
      scsiDisk = some (.ok (dev, major, minor))) :
    ∃ x ∈ nodes, Selects pciAddress scsiDisk x.entry ∧ dev = joinRegistryPath x.elements ∧
      major = x.major.toNat ∧ minor = x.minor.toNat := by
  rcases first_not_skip (fun x : Node => examine sys pciAddress scsiDisk x.entry) nodes with
    hall | ⟨before, x, after, rfl, hskip, hx⟩
  · rw [findDev_of_all_skip hall] at h
    simp only [Option.some.injEq, Except.ok.injEq, Prod.mk.injEq] at h
    exact absurd h.1.symm hdev
  · have hmem : x ∈ before ++ x :: after := by simp
    rw [findDev_of_skip hskip hx] at h
    have hentry : x.entry.target = .ok x.target := rfl
    have hname : x.entry.name = x.name := rfl
    rcases examine_spec sys pciAddress scsiDisk hentry with ⟨hsel, hex⟩ | ⟨-, hfatal | hex⟩
    · rw [hex, hname, (hproper x hmem).accept_eq] at h
      simp only [Verdict.result, Option.some.injEq, Except.ok.injEq, Prod.mk.injEq] at h
      exact ⟨x, hmem, hsel, h.1.symm, h.2.1.symm, h.2.2.symm⟩
    · rw [(examine_eq_panic_iff sys).2 hfatal] at h
      cases h
    · exact absurd hex hx

/-- While there is no link to the device yet, a round is followed by another one. -/
theorem outcome_eq_none {l : Listing} {event : Wakeup} (hevent : event = .changed ∨ event = .tick)
    (hnone : ∀ x ∈ l.nodes, ¬ Selects pciAddress scsiDisk x.entry ∧
      ¬ Fatal pciAddress scsiDisk x.entry) :
    (l.round event).outcome sys pciAddress scsiDisk = none := by
  have hskip : ∀ x ∈ l.nodes, examine sys pciAddress scsiDisk x.entry = .skip := by
    intro x hx
    by_contra hne
    exact ((x.examine_ne_skip_iff sys).1 hne).elim (hnone x hx).1 (hnone x hx).2
  rw [Round.outcome, Listing.round, findDev_of_all_skip hskip]
  rcases hevent with rfl | rfl
  · rfl
  · rfl

variable (pciAddress scsiDisk) in
/-- After some rounds without a link to the device, the first link to it, or a fatal one, is that
of a whole disk. -/
structure Appears (before : List (Listing × Wakeup)) (l : Listing) (x : Node) : Prop where
  before : ∀ b ∈ before, (b.2 = .changed ∨ b.2 = .tick) ∧ ∀ y ∈ b.1.nodes,
    ¬ Selects pciAddress scsiDisk y.entry ∧ ¬ Fatal pciAddress scsiDisk y.entry
  mem : x ∈ l.nodes
  disk : x.partition = none
  selects : Selects pciAddress scsiDisk x.entry
  first : ∀ y ∈ l.nodes, Selects pciAddress scsiDisk y.entry ∨ Fatal pciAddress scsiDisk y.entry →
    y = x ∨ x.name < y.name

section Appears

variable {before : List (Listing × Wakeup)} {l : Listing} {x : Node}
  (h : Appears pciAddress scsiDisk before l x)
include h

theorem Appears.findDev_eq : findDev sys (.ok (l.nodes.map Node.entry)) pciAddress scsiDisk =
    some (.ok (String.ofList x.disk, x.major.toNat, x.minor.toNat)) := by
  rcases findDev_sorted sys pciAddress scsiDisk l.sorted with ⟨hnone, -⟩ | ⟨y, hy, hfirst, hor⟩
  · exact absurd h.selects (hnone x h.mem)
  -- the link that decides is the one to the disk
  have hmatters : Selects pciAddress scsiDisk y.entry ∨ Fatal pciAddress scsiDisk y.entry :=
    hor.imp And.left fun hfatal => hfatal.2.1
  have heq : y = x := by
    rcases h.first y hy hmatters with heq | hlt
    · exact heq
    · rcases hfirst x h.mem (Or.inl h.selects) with heq | hlt'
      · exact heq.symm
      · exact absurd hlt (lt_asymm hlt')
  subst heq
  rcases hor with ⟨-, dev, -, hfind, hname⟩ | ⟨hnot, -, -⟩
  · rw [hfind, hname h.disk]
  · exact absurd h.selects hnot

/-- The loop ends with the disk. -/
theorem Appears.waitLoop_eq (event : Wakeup) (after : List (Listing × Wakeup)) :
    waitLoop sys pciAddress scsiDisk
      ((before ++ (l, event) :: after).map fun b => b.1.round b.2) =
        .found (String.ofList x.disk) x.major.toNat x.minor.toNat := by
  have hne : String.ofList x.disk ≠ "" :=
    ((l.proper x h.mem).disk _ (List.mem_singleton_self _)).1
  have hskip : (before.map fun b => b.1.round b.2).findSome?
      (Round.outcome sys pciAddress scsiDisk) = none := by
    rw [List.findSome?_eq_none_iff]
    intro r hr
    obtain ⟨b, hb, rfl⟩ := List.mem_map.1 hr
    exact outcome_eq_none (h.before b hb).1 (h.before b hb).2
  have hround : (l.round event).outcome sys pciAddress scsiDisk =
      some (.found (String.ofList x.disk) x.major.toNat x.minor.toNat) := by
    rw [Round.outcome, Listing.round, h.findDev_eq]
    simp only [if_pos hne]
  rw [Csi.waitLoop_eq, List.map_append, List.findSome?_append, hskip, List.map_cons,
    List.findSome?_cons, hround]
  rfl

end Appears

end Loop

/-! ## createDevice -/

open DevTree

/-- The node that is made for a link. -/
theorem nodeOf_makedev {x : Node} (h : x.Proper) : nodeOf (sIFBLK ||| 0x1b6)
    (makedev (Int64.ofNat x.major.toNat) (Int64.ofNat x.minor.toNat)) =
      .blockDevice x.major x.minor := by
  have hmode : (sIFBLK ||| 0x1b6) &&& 0xf000 = sIFBLK := by decide
  have hdecode := newDecodeDev_asInt h.major_lt h.minor_lt
  change nodeOf _ (makedev (asInt x.major) (asInt x.minor)) = _
  rw [nodeOf, if_pos hmode, hdecode]

section CreateDevice

variable {controllerID volumeID : String} {values : Except Status (List Value)}
  {mapped : Except Status MapVolumeReply} {watchErr : Option String} {suffix : Suffix}
  {tree tree' : DevTree}

/-- `createDevice` makes a node for what it has found, or it does nothing to the files. -/
theorem createNode_cases (controllerID volumeID : String) (values : Except Status (List Value))
    (mapped : Except Status MapVolumeReply) (watchErr : Option String) (rounds : List Round) :
    (∃ r, Remote.createNode controllerID volumeID values mapped watchErr rounds = .ret r ∧
      r.cleanup = none) ∨
    ∃ addr dev major minor,
      Remote.createDevice controllerID volumeID values mapped = some (.ok addr) ∧
      waitLoop "/sys/dev/block" addr (mapped.toOption.map MapVolumeReply.scsiDisk) rounds =
        .found dev major minor ∧
      Remote.createNode controllerID volumeID values mapped watchErr rounds =
        Remote.makeNode dev major minor := by
  unfold Remote.createNode
  cases haddr : Remote.createDevice controllerID volumeID values mapped with
  | none => exact Or.inl ⟨_, rfl, rfl⟩
  | some result =>
    cases result with
    | error e => exact Or.inl ⟨_, rfl, rfl⟩
    | ok addr =>
      cases watchErr with
      | some err => exact Or.inl ⟨_, rfl, rfl⟩
      | none =>
        simp only [waitForDevice]
        cases hwait : waitLoop "/sys/dev/block" addr
            (mapped.toOption.map MapVolumeReply.scsiDisk) rounds with
        | waiting => exact Or.inl ⟨_, rfl, rfl⟩
        | panic => exact Or.inl ⟨_, rfl, rfl⟩
        | failed err => exact Or.inl ⟨_, rfl, rfl⟩
        | found dev major minor => exact Or.inr ⟨addr, dev, major, minor, rfl, hwait, rfl⟩

/-- **`createDevice` leaves nothing but what its caller removes, and returns the right node.**
The node has the numbers of a link to the requested device, and the link is one to a whole disk. -/
theorem runs_createNode {rounds : List (Listing × Wakeup)} {r : Created}
    (hrun : Prog.Runs (server suffix) (Remote.createNode controllerID volumeID values mapped
      watchErr (rounds.map fun x => x.1.round x.2)) tree r tree') :
    Restores tree tree' r.cleanup ∧ ∀ devNode dir, r = .device devNode dir →
      ∃ addr, Remote.createDevice controllerID volumeID values mapped = some (.ok addr) ∧
        ∃ l ∈ rounds, ∃ x ∈ l.1.nodes, x.partition = none ∧
          Selects addr (mapped.toOption.map MapVolumeReply.scsiDisk) x.entry ∧
          tree'.entry (pathElements devNode) = some (.blockDevice x.major x.minor) := by
  rcases createNode_cases controllerID volumeID values mapped watchErr
    (rounds.map fun x => x.1.round x.2) with
    ⟨r', hcode, hcleanup⟩ | ⟨addr, dev, major, minor, haddr, hfound, hcode⟩
  · rw [hcode] at hrun
    obtain ⟨rfl, rfl⟩ := Prog.runs_ret_iff.1 hrun
    rw [hcleanup]
    refine ⟨rfl, ?_⟩
    rintro devNode dir rfl
    cases hcleanup
  · rw [hcode] at hrun
    obtain ⟨round, hround, hdev, hfind⟩ := exists_round_of_found hfound
    obtain ⟨l, hl, rfl⟩ := List.mem_map.1 hround
    obtain ⟨x, hx, hsel, rfl, rfl, rfl⟩ := exists_node_of_found l.1.proper hdev hfind
    have hproper := l.1.proper x hx
    -- the last element is the name of the file, and there are no others if it could be made
    obtain ⟨init, name, helements⟩ : ∃ init name, x.elements = init ++ [name] :=
      (List.eq_nil_or_concat' x.elements).resolve_left (by simp [Node.elements])
    rw [helements] at hrun
    obtain ⟨hrestores, hdevice⟩ := runs_makeNode (helements ▸ hproper.canonical) hrun
    refine ⟨hrestores, fun devNode dir hr => ?_⟩
    obtain ⟨rfl, hentry⟩ := hdevice devNode dir hr
    rw [nodeOf_makedev hproper] at hentry
    exact ⟨addr, haddr, l, hl, x, hx, Node.partition_eq_none helements, hsel, hentry⟩

/-- **`createDevice` gets there.**  Once the link to the disk has shown up, a node is made for it,
if there is a place for the temporary directory. -/
theorem run_createNode {addr : PCIAddress} {before : List (Listing × Wakeup)} {l : Listing}
    {x : Node}
    (haddr : Remote.createDevice controllerID volumeID values mapped = some (.ok addr))
    (h : Appears addr (mapped.toOption.map MapVolumeReply.scsiDisk) before l x)
    (hdir : tree.entry ["dev"] = some .directory)
    (hfree : tree.entry (pathElements (suffix.name tree "/dev" (String.ofList x.disk))) = none)
    (event : Wakeup) (after : List (Listing × Wakeup)) :
    ∃ devNode dir tree', (Remote.createNode controllerID volumeID values mapped none
        ((before ++ (l, event) :: after).map fun b => b.1.round b.2)).run (server suffix) tree =
          (.device devNode dir, tree') ∧
      tree'.entry (pathElements devNode) = some (.blockDevice x.major x.minor) := by
  have hproper := l.proper x h.mem
  have hcode : Remote.createNode controllerID volumeID values mapped none
      ((before ++ (l, event) :: after).map fun b => b.1.round b.2) =
        Remote.makeNode (String.ofList x.disk) x.major.toNat x.minor.toNat := by
    rw [Remote.createNode, haddr]
    simp only [waitForDevice, h.waitLoop_eq]
  rw [hcode]
  obtain ⟨devNode, dir, tree', hrun, hentry⟩ :=
    run_makeNode suffix x.major.toNat x.minor.toNat hproper.disk hdir hfree
  rw [nodeOf_makedev hproper] at hentry
  exact ⟨devNode, dir, tree', hrun, hentry⟩

end CreateDevice

end Oim.Csi