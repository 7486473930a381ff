import Oim.Csi.FindDev

/-!
# The links that Linux makes

The links under `/sys/dev/block` have the numbers of a block device as their name and lead to
something like

  `../../devices/pci0000:00/0000:00:15.0/virtio3/host0/target0:0:7/0:0:7:0/block/sda`

Here `findDev` meets such links, in all their forms.

* `Node`, `findDev_sorted`, `findDev_disk_iff` — whole disks and partitions.  Links are read in
  the order of their names as strings, so a disk (`259:9`) may come after its partitions
  (`259:10`): what is found is a whole disk **unless** the first link to the right device is a
  partition.
* `DiskNode`, `scsi_matching_iff` — SCSI addresses.  Their numbers are decimal and are read as
  hexadecimal (`asHex`), so they are matched exactly **unless** one has more than one digit.
* `BusNode`, `pci_matching_iff` — PCI devices behind bridges.  The address that is found is the
  one next to the root, so the device's own address is found **unless** there are bridges.
-/

namespace Oim.Csi

open Pattern

/-! ## Names and devices -/

/-- A number in decimal notation. -/
def decimal (n : ℕ) : List Char := Nat.toDigits 10 n

/-- The name of a link. -/
def linkName (major minor : UInt32) : String :=
  String.ofList (decimal major.toNat ++ ':' :: decimal minor.toNat)

theorem isDigit_of_mem_decimal {n : ℕ} : ∀ c ∈ decimal n, c.isDigit = true := fun _ hc =>
  Nat.isDigit_of_mem_toDigits (by decide) (by decide) hc

theorem decimal_length_pos (n : ℕ) : 1 ≤ (decimal n).length :=
  List.length_pos_of_ne_nil Nat.toDigits_ne_nil

theorem fits_digits {p : Expr Char} {t r : List Char} {gs : List (List Char)} (n : ℕ)
    (group : Bool) (h : Fits p t gs r) :
    Fits (digits group :: p) (decimal n ++ t) (capture group (decimal n) gs) r :=
  fits_rep isDigit_of_mem_decimal (decimal_length_pos n) (by simp) h group

theorem matchAt_linkName (major minor : UInt32) : matchAt majorMinor (linkName major minor).toList =
    some ([decimal major.toNat, decimal minor.toNat], []) := by
  rw [matchAt_eq_some_iff (by decide), linkName, String.toList_ofList]
  refine fits_digits major.toNat true (fits_lit.2 ?_)
  have h := fits_digits (p := [.stop]) (t := []) minor.toNat true ⟨rfl, rfl, rfl⟩
  rwa [List.append_nil] at h

theorem atoi_decimal (n : UInt32) : atoi (decimal n.toNat) = n.toNat := by
  have hn := n.toNat_lt
  rw [atoi, decimal, Nat.ofDigitChars_toDigits (by decide) (by decide)]
  omega

/-- A link with a proper name that leads to a block device is found. -/
theorem accept_linkName {sys target : String} {major minor : UInt32} {dev : List Char}
    (h : afterLast block target.toList = some dev) :
    accept sys (linkName major minor) target =
      .found (String.ofList dev) major.toNat minor.toNat := by
  unfold accept
  rw [h, matchAt_linkName]
  simp only [atoi_decimal]

/-- What is behind the last `/block/`, if that is a single name. -/
theorem afterLast_block {b dev : List Char} (hdev : '/' ∉ dev) :
    afterLast block (b ++ (block ++ dev)) = some dev := by
  refine afterLast_append (by simp [block]) (fun b' m h hb hpre => ?_) b
  -- there are two slashes in `/block/`, and only one after its first letter
  have hcount : ∀ l : List Char, block <+: l → 2 ≤ l.count '/' := fun l hl =>
    hl.sublist.count_le '/'
  obtain ⟨x, b', rfl⟩ := List.exists_cons_of_ne_nil hb
  have hm := hcount m hpre
  have htotal := congrArg (List.count '/') h
  have hdev' : dev.count '/' = 0 := List.count_eq_zero.2 hdev
  have hx : x = '/' := (List.cons.inj h).1.symm
  simp [block, hdev', hx] at htotal
  omega

/-- What is behind the last `/block/` of a path that does not end with a slash. -/
theorem afterLast_block_ne_nil {b dev : List Char} (hdev : dev ≠ [])
    (hlast : dev.getLast? ≠ some '/') :
    ∃ r, afterLast block (b ++ (block ++ dev)) = some r ∧ r ≠ [] := by
  obtain ⟨r, hr⟩ := Option.ne_none_iff_exists'.1 (afterLast_ne_none b block dev)
  refine ⟨r, hr, ?_⟩
  rintro rfl
  obtain ⟨b', hb'⟩ := afterLast_eq_some hr
  have h := congrArg List.getLast? hb'
  obtain ⟨y, hy⟩ := Option.ne_none_iff_exists'.1 (mt List.getLast?_eq_none_iff.1 hdev)
  have hslash : block.getLast? = some '/' := rfl
  simp only [List.getLast?_append, hy, Option.some_or, List.append_nil, hslash] at h
  exact hlast (hy.trans h)

/-! ## Whole disks and partitions -/

/-- A link to a whole disk or to a partition of it. -/
structure Node where
  major : UInt32
  minor : UInt32
  path : List Char
  disk : List Char
  partition : Option (List Char)
  disk_name : disk ≠ [] ∧ '/' ∉ disk
  partition_name : ∀ p ∈ partition, p ≠ [] ∧ '/' ∉ p

namespace Node

/-- What follows `/block/`. -/
def device (x : Node) : List Char := x.disk ++ x.partition.elim [] ('/' :: ·)

def name (x : Node) : String := linkName x.major x.minor

def target (x : Node) : String := String.ofList (x.path ++ (block ++ x.device))

def entry (x : Node) : SysEntry := ⟨x.name, .ok x.target⟩

theorem device_of_none {x : Node} (h : x.partition = none) : x.device = x.disk := by
  simp [device, h]

theorem device_ends {x : Node} : x.device ≠ [] ∧ x.device.getLast? ≠ some '/' := by
  obtain ⟨hne, hslash⟩ := x.disk_name
  cases hp : x.partition with
  | none =>
    rw [device_of_none hp]
    exact ⟨hne, fun h => hslash (List.mem_of_getLast? h)⟩
  | some p =>
    obtain ⟨hpne, hpslash⟩ := x.partition_name p hp
    refine ⟨by simp [device, hne], fun h => ?_⟩
    obtain ⟨y, hy⟩ := Option.ne_none_iff_exists'.1 (mt List.getLast?_eq_none_iff.1 hpne)
    simp only [device, hp, Option.elim_some, List.getLast?_append, List.getLast?_cons, hy,
      Option.getD_some, Option.some_or] at h
    exact hpslash (List.mem_of_getLast? (hy.trans h))

/-- A link that is accepted is found with its own numbers, and a whole disk with its name. -/
theorem accept_eq (sys : String) (x : Node) : ∃ dev, dev ≠ "" ∧
    accept sys x.name x.target = .found dev x.major.toNat x.minor.toNat ∧
    (x.partition = none → dev = String.ofList x.disk) := by
  obtain ⟨r, hr, hne⟩ := afterLast_block_ne_nil (b := x.path) x.device_ends.1 x.device_ends.2
  refine ⟨String.ofList r, by simpa using hne, accept_linkName (by simpa [target] using hr), ?_⟩
  intro hp
  rw [device_of_none hp, afterLast_block x.disk_name.2] at hr
  rw [Option.some.inj hr]

end Node

/-- Links in the order of their names have different names. -/
theorem name_inj {dir : List Node} (hsorted : dir.Pairwise fun a b => a.name < b.name) {x y : Node}
    (hx : x ∈ dir) (hy : y ∈ dir) (h : x.name = y.name) : x = y := by
  have hnodup : (dir.map Node.name).Nodup :=
    List.pairwise_map.2 (hsorted.imp fun hlt => ne_of_lt hlt)
  exact List.inj_on_of_nodup_map hnodup hx hy h

section Nodes

variable {sys : String} {pciAddress : PCIAddress} {scsiDisk : Option SCSIDisk}

variable (sys pciAddress scsiDisk) in
/-- What becomes of a link. -/
theorem Node.examine_cases (x : Node) :
    (Selects pciAddress scsiDisk x.entry ∧ ∃ dev, dev ≠ "" ∧
      examine sys pciAddress scsiDisk x.entry = .found dev x.major.toNat x.minor.toNat ∧
      (x.partition = none → dev = String.ofList x.disk)) ∨
    (¬ Selects pciAddress scsiDisk x.entry ∧ (Fatal pciAddress scsiDisk x.entry ∨
      examine sys pciAddress scsiDisk x.entry = .skip)) := by
  obtain ⟨dev, hne, haccept, hdisk⟩ := x.accept_eq sys
  have hentry : x.entry.target = .ok x.target := rfl
  rcases examine_spec sys pciAddress scsiDisk hentry with ⟨hsel, hex⟩ | h
  · exact Or.inl ⟨hsel, dev, hne, hex.trans haccept, hdisk⟩
  · exact Or.inr h

variable (sys) in
/-- A link is not skipped if it leads to what was asked for, or is fatal. -/
theorem Node.examine_ne_skip_iff (x : Node) : examine sys pciAddress scsiDisk x.entry ≠ .skip ↔
    Selects pciAddress scsiDisk x.entry ∨ Fatal pciAddress scsiDisk x.entry := by
  rcases x.examine_cases sys pciAddress scsiDisk with ⟨hsel, dev, -, hex, -⟩ | ⟨hsel, h⟩
  · simp [hex, hsel]
  · rcases h with hfatal | hskip
    · simp [(examine_eq_panic_iff sys).2 hfatal, hfatal]
    · rw [← examine_eq_panic_iff sys, hskip]
      simp [hsel]

variable (sys pciAddress scsiDisk) in
/-- Among links of which none is fatal, one that leads to what was asked for is found, if there
is any. -/
theorem findDev_of_not_fatal {α : Type} (node : α → Node) (l : List α)
    (hsafe : ∀ x ∈ l, ¬ Fatal pciAddress scsiDisk (node x).entry) :
    ((∀ x ∈ l, ¬ Selects pciAddress scsiDisk (node x).entry) ∧
      findDev sys (.ok (l.map fun x => (node x).entry)) pciAddress scsiDisk =
        some (.ok ("", 0, 0))) ∨
    ∃ x ∈ l, Selects pciAddress scsiDisk (node x).entry ∧ ∃ dev, dev ≠ "" ∧
      findDev sys (.ok (l.map fun x => (node x).entry)) pciAddress scsiDisk =
        some (.ok (dev, (node x).major.toNat, (node x).minor.toNat)) := by
  rcases first_not_skip (fun x => examine sys pciAddress scsiDisk (node x).entry) l with
    hall | ⟨before, x, after, rfl, hskip, hx⟩
  · refine Or.inl ⟨fun x hx hsel => ?_, findDev_of_all_skip hall⟩
    exact ((node x).examine_ne_skip_iff sys).2 (Or.inl hsel) (hall x hx)
  · have hmem : x ∈ before ++ x :: after := by simp
    rcases (node x).examine_cases sys pciAddress scsiDisk with
      ⟨hsel, dev, hdev, hfound, -⟩ | ⟨-, h⟩
    · refine Or.inr ⟨x, hmem, hsel, dev, hdev, (findDev_of_skip hskip hx).trans ?_⟩
      rw [hfound]
      rfl
    · exact absurd (h.resolve_right hx) (hsafe x hmem)

/-- A link that decides comes before all others that are not skipped. -/
theorem eq_or_name_lt {before after : List Node} {x y : Node}
    (hsorted : (before ++ x :: after).Pairwise fun a b => a.name < b.name)
    (hskip : ∀ z ∈ before, examine sys pciAddress scsiDisk z.entry = .skip)
    (hy : y ∈ before ++ x :: after) (hne : examine sys pciAddress scsiDisk y.entry ≠ .skip) :
    y = x ∨ x.name < y.name := by
  rcases List.mem_append.1 hy with hy | hy
  · exact absurd (hskip y hy) hne
  · refine (List.mem_cons.1 hy).imp id fun hy => ?_
    exact List.rel_of_pairwise_cons (List.pairwise_append.1 hsorted).2.1 hy

variable (sys pciAddress scsiDisk) in
/-- **The search in a sorted listing.**  Either no link leads to what was asked for, or the first
one that does so or is fatal decides. -/
theorem findDev_sorted {dir : List Node} (hsorted : dir.Pairwise fun a b => a.name < b.name) :
    ((∀ x ∈ dir, ¬ Selects pciAddress scsiDisk x.entry) ∧
      findDev sys (.ok (dir.map Node.entry)) pciAddress scsiDisk = some (.ok ("", 0, 0))) ∨
    ∃ x ∈ dir, (∀ y ∈ dir, Selects pciAddress scsiDisk y.entry ∨
        Fatal pciAddress scsiDisk y.entry → y = x ∨ x.name < y.name) ∧
      ((Selects pciAddress scsiDisk x.entry ∧ ∃ dev, dev ≠ "" ∧
          findDev sys (.ok (dir.map Node.entry)) pciAddress scsiDisk =
            some (.ok (dev, x.major.toNat, x.minor.toNat)) ∧
          (x.partition = none → dev = String.ofList x.disk)) ∨
        (¬ Selects pciAddress scsiDisk x.entry ∧ Fatal pciAddress scsiDisk x.entry ∧
          findDev sys (.ok (dir.map Node.entry)) pciAddress scsiDisk = none)) := by
  rcases first_not_skip (fun x : Node => examine sys pciAddress scsiDisk x.entry) dir with
    hall | ⟨before, x, after, rfl, hskip, hx⟩
  · refine Or.inl ⟨fun x hx hsel => ?_, findDev_of_all_skip hall⟩
    exact (x.examine_ne_skip_iff sys).2 (Or.inl hsel) (hall x hx)
  · have hresult : findDev sys (.ok ((before ++ x :: after).map Node.entry)) pciAddress scsiDisk =
        _ := findDev_of_skip hskip hx
    refine Or.inr ⟨x, by simp, fun y hy hor => ?_, ?_⟩
    · exact eq_or_name_lt hsorted hskip hy ((y.examine_ne_skip_iff sys).2 hor)
    · rcases x.examine_cases sys pciAddress scsiDisk with
        ⟨hsel, dev, hdev, hfound, hname⟩ | ⟨hsel, h⟩
      · rw [hfound] at hresult
        exact Or.inl ⟨hsel, dev, hdev, hresult, hname⟩
      · have hfatal : Fatal pciAddress scsiDisk x.entry := h.resolve_right hx
        rw [(examine_eq_panic_iff sys).2 hfatal] at hresult
        exact Or.inr ⟨hsel, hfatal, hresult⟩

end Nodes

/-- **What is found is a whole disk**, with its numbers, exactly if every partition that leads to
what was asked for comes after a whole disk that does so too, or after a fatal link. -/
theorem findDev_disk_iff (sys : String) (dir : List Node)
    (hsorted : dir.Pairwise fun a b => a.name < b.name) (pciAddress : PCIAddress)
    (scsiDisk : Option SCSIDisk) :
    (∀ dev major minor,
      findDev sys (.ok (dir.map Node.entry)) pciAddress scsiDisk = some (.ok (dev, major, minor)) →
      dev ≠ "" → ∃ d ∈ dir, d.partition = none ∧ dev = String.ofList d.disk ∧
        major = d.major.toNat ∧ minor = d.minor.toNat) ↔
    ∀ p ∈ dir, p.partition.isSome = true → Selects pciAddress scsiDisk p.entry →
      ∃ e ∈ dir, e.name < p.name ∧
        (e.partition = none ∧ Selects pciAddress scsiDisk e.entry ∨
          Fatal pciAddress scsiDisk e.entry) := by
  rcases findDev_sorted sys pciAddress scsiDisk hsorted with ⟨hnone, hresult⟩ |
    ⟨x, hmem, hfirst, ⟨hsel, dev, hdev, hresult, hname⟩ | ⟨hsel, hfatal, hresult⟩⟩
  · -- nothing is found, and there is nothing to be found
    refine iff_of_true (fun dev major minor h hdev => ?_)
      fun p hp _ hsel => absurd hsel (hnone p hp)
    rw [hresult] at h
    simp only [Option.some.injEq, Except.ok.injEq, Prod.mk.injEq] at h
    exact absurd h.1.symm hdev
  · by_cases hpart : x.partition = none
    · refine iff_of_true (fun dev' major minor h _ => ?_) fun p hp hp' hsel' => ?_
      · have heq : (dev, x.major.toNat, x.minor.toNat) = (dev', major, minor) :=
          Except.ok.inj (Option.some.inj (hresult.symm.trans h))
        obtain ⟨rfl, rfl, rfl⟩ := by simpa only [Prod.mk.injEq] using heq
        exact ⟨x, hmem, hpart, hname hpart, rfl, rfl⟩
      · rcases hfirst p hp (Or.inl hsel') with rfl | hlt
        · exact absurd hp' (by simp [hpart])
        · exact ⟨x, hmem, hlt, Or.inl ⟨hpart, hsel⟩⟩
    · -- a partition is found, and nothing in front of it counts
      refine iff_of_false (fun h => ?_) fun h => ?_
      · obtain ⟨d, hd, hdisk, -, hmajor, hminor⟩ := h _ _ _ hresult hdev
        have heq : d = x := name_inj hsorted hd hmem (by
          rw [Node.name, Node.name, UInt32.toNat_inj.1 hmajor, UInt32.toNat_inj.1 hminor])
        exact hpart (heq ▸ hdisk)
      · obtain ⟨e, he, hlt, hor⟩ := h x hmem (Option.isSome_iff_ne_none.2 hpart) hsel
        rcases hfirst e he (hor.imp And.right id) with rfl | hlt'
        · exact lt_irrefl _ hlt
        · exact lt_asymm hlt hlt'
  · refine iff_of_true (fun dev major minor h => ?_) fun p hp _ hsel' => ?_
    · exact absurd (hresult.symm.trans h) (by simp)
    · rcases hfirst p hp (Or.inl hsel') with rfl | hlt
      · exact absurd hsel' hsel
      · exact ⟨x, hmem, hlt, Or.inr hfatal⟩

/-- A disk and its partition, with the numbers that they have got. -/
def diskNode (major minor : UInt32) : Node where
  major := major
  minor := minor
  path := "../../devices/pci0000:00/0000:00:15.0/nvme/nvme0".toList
  disk := ['n', 'v', 'm', 'e', '0', 'n', '1']
  partition := none
  disk_name := by decide
  partition_name := by simp

/-- See `diskNode`. -/
def partitionNode (major minor : UInt32) : Node :=
  { diskNode major minor with
    partition := some ['n', 'v', 'm', 'e', '0', 'n', '1', 'p', '1']
    partition_name := by simp }

/-- The address of both. -/
def nvmeAddress : PCIAddress := ⟨0, 0, 0x15, 0⟩

/-- With small numbers the disk comes first. -/
theorem findDev_disk_small : ∃ d ∈ [diskNode 259 0, partitionNode 259 1], d.partition = none ∧
    "nvme0n1" = String.ofList d.disk ∧ 259 = d.major.toNat ∧ 0 = d.minor.toNat := by
  have hsorted : [diskNode 259 0, partitionNode 259 1].Pairwise fun a b => a.name < b.name := by
    decide +kernel
  have hfound : findDev "/sys/dev/block"
      (.ok ([diskNode 259 0, partitionNode 259 1].map Node.entry)) nvmeAddress none =
        some (.ok ("nvme0n1", 259, 0)) := by
    decide +kernel
  refine (findDev_disk_iff _ _ hsorted _ _).2 ?_ _ _ _ hfound (by decide)
  intro p hp hpart _
  obtain rfl : p = partitionNode 259 1 := by
    rcases List.mem_pair.1 hp with rfl | rfl
    · exact absurd hpart (by decide)
    · rfl
  refine ⟨diskNode 259 0, by simp, by decide +kernel, Or.inl ⟨rfl, ?_⟩⟩
  exact ⟨"../../devicesnvme/nvme0/block/nvme0n1", ⟨_, rfl, by decide +kernel⟩, by simp⟩

/-- A disk with minor number 9 comes after its partition with minor number 10. -/
theorem findDev_takes_partition :
    [partitionNode 259 10, diskNode 259 9].Pairwise (fun a b => a.name < b.name) ∧
    (∀ p ∈ [partitionNode 259 10, diskNode 259 9], p.partition.isSome = true →
      ∃ d ∈ [partitionNode 259 10, diskNode 259 9], d.partition = none ∧ d.path = p.path ∧
        d.disk = p.disk ∧ d.major = p.major ∧ d.minor < p.minor) ∧
    findDev "/sys/dev/block" (.ok ([partitionNode 259 10, diskNode 259 9].map Node.entry))
      nvmeAddress none = some (.ok ("nvme0n1/nvme0n1p1", 259, 10)) := by
  refine ⟨by decide +kernel, fun p hp hpart => ?_, by decide +kernel⟩
  obtain rfl : p = partitionNode 259 10 := by
    rcases List.mem_pair.1 hp with rfl | rfl
    · rfl
    · exact absurd hpart (by decide)
  exact ⟨diskNode 259 9, by simp, rfl, rfl, rfl, rfl, by decide⟩

/-! ## PCI devices behind bridges -/

/-- A PCI function, with an address that has the notation `dddd:bb:dd.f`. -/
structure Slot where
  address : PCIAddress
  domain_lt : address.domain.toNat < 16 ^ 4
  bus_lt : address.bus.toNat < 16 ^ 2
  device_lt : address.device.toNat < 16 ^ 2
  function_le : address.function.toNat ≤ 7

/-- A PCI root, with the name `pcidddd:bb`. -/
structure Root where
  domain : UInt32
  bus : UInt32
  domain_lt : domain.toNat < 16 ^ 4
  bus_lt : bus.toNat < 16 ^ 2

/-- The parts of an address. -/
def Slot.groups (s : Slot) : List (List Char) :=
  [(hex 4 s.address.domain).toList, (hex 2 s.address.bus).toList, (hex 2 s.address.device).toList,
    (hex 0 s.address.function).toList]

/-- An address as a directory, followed by the rest of a path. -/
def Slot.dir (s : Slot) (rest : List Char) : List Char :=
  (hex 4 s.address.domain).toList ++ ':' :: ((hex 2 s.address.bus).toList ++
    ':' :: ((hex 2 s.address.device).toList ++ '.' :: ((hex 0 s.address.function).toList ++
      '/' :: rest)))

/-- A root as a directory, followed by the rest of a path. -/
def Root.dir (r : Root) (rest : List Char) : List Char :=
  '/' :: 'p' :: 'c' :: 'i' :: ((hex 4 r.domain).toList ++ ':' :: ((hex 2 r.bus).toList ++
    '/' :: rest))

/-- Where all of them are. -/
def devices : List Char := ['.', '.', '/', '.', '.', '/', 'd', 'e', 'v', 'i', 'c', 'e', 's']

/-- The path of something that belongs to the last of several PCI functions. -/
def busPath (root : Root) (slots : List Slot) (rest : List Char) : List Char :=
  devices ++ root.dir (slots.foldr Slot.dir rest)

theorem fits_hexDigits {p : Expr Char} {t r : List Char} {gs : List (List Char)} {k width : ℕ}
    {n : UInt32} (hk : 0 < k) (hw : width ≤ k) (hn : n.toNat < 16 ^ k) (group : Bool)
    (h : Fits p t gs r) : Fits (hexDigits k group :: p) ((hex width n).toList ++ t)
      (capture group (hex width n).toList gs) r := by
  have hhex := isHex_hex hk hw hn
  simp only [isHex, decide_eq_true_eq, List.all_eq_true] at hhex
  exact fits_rep hhex.2 (List.length_pos_of_ne_nil (hex_ne_nil width n))
    (fun m hm => Option.mem_some.1 hm ▸ hhex.1) h group

theorem fits_octalDigit {p : Expr Char} {t r : List Char} {gs : List (List Char)} {n : UInt32}
    (hn : n.toNat ≤ 7) (h : Fits p t gs r) :
    Fits (octalDigit :: p) ((hex 0 n).toList ++ t) ((hex 0 n).toList :: gs) r := by
  have hoct := isFunction_hex hn
  simp only [isFunction, decide_eq_true_eq, List.all_eq_true] at hoct
  exact fits_rep (fun c hc => by simpa using hoct.2 c hc)
    (List.length_pos_of_ne_nil (hex_ne_nil 0 n)) (fun m hm => Option.mem_some.1 hm ▸ hoct.1) h true

/-- The expression for PCI addresses fits a root and the function next to it. -/
theorem fits_pciRe (root : Root) (s : Slot) (rest : List Char) :
    Fits pciRe (root.dir (s.dir rest)) s.groups rest := by
  refine fits_lits (w := ['/', 'p', 'c', 'i']).2 ?_
  refine fits_hexDigits (by decide) le_rfl root.domain_lt false (fits_lit.2 ?_)
  refine fits_hexDigits (by decide) le_rfl root.bus_lt false (fits_lit.2 ?_)
  refine fits_hexDigits (by decide) le_rfl s.domain_lt true (fits_lit.2 ?_)
  refine fits_hexDigits (by decide) le_rfl s.bus_lt true (fits_lit.2 ?_)
  refine fits_hexDigits (by decide) le_rfl s.device_lt true (fits_lit.2 ?_)
  exact fits_octalDigit s.function_le (fits_lit.2 ⟨rfl, rfl⟩)

theorem find_busPath (root : Root) (s : Slot) (slots : List Slot) (rest : List Char) :
    ∃ text, find pciRe (busPath root (s :: slots) rest) =
      some ⟨devices, text, s.groups, slots.foldr Slot.dir rest⟩ := by
  have hfits := fits_pciRe root s (slots.foldr Slot.dir rest)
  obtain ⟨text, htext⟩ := hfits.suffix
  refine ⟨text, ?_⟩
  have hfind := find_of_fits (by decide) (htext ▸ hfits)
  rw [← htext] at hfind
  have hborder := find_border (x := '/') (c := '/') (d := 'p') (b := devices) (p := pciRe.tail)
    (y := 'c' :: 'i' :: ((hex 4 root.domain).toList ++ ':' :: ((hex 2 root.bus).toList ++
      '/' :: s.dir (slots.foldr Slot.dir rest)))) (by decide) (by decide)
  refine hborder.trans ?_
  change (find pciRe (root.dir (s.dir _))).map _ = _
  rw [hfind]
  simp

/-- **The address that is found is the one next to the root.** -/
theorem extractPCIAddress_busPath (root : Root) (s : Slot) (slots : List Slot)
    (rest : List Char) :
    extractPCIAddress (String.ofList (busPath root (s :: slots) rest)) =
      some (some s.address, String.ofList (devices ++ slots.foldr Slot.dir rest)) := by
  obtain ⟨text, hfind⟩ := find_busPath root s slots rest
  have hcut := cut_find (by decide) hfind
  unfold extractPCIAddress
  rw [String.toList_ofList, hfind]
  simp only [Slot.groups, hcut, hexToU32_hex 4 s.domain_lt,
    hexToU32_hex 2 (s.bus_lt.trans (by decide)), hexToU32_hex 2 (s.device_lt.trans (by decide)),
    hexToU32_hex 0 (lt_of_le_of_lt s.function_le (by decide))]
  rfl

/-- A link to a block device that is provided by a PCI function behind any number of bridges. -/
structure BusNode extends Node where
  root : Root
  bridges : List Slot
  own : Slot
  rest : List Char
  path_eq : path = busPath root (bridges ++ [own]) rest

/-- The PCI function next to the root. -/
def firstSlot (bridges : List Slot) (own : Slot) : Slot := bridges.headD own

theorem extractPCIAddress_own (root : Root) (bridges : List Slot) (own : Slot)
    (rest : List Char) : ∃ remainder,
      extractPCIAddress (String.ofList (busPath root (bridges ++ [own]) rest)) =
        some (some (firstSlot bridges own).address, remainder) := by
  cases bridges with
  | nil => exact ⟨_, extractPCIAddress_busPath root own [] rest⟩
  | cons s bridges => exact ⟨_, extractPCIAddress_busPath root s (bridges ++ [own]) rest⟩

/-- More of a path goes to its end. -/
theorem busPath_append (root : Root) (slots : List Slot) (rest more : List Char) :
    busPath root slots rest ++ more = busPath root slots (rest ++ more) := by
  have hslots : slots.foldr Slot.dir rest ++ more = slots.foldr Slot.dir (rest ++ more) := by
    induction slots with
    | nil => rfl
    | cons s slots ih => simp [Slot.dir, ih]
  simp [busPath, Root.dir, hslots]

theorem BusNode.selects_iff (x : BusNode) {pciAddress : PCIAddress} :
    Selects pciAddress none x.entry ↔ (firstSlot x.bridges x.own).address = pciAddress := by
  obtain ⟨remainder, h⟩ :=
    extractPCIAddress_own x.root x.bridges x.own (x.rest ++ (block ++ x.device))
  rw [← busPath_append, ← x.path_eq] at h
  have hleads : ∀ r, LeadsTo pciAddress x.entry r ↔
      some (firstSlot x.bridges x.own).address = some pciAddress ∧ r = remainder := fun r =>
    leadsTo_iff rfl h
  simp [Selects, hleads]

theorem not_fatal_none {pciAddress : PCIAddress} {entry : SysEntry} :
    ¬ Fatal pciAddress none entry := fun h => absurd h.1 (by simp)

/-- What is wanted of `findDev`: a block device that is provided by the PCI function, or nothing if
there is none. -/
def Provided (listing : List BusNode) (pciAddress : PCIAddress)
    (result : Option (Except String (String × ℕ × ℕ))) : Prop :=
  (∀ x ∈ listing, x.own.address ≠ pciAddress) ∧ result = some (.ok ("", 0, 0)) ∨
    ∃ x ∈ listing, x.own.address = pciAddress ∧ ∃ dev, dev ≠ "" ∧
      result = some (.ok (dev, x.major.toNat, x.minor.toNat))

/-- **PCI addresses are matched exactly if there are no bridges**, or if a bridge has the same
address as the device.  That goes for a single path, and for all listings of such links. -/
theorem pci_matching_iff (root : Root) (bridges : List Slot) (own : Slot) (rest : List Char)
    (sys : String) (dir : List BusNode) :
    ((∃ remainder, extractPCIAddress (String.ofList (busPath root (bridges ++ [own]) rest)) =
      some (some own.address, remainder)) ↔ (firstSlot bridges own).address = own.address) ∧
    ((∀ listing, (∀ x ∈ listing, x ∈ dir) → ∀ pciAddress, Provided listing pciAddress
        (findDev sys (.ok (listing.map fun x => x.entry)) pciAddress none)) ↔
      ∀ x ∈ dir, (firstSlot x.bridges x.own).address = x.own.address) := by
  refine ⟨?_, ⟨fun h x hx => ?_, ?_⟩⟩
  · obtain ⟨remainder, h⟩ := extractPCIAddress_own root bridges own rest
    simp [h]
  · -- the link alone, and the function that provides its device
    have hp := h [x] (by simpa using hx) x.own.address
    rcases findDev_of_not_fatal sys x.own.address none BusNode.toNode [x]
      (fun y _ => not_fatal_none) with ⟨-, hresult⟩ | ⟨y, hy, hsel, -⟩
    · exfalso
      rcases hp with ⟨hnone, -⟩ | ⟨y, -, -, dev, hdev, hdev'⟩
      · exact hnone x (by simp) rfl
      · have heq := Except.ok.inj (Option.some.inj (hresult.symm.trans hdev'))
        exact hdev (congrArg Prod.fst heq).symm
    · obtain rfl := List.mem_singleton.1 hy
      exact y.selects_iff.1 hsel
  · intro h listing hsub pciAddress
    have hown : ∀ x ∈ listing, (Selects pciAddress none x.entry ↔ x.own.address = pciAddress) :=
      fun x hx => by rw [x.selects_iff, h x (hsub x hx)]
    rcases findDev_of_not_fatal sys pciAddress none BusNode.toNode listing
      (fun x _ => not_fatal_none) with
      ⟨hnone, hresult⟩ | ⟨x, hx, hsel, dev, hdev, hresult⟩
    · exact Or.inl ⟨fun x hx hx' => hnone x hx ((hown x hx).2 hx'), hresult⟩
    · exact Or.inr ⟨x, hx, (hown x hx).1 hsel, dev, hdev, hresult⟩

/-- A root with a bridge, and a card behind the bridge. -/
def pciRoot : Root := ⟨0, 0, by decide, by decide⟩

def bridgeSlot : Slot := ⟨⟨0, 0, 0x1c, 0⟩, by decide, by decide, by decide, by decide⟩

def cardSlot : Slot := ⟨⟨0, 3, 0, 0⟩, by decide, by decide, by decide, by decide⟩

/-- The disk of the card is taken for one of the bridge. -/
theorem findDev_takes_bridge :
    let path := String.ofList (busPath pciRoot [bridgeSlot, cardSlot] "virtio3/block/vda".toList)
    path = "../../devices/pci0000:00/0000:00:1c.0/0000:03:00.0/virtio3/block/vda" ∧
    (extractPCIAddress path).map Prod.fst = some (some bridgeSlot.address) ∧
    findDev "/sys/dev/block" (.ok [⟨"252:0", .ok path⟩]) cardSlot.address none =
      some (.ok ("", 0, 0)) ∧
    findDev "/sys/dev/block" (.ok [⟨"252:0", .ok path⟩]) bridgeSlot.address none =
      some (.ok ("vda", 252, 0)) := by
  decide +kernel

/-! ## SCSI addresses -/

/-- The number that the decimal digits of another one stand for in hexadecimal notation. -/
def asHex (n : ℕ) : ℕ := if n < 10 then n else 16 * asHex (n / 10) + n % 10

theorem hexNat?_decimal (n : ℕ) : hexNat? (decimal n) = some (asHex n) := by
  induction n using asHex.induct with
  | case1 n hn =>
    rw [asHex, if_pos hn, decimal, Nat.toDigits_of_lt_base hn]
    simp [hexNat?, hexDigit?_digitChar (show n < 16 by omega)]
  | case2 n hn ih =>
    rw [asHex, if_neg hn, decimal, Nat.toDigits_of_base_le (by decide) (by omega), hexNat?_concat]
    rw [decimal] at ih
    simp [ih, hexDigit?_digitChar (show n % 10 < 16 by omega)]

theorem le_asHex (n : ℕ) : n ≤ asHex n := by
  induction n using asHex.induct with
  | case1 n hn => rw [asHex, if_pos hn]
  | case2 n hn ih => rw [asHex, if_neg hn]; omega

/-- **Only single digits mean the same in both notations.** -/
theorem asHex_eq_iff {n : ℕ} : asHex n = n ↔ n < 10 := by
  refine ⟨fun h => ?_, fun h => by rw [asHex, if_pos h]⟩
  by_contra hn
  have hle := le_asHex (n / 10)
  rw [asHex, if_neg hn] at h
  omega

theorem asHex_lt {n k : ℕ} (hk : 0 < k) (h : n < 10 ^ k) : asHex n < 16 ^ k := by
  obtain ⟨m, hm, hlt⟩ := hexNat?_eq_some fun c hc => by
    rw [hexDigit?_of_isDigit (isDigit_of_mem_decimal (n := n) c hc)]; rfl
  obtain rfl : asHex n = m := Option.some.inj ((hexNat?_decimal n).symm.trans hm)
  have hlen : (decimal n).length ≤ k := (Nat.length_toDigits_le_iff (by decide) hk).2 h
  exact hlt.trans_le (Nat.pow_le_pow_right (by decide) hlen)

/-- `HexToU32` on a decimal number of four digits. -/
theorem hexToU32_decimal {n : ℕ} (h : n < 10000) :
    ∃ m : UInt32, hexToU32 (decimal n) = some m ∧ m.toNat = asHex n := by
  have hlt : asHex n < 2 ^ 16 := asHex_lt (k := 4) (by decide) h
  refine ⟨UInt32.ofNat (asHex n), ?_, UInt32.toNat_ofNat_of_lt' (hlt.trans (by decide))⟩
  rw [hexToU32, if_neg (List.ne_nil_of_length_pos (decimal_length_pos n)), hexNat?_decimal]
  exact if_pos hlt

/-- A SCSI address as directories, followed by the rest of a path. -/
def scsiDir (host channel target lun : ℕ) (rest : List Char) : List Char :=
  '/' :: 't' :: 'a' :: 'r' :: 'g' :: 'e' :: 't' :: (decimal host ++ ':' :: (decimal channel ++
    ':' :: (decimal target ++ '/' :: (decimal host ++ ':' :: (decimal channel ++
      ':' :: (decimal target ++ ':' :: (decimal lun ++ rest)))))))

theorem fits_scsiRe (host channel target lun : ℕ) (dev : List Char) :
    Fits scsiRe (scsiDir host channel target lun (block ++ dev)) [decimal target, decimal lun]
      dev := by
  refine fits_lits (w := ['/', 't', 'a', 'r', 'g', 'e', 't']).2 ?_
  refine fits_digits host false (fits_lit.2 ?_)
  refine fits_digits channel false (fits_lit.2 ?_)
  refine fits_digits target false (fits_lit.2 ?_)
  refine fits_digits host false (fits_lit.2 ?_)
  refine fits_digits channel false (fits_lit.2 ?_)
  refine fits_digits target true (fits_lit.2 ?_)
  exact fits_digits lun true (fits_lits (w := block) (p := []).2 ⟨rfl, rfl⟩)

theorem find_scsiDir {b : List Char} (hb : find scsiRe (b ++ ['/']) = none)
    (host channel target lun : ℕ) (dev : List Char) :
    ∃ text, find scsiRe (b ++ scsiDir host channel target lun (block ++ dev)) =
      some ⟨b, text, [decimal target, decimal lun], dev⟩ := by
  have hfits := fits_scsiRe host channel target lun dev
  obtain ⟨text, htext⟩ := hfits.suffix
  refine ⟨text, ?_⟩
  have hfind := find_of_fits (by decide) (htext ▸ hfits)
  rw [← htext] at hfind
  refine (find_border (x := '/') (c := '/') (d := 't') (p := scsiRe.tail) (by decide) hb).trans ?_
  change (find scsiRe (scsiDir host channel target lun (block ++ dev))).map _ = _
  rw [hfind]
  simp

/-- **SCSI addresses are read as hexadecimal numbers.** -/
theorem extractSCSI_scsiDir {b : List Char} (hb : find scsiRe (b ++ ['/']) = none)
    {host channel target lun : ℕ} (htarget : target < 10000) (hlun : lun < 10000)
    (dev : List Char) :
    extractSCSI (String.ofList (b ++ scsiDir host channel target lun (block ++ dev))) =
      some (some ⟨asHex target, asHex lun⟩) := by
  obtain ⟨text, hfind⟩ := find_scsiDir hb host channel target lun dev
  obtain ⟨t, ht, ht'⟩ := hexToU32_decimal htarget
  obtain ⟨l, hl, hl'⟩ := hexToU32_decimal hlun
  rw [extractSCSI_of_find (by rw [String.toList_ofList]; exact hfind) rfl, ht, hl]
  simp [ht', hl']

/-- A link to a SCSI disk of a PCI device. -/
structure DiskNode extends Node where
  root : Root
  slot : Slot
  rest : List Char
  host : ℕ
  channel : ℕ
  scsiTarget : ℕ
  lun : ℕ
  path_eq : path = busPath root [slot] (rest ++ scsiDir host channel scsiTarget lun [])
  host_lt : host < 10000
  channel_lt : channel < 10000
  target_lt : scsiTarget < 10000
  lun_lt : lun < 10000
  /-- There is no other SCSI address in front. -/
  rest_free : find scsiRe (devices ++ rest ++ ['/']) = none

namespace DiskNode

variable {pciAddress : PCIAddress} {disk : SCSIDisk}

/-- The rest of its path, once the PCI address is cut out. -/
def remainder (x : DiskNode) : String :=
  String.ofList (devices ++ (x.rest ++
    scsiDir x.host x.channel x.scsiTarget x.lun (block ++ x.device)))

theorem leadsTo_iff' (x : DiskNode) {r : String} :
    LeadsTo pciAddress x.entry r ↔ x.slot.address = pciAddress ∧ r = x.remainder := by
  have hpath : x.path ++ (block ++ x.device) = busPath x.root [x.slot]
      (x.rest ++ scsiDir x.host x.channel x.scsiTarget x.lun (block ++ x.device)) := by
    rw [x.path_eq, busPath_append, List.append_assoc]
    simp [scsiDir]
  have h := extractPCIAddress_busPath x.root x.slot []
    (x.rest ++ scsiDir x.host x.channel x.scsiTarget x.lun (block ++ x.device))
  rw [← hpath, List.foldr_nil] at h
  have hentry : x.entry.target = .ok (String.ofList (x.path ++ (block ++ x.device))) := rfl
  rw [leadsTo_iff hentry h, Option.some.injEq]
  rfl

theorem extractSCSI_remainder (x : DiskNode) :
    extractSCSI x.remainder = some (some ⟨asHex x.scsiTarget, asHex x.lun⟩) := by
  rw [remainder, ← List.append_assoc]
  exact extractSCSI_scsiDir x.rest_free x.target_lt x.lun_lt x.device

theorem selects_iff (x : DiskNode) : Selects pciAddress (some disk) x.entry ↔
    x.slot.address = pciAddress ∧ asHex x.scsiTarget = disk.target ∧ asHex x.lun = disk.lun := by
  have hdisk : extractSCSI x.remainder = some (some disk) ↔
      asHex x.scsiTarget = disk.target ∧ asHex x.lun = disk.lun := by
    obtain ⟨target, lun⟩ := disk
    rw [extractSCSI_remainder]
    simp
  simp [Selects, x.leadsTo_iff', hdisk]

theorem not_fatal' (x : DiskNode) : ¬ Fatal pciAddress (some disk) x.entry :=
  not_fatal fun _ hleads => ⟨_, (x.leadsTo_iff'.1 hleads).2 ▸ x.extractSCSI_remainder⟩

end DiskNode

/-- A device is found. -/
def Finds (result : Option (Except String (String × ℕ × ℕ))) : Prop :=
  ∃ dev major minor, result = some (.ok (dev, major, minor)) ∧ dev ≠ ""

theorem finds_iff (sys : String) (dir : List DiskNode) (pciAddress : PCIAddress)
    (disk : SCSIDisk) :
    Finds (findDev sys (.ok (dir.map fun x => x.entry)) pciAddress (some disk)) ↔
      ∃ x ∈ dir, x.slot.address = pciAddress ∧ asHex x.scsiTarget = disk.target ∧
        asHex x.lun = disk.lun := by
  rcases findDev_of_not_fatal sys pciAddress (some disk) DiskNode.toNode dir
    (fun x _ => x.not_fatal') with
    ⟨hnone, hresult⟩ | ⟨x, hx, hsel, dev, hdev, hresult⟩
  · refine iff_of_false ?_ ?_
    · rintro ⟨dev, major, minor, hfound, hdev⟩
      have heq := Except.ok.inj (Option.some.inj (hresult.symm.trans hfound))
      exact hdev (congrArg Prod.fst heq).symm
    · rintro ⟨x, hx, h⟩
      exact hnone x hx (x.selects_iff.2 h)
  · exact iff_of_true ⟨dev, _, _, hresult, hdev⟩ ⟨x, hx, x.selects_iff.1 hsel⟩

/-- A disk that is found under a number other than its own would have to be accompanied by one
with that number, and that one by another, without end. -/
theorem single_digits {dir : List DiskNode}
    (h : ∀ x ∈ dir, ∃ y ∈ dir, y.scsiTarget = asHex x.scsiTarget ∧ y.lun = asHex x.lun) :
    ∀ x ∈ dir, x.scsiTarget < 10 ∧ x.lun < 10 := by
  intro x hx
  by_contra hbad
  have hgrow : ∀ n, ∃ y ∈ dir, ¬ (y.scsiTarget < 10 ∧ y.lun < 10) ∧
      n ≤ y.scsiTarget + y.lun := by
    intro n
    induction n with
    | zero => exact ⟨x, hx, hbad, Nat.zero_le _⟩
    | succ n ih =>
      obtain ⟨y, hy, hbad, hle⟩ := ih
      obtain ⟨z, hz, htarget, hlun⟩ := h y hy
      have htarget' := le_asHex y.scsiTarget
      have hlun' := le_asHex y.lun
      have hne : ¬ (asHex y.scsiTarget = y.scsiTarget ∧ asHex y.lun = y.lun) := by
        rwa [asHex_eq_iff, asHex_eq_iff]
      exact ⟨z, hz, by omega, by omega⟩
  obtain ⟨y, hy, -, hle⟩ := hgrow 20000
  have htarget := y.target_lt
  have hlun := y.lun_lt
  omega

/-- **SCSI addresses are matched exactly if they have single digits.**  That goes for a single
path, and for all requests to a listing of such links. -/
theorem scsi_matching_iff (sys : String) (dir : List DiskNode) :
    (∀ b host channel target lun dev, find scsiRe (b ++ ['/']) = none → host < 10000 →
      channel < 10000 → target < 10000 → lun < 10000 →
      (extractSCSI (String.ofList (b ++ scsiDir host channel target lun (block ++ dev))) =
        some (some ⟨target, lun⟩) ↔ target < 10 ∧ lun < 10)) ∧
    ((∀ pciAddress disk,
        Finds (findDev sys (.ok (dir.map fun x => x.entry)) pciAddress (some disk)) ↔
          ∃ x ∈ dir, x.slot.address = pciAddress ∧ x.scsiTarget = disk.target ∧
            x.lun = disk.lun) ↔
      ∀ x ∈ dir, x.scsiTarget < 10 ∧ x.lun < 10) := by
  refine ⟨fun b host channel target lun dev hb _ _ htarget hlun => ?_, ?_⟩
  · rw [extractSCSI_scsiDir hb htarget hlun]
    simp [asHex_eq_iff]
  · simp only [finds_iff]
    refine ⟨fun h => single_digits fun x hx => ?_, fun h pciAddress disk => ?_⟩
    · obtain ⟨y, hy, -, hy'⟩ := (h x.slot.address ⟨asHex x.scsiTarget, asHex x.lun⟩).1
        ⟨x, hx, rfl, rfl, rfl⟩
      exact ⟨y, hy, hy'⟩
    · refine exists_congr fun x => and_congr_right fun hx => ?_
      rw [asHex_eq_iff.2 (h x hx).1, asHex_eq_iff.2 (h x hx).2]

/-- The disk with target 10 is found as number 16, and not as number 10. -/
theorem findDev_confuses_targets :
    let path := String.ofList (busPath pciRoot [bridgeSlot]
      ("virtio3/host0".toList ++ scsiDir 0 0 10 0 (block ++ "sda".toList)))
    path = "../../devices/pci0000:00/0000:00:1c.0/virtio3/host0/target0:0:10/0:0:10:0/block/sda" ∧
    findDev "/sys/dev/block" (.ok [⟨"8:0", .ok path⟩]) bridgeSlot.address (some ⟨10, 0⟩) =
      some (.ok ("", 0, 0)) ∧
    findDev "/sys/dev/block" (.ok [⟨"8:0", .ok path⟩]) bridgeSlot.address (some ⟨16, 0⟩) =
      some (.ok ("sda", 8, 0)) := by
  decide +kernel

end Oim.Csi
