import Oim.Common.Bdf
import Oim.Controller.Calls
import Oim.Lib.Pattern

/-!
# Finding the block device

`findDev` and its helpers (`pkg/oim-csi-driver/remote.go`): the links under `/sys/dev/block` are
read in the order of their names, and the first one that leads to the requested PCI device, and
there to the requested SCSI disk, is taken.  A panic is `none`.

* `pciRe`, `scsiRe`, `majorMinor` — the regular expressions, as `Pattern.Expr`.
* `examine`, `findDev` — what is made of one link, and of all of them; `scan_eq` — the result is
  that of the first link that is not skipped.
* `Skipped`, `examine_eq_skip_iff` — the links that are skipped.
* `extractPCIAddress_total` — looking for the PCI address never panics.
* `findDev_total_iff` — `findDev` neither panics nor stumbles over a device that is no SCSI disk,
  **unless** it gets to a link that belongs to the requested PCI device, while a SCSI disk was asked
  for, and that has no SCSI address in it or one with numbers that are too large (`Fatal`).
-/

namespace Oim.Csi

open Pattern

/-! ## The regular expressions -/

/-- `\d+`. -/
def digits (group : Bool) : Item Char := .rep Char.isDigit 1 none group

/-- `[0-9a-fA-F]{1,n}`. -/
def hexDigits (n : ℕ) (group : Bool) : Item Char :=
  .rep (fun c => (hexDigit? c).isSome) 1 (some n) group

/-- `([0-7])`. -/
def octalDigit : Item Char := .rep (fun c => '0' ≤ c ∧ c ≤ '7') 1 (some 1) true

/-- `^(\d+):(\d+)$`; the match has to begin at the beginning of the text. -/
def majorMinor : Expr Char := [digits true, .lit ':', digits true, .stop]

/-- `/pci[0-9a-fA-F]{1,4}:[0-9a-fA-F]{1,2}/([0-9a-fA-F]{1,4}):([0-9a-fA-F]{1,2}):`
`([0-9a-fA-F]{1,2})\.([0-7])/`. -/
def pciRe : Expr Char :=
  lits ['/', 'p', 'c', 'i'] ++ [hexDigits 4 false, .lit ':', hexDigits 2 false, .lit '/',
    hexDigits 4 true, .lit ':', hexDigits 2 true, .lit ':', hexDigits 2 true, .lit '.',
    octalDigit, .lit '/']

/-- `"/block/"`. -/
def block : List Char := ['/', 'b', 'l', 'o', 'c', 'k', '/']

/-- `/target\d+:\d+:\d+/\d+:\d+:(\d+):(\d+)/block/`. -/
def scsiRe : Expr Char :=
  lits ['/', 't', 'a', 'r', 'g', 'e', 't'] ++ [digits false, .lit ':', digits false, .lit ':',
    digits false, .lit '/', digits false, .lit ':', digits false, .lit ':', digits true, .lit ':',
    digits true] ++ lits block

/-! ## The functions -/

/-- `extractPCIAddress`: the address, if there is one, and the path without the match.  The
expression has four groups. -/
def extractPCIAddress (str : String) : Option (Option PCIAddress × String) :=
  match find pciRe str.toList with
  | some ⟨_, text, [domain, bus, device, function], _⟩ => do
    let addr : PCIAddress :=
      ⟨← hexToU32 domain, ← hexToU32 bus, ← hexToU32 device, ← hexToU32 function⟩
    return (some addr, String.ofList (cut text str.toList))
  | _ => some (none, str)

/-- `extractSCSI`.  The expression has two groups. -/
def extractSCSI (str : String) : Option (Option SCSIDisk) :=
  match find scsiRe str.toList with
  | some ⟨_, _, [target, lun], _⟩ => do
    return some ⟨(← hexToU32 target).toNat, (← hexToU32 lun).toNat⟩
  | _ => some none

/-- A link: its name, and what `os.Readlink` makes of it. -/
structure SysEntry where
  name : String
  target : Except String String

/-- What becomes of a link. -/
inductive Verdict where
  | skip
  | panic
  | fail (err : String)
  | found (dev : String) (major minor : ℕ)
  deriving DecidableEq

/-- `strconv.Atoi` for digits, without its error: what is too large becomes the largest
`int`. -/
def atoi (ds : List Char) : ℕ := min (Nat.ofDigitChars 10 ds 0) (2 ^ 63 - 1)

/-- A link that leads to the right device. -/
def accept (sys name target : String) : Verdict :=
  match afterLast block target.toList with
  | none => .skip
  | some dev =>
    match matchAt majorMinor name.toList with
    | some ([major, minor], _) => .found (String.ofList dev) (atoi major) (atoi minor)
    | _ => .fail ("Unexpected entry in " ++ sys ++ ", not a major:minor symlink: " ++ name)

/-- The body of the loop of `findDev`. -/
def examine (sys : String) (pciAddress : PCIAddress) (scsiDisk : Option SCSIDisk)
    (entry : SysEntry) : Verdict :=
  match entry.target with
  | .error err => .fail err
  | .ok target =>
    match extractPCIAddress target with
    | none => .panic
    | some (currentAddr, remainder) =>
      if currentAddr ≠ some pciAddress then .skip
      else match scsiDisk with
        | none => accept sys entry.name target
        | some disk =>
          match extractSCSI remainder with
          | none => .panic
          -- `*currentSCSI` of a nil pointer
          | some none => .panic
          | some (some currentSCSI) =>
            if currentSCSI ≠ disk then .skip else accept sys entry.name target

/-- What a verdict means for the whole search; nothing is found if all links are skipped. -/
def Verdict.result : Verdict → Option (Except String (String × ℕ × ℕ))
  | .skip => some (.ok ("", 0, 0))
  | .panic => none
  | .fail err => some (.error err)
  | .found dev major minor => some (.ok (dev, major, minor))

/-- The loop of `findDev`. -/
def scan (sys : String) (pciAddress : PCIAddress) (scsiDisk : Option SCSIDisk) :
    List SysEntry → Option (Except String (String × ℕ × ℕ))
  | [] => Verdict.skip.result
  | entry :: files =>
    match examine sys pciAddress scsiDisk entry with
    | .skip => scan sys pciAddress scsiDisk files
    | verdict => verdict.result

/-- `findDev`, given what `ioutil.ReadDir` returns. -/
def findDev (sys : String) (files : Except String (List SysEntry)) (pciAddress : PCIAddress)
    (scsiDisk : Option SCSIDisk) : Option (Except String (String × ℕ × ℕ)) :=
  match files with
  | .error err => some (.error err)
  | .ok files => scan sys pciAddress scsiDisk files

/-! ## The search -/

section Scan

variable {sys : String} {pciAddress : PCIAddress} {scsiDisk : Option SCSIDisk}

/-- **The first link that is not skipped decides.** -/
theorem scan_eq (files : List SysEntry) : scan sys pciAddress scsiDisk files =
    (((files.map (examine sys pciAddress scsiDisk)).find? (· ≠ .skip)).getD .skip).result := by
  induction files with
  | nil => rfl
  | cons entry files ih =>
    rw [scan, List.map_cons]
    cases hv : examine sys pciAddress scsiDisk entry with
    | skip => exact ih
    | panic => rfl
    | fail err => rfl
    | found dev major minor => rfl

theorem scan_of_skip {before : List SysEntry} {entry : SysEntry} (after : List SysEntry)
    (hskip : ∀ x ∈ before, examine sys pciAddress scsiDisk x = .skip)
    (hentry : examine sys pciAddress scsiDisk entry ≠ .skip) :
    scan sys pciAddress scsiDisk (before ++ entry :: after) =
      (examine sys pciAddress scsiDisk entry).result := by
  have hnone : (before.map (examine sys pciAddress scsiDisk)).find? (· ≠ .skip) = none := by
    simpa using hskip
  rw [scan_eq, List.map_append, List.find?_append, hnone, List.map_cons, Option.none_or,
    List.find?_cons_of_pos (by simpa using hentry)]
  rfl

/-- Either all links are skipped, or there is a first one that is not. -/
theorem first_not_skip {α : Type} (f : α → Verdict) (l : List α) :
    (∀ x ∈ l, f x = .skip) ∨ ∃ before x after, l = before ++ x :: after ∧
      (∀ y ∈ before, f y = .skip) ∧ f x ≠ .skip := by
  cases hf : l.find? (fun x => f x ≠ .skip) with
  | none => exact Or.inl (by simpa using hf)
  | some x =>
    obtain ⟨hx, before, after, rfl, hbefore⟩ := List.find?_eq_some_iff_append.1 hf
    exact Or.inr ⟨before, x, after, rfl, by simpa using hbefore, by simpa using hx⟩

theorem scan_of_all_skip {files : List SysEntry}
    (h : ∀ x ∈ files, examine sys pciAddress scsiDisk x = .skip) :
    scan sys pciAddress scsiDisk files = some (.ok ("", 0, 0)) := by
  have hnone : (files.map (examine sys pciAddress scsiDisk)).find? (· ≠ .skip) = none := by
    simpa using h
  rw [scan_eq, hnone]
  rfl

end Scan

/-! ## What the expressions let through -/

theorem isHex_of_admits {n : ℕ} {u : List Char}
    (h : Admits ((fun c => (hexDigit? c).isSome), 1, some n) u) : isHex n u = true := by
  simp only [isHex, decide_eq_true_eq, List.all_eq_true]
  exact ⟨h.2.2 n rfl, h.1⟩

theorem isFunction_of_admits {u : List Char}
    (h : Admits ((fun c : Char => decide ('0' ≤ c ∧ c ≤ '7')), 1, some 1) u) :
    isFunction u = true := by
  simp only [isFunction, decide_eq_true_eq, List.all_eq_true]
  exact ⟨h.2.2 1 rfl, fun c hc => by simpa using h.1 c hc⟩

/-- A PCI address consists of four groups that `HexToU32` can read. -/
theorem groups_pciRe {t : List Char} {x : Hit Char} (h : find pciRe t = some x) :
    ∃ domain bus device function, x.groups = [domain, bus, device, function] ∧
      isHex 4 domain = true ∧ isHex 2 bus = true ∧ isHex 2 device = true ∧
      isFunction function = true := by
  obtain ⟨-, hfits, -⟩ := find_eq_some h
  have hgroups : List.Forall₂ Admits [((fun c => (hexDigit? c).isSome), 1, some 4),
      ((fun c => (hexDigit? c).isSome), 1, some 2), ((fun c => (hexDigit? c).isSome), 1, some 2),
      ((fun c : Char => decide ('0' ≤ c ∧ c ≤ '7')), 1, some 1)] x.groups := hfits.groups
  obtain ⟨domain, _, h₁, hgroups₁, hx⟩ := List.forall₂_cons_left_iff.1 hgroups
  obtain ⟨bus, _, h₂, hgroups₂, rfl⟩ := List.forall₂_cons_left_iff.1 hgroups₁
  obtain ⟨device, _, h₃, hgroups₃, rfl⟩ := List.forall₂_cons_left_iff.1 hgroups₂
  obtain ⟨function, _, h₄, hgroups₄, rfl⟩ := List.forall₂_cons_left_iff.1 hgroups₃
  obtain rfl := List.forall₂_nil_left_iff.1 hgroups₄
  exact ⟨domain, bus, device, function, hx, isHex_of_admits h₁, isHex_of_admits h₂,
    isHex_of_admits h₃, isFunction_of_admits h₄⟩

/-- **Looking for a PCI address never panics.** -/
theorem extractPCIAddress_total (str : String) : ∃ r, extractPCIAddress str = some r := by
  unfold extractPCIAddress
  cases hf : find pciRe str.toList with
  | none => exact ⟨_, rfl⟩
  | some x =>
    obtain ⟨ds, bs, vs, fs, hx, h₁, h₂, h₃, h₄⟩ := groups_pciRe hf
    obtain ⟨before, text, groups, after⟩ := x
    obtain rfl : groups = [ds, bs, vs, fs] := hx
    obtain ⟨domain, hdomain⟩ := hexToU32_eq_some h₁
    obtain ⟨bus, hbus⟩ := hexToU32_eq_some (isHex_of_le (by decide) h₂)
    obtain ⟨device, hdevice⟩ := hexToU32_eq_some (isHex_of_le (by decide) h₃)
    obtain ⟨function, hfunction⟩ := hexToU32_eq_some (isHex_of_isFunction h₄)
    simp [hdomain, hbus, hdevice, hfunction]

/-- Numbers that `HexToU32` panics on. -/
def Overflows (ds : List Char) : Prop := ∃ n, hexNat? ds = some n ∧ 2 ^ 16 ≤ n

theorem hexDigit?_of_isDigit {c : Char} (h : c.isDigit = true) :
    hexDigit? c = some (c.toNat - '0'.toNat) := by
  simp only [Char.isDigit, Bool.and_eq_true, decide_eq_true_eq] at h
  exact if_pos h

/-- A SCSI address has two groups of digits. -/
theorem groups_scsiRe {t : List Char} {x : Hit Char} (h : find scsiRe t = some x) :
    ∃ target lun, x.groups = [target, lun] ∧ (∀ c ∈ target, c.isDigit = true) ∧ target ≠ [] ∧
      (∀ c ∈ lun, c.isDigit = true) ∧ lun ≠ [] := by
  obtain ⟨-, hfits, -⟩ := find_eq_some h
  have hgroups : List.Forall₂ Admits [(Char.isDigit, 1, none), (Char.isDigit, 1, none)] x.groups :=
    hfits.groups
  obtain ⟨target, _, h₁, hgroups₁, hx⟩ := List.forall₂_cons_left_iff.1 hgroups
  obtain ⟨lun, _, h₂, hgroups₂, rfl⟩ := List.forall₂_cons_left_iff.1 hgroups₁
  obtain rfl := List.forall₂_nil_left_iff.1 hgroups₂
  exact ⟨target, lun, hx, h₁.1, List.ne_nil_of_length_pos h₁.2.1, h₂.1,
    List.ne_nil_of_length_pos h₂.2.1⟩

/-- `HexToU32` on decimal digits. -/
theorem hexToU32_eq_none_iff {ds : List Char} (hds : ∀ c ∈ ds, c.isDigit = true) (hne : ds ≠ []) :
    hexToU32 ds = none ↔ Overflows ds := by
  obtain ⟨n, hn, -⟩ := hexNat?_eq_some fun c hc => by rw [hexDigit?_of_isDigit (hds c hc)]; rfl
  rw [hexToU32, if_neg hne, Overflows, hn]
  simp

theorem extractSCSI_of_find {str : String} {x : Hit Char} {ts ls : List Char}
    (hf : find scsiRe str.toList = some x) (hx : x.groups = [ts, ls]) :
    extractSCSI str = (hexToU32 ts).bind fun t =>
      (hexToU32 ls).bind fun l => some (some ⟨t.toNat, l.toNat⟩) := by
  obtain ⟨before, text, groups, after⟩ := x
  obtain rfl : groups = [ts, ls] := hx
  unfold extractSCSI
  rw [hf]
  rfl

theorem extractSCSI_of_find_none {str : String} (hf : find scsiRe str.toList = none) :
    extractSCSI str = some none := by
  unfold extractSCSI
  rw [hf]

/-- What becomes of a path with a SCSI address: a panic if a number is too large. -/
theorem extractSCSI_of_find_some {str : String} {x : Hit Char}
    (hf : find scsiRe str.toList = some x) :
    (extractSCSI str = none ∧ ∃ ds ∈ x.groups, Overflows ds) ∨
      (∃ disk, extractSCSI str = some (some disk)) ∧ ¬ ∃ ds ∈ x.groups, Overflows ds := by
  obtain ⟨ts, ls, hx, hts, hne, hls, hne'⟩ := groups_scsiRe hf
  have hor : (∃ ds ∈ x.groups, Overflows ds) ↔ hexToU32 ts = none ∨ hexToU32 ls = none := by
    rw [hx, hexToU32_eq_none_iff hts hne, hexToU32_eq_none_iff hls hne']
    simp
  rw [hor, extractSCSI_of_find hf hx]
  cases hexToU32 ts <;> cases hexToU32 ls <;> simp

/-! ## When it panics -/

/-- The link leads to the PCI device, with the rest of its path. -/
def LeadsTo (pciAddress : PCIAddress) (entry : SysEntry) (remainder : String) : Prop :=
  ∃ target, entry.target = .ok target ∧
    extractPCIAddress target = some (some pciAddress, remainder)

/-- A block device of the PCI device that is no SCSI disk. -/
def NoDisk (pciAddress : PCIAddress) (entry : SysEntry) : Prop :=
  ∃ remainder, LeadsTo pciAddress entry remainder ∧ find scsiRe remainder.toList = none

/-- A link that makes `findDev` panic: a SCSI disk was asked for, and the link leads to the right
PCI device, but to no SCSI disk, or to one whose numbers are too large. -/
def Fatal (pciAddress : PCIAddress) (scsiDisk : Option SCSIDisk) (entry : SysEntry) : Prop :=
  scsiDisk.isSome = true ∧ (NoDisk pciAddress entry ∨
    ∃ remainder x, LeadsTo pciAddress entry remainder ∧
      find scsiRe remainder.toList = some x ∧ ∃ ds ∈ x.groups, Overflows ds)

theorem accept_ne_panic (sys name target : String) : accept sys name target ≠ .panic := by
  unfold accept
  split
  · simp
  · split <;> simp

theorem accept_eq_skip_iff {sys name target : String} :
    accept sys name target = .skip ↔ afterLast block target.toList = none := by
  unfold accept
  split
  · simp_all
  · split <;> simp_all

section Panic

variable {sys : String} {pciAddress : PCIAddress} {scsiDisk : Option SCSIDisk} {entry : SysEntry}

theorem leadsTo_iff {target remainder r : String} {addr : Option PCIAddress}
    (htarget : entry.target = .ok target) (h : extractPCIAddress target = some (addr, remainder)) :
    LeadsTo pciAddress entry r ↔ addr = some pciAddress ∧ r = remainder := by
  constructor
  · rintro ⟨target', htarget', h'⟩
    obtain rfl := Except.ok.inj (htarget.symm.trans htarget')
    obtain ⟨rfl, rfl⟩ := Prod.mk.inj (Option.some.inj (h.symm.trans h'))
    exact ⟨rfl, rfl⟩
  · rintro ⟨rfl, rfl⟩
    exact ⟨target, htarget, h⟩

variable (sys) in
theorem examine_eq_panic_iff :
    examine sys pciAddress scsiDisk entry = .panic ↔ Fatal pciAddress scsiDisk entry := by
  unfold examine Fatal NoDisk
  cases htarget : entry.target with
  | error err =>
    refine iff_of_false (by simp) ?_
    rintro ⟨-, ⟨r, ⟨t, ht, -⟩, -⟩ | ⟨r, x, ⟨t, ht, -⟩, -⟩⟩ <;> simp [htarget] at ht
  | ok target =>
    obtain ⟨⟨addr, remainder⟩, hextract⟩ := extractPCIAddress_total target
    simp only [hextract, leadsTo_iff htarget hextract]
    by_cases haddr : addr = some pciAddress
    · cases scsiDisk with
      | none => simp [haddr, accept_ne_panic]
      | some disk =>
        cases hf : find scsiRe remainder.toList with
        | none => simp [haddr, hf, extractSCSI_of_find_none hf]
        | some x =>
          rcases extractSCSI_of_find_some hf with ⟨hnone, hover⟩ | ⟨⟨current, hsome⟩, hover⟩
          · simpa [haddr, hf, hnone] using hover
          · by_cases hcurrent : current = disk
            · simpa [haddr, hf, hsome, hcurrent, accept_ne_panic] using hover
            · simpa [haddr, hf, hsome, hcurrent] using hover
    · simp [haddr]

/-- The link leads to what was asked for. -/
def Selects (pciAddress : PCIAddress) (scsiDisk : Option SCSIDisk) (entry : SysEntry) : Prop :=
  ∃ remainder, LeadsTo pciAddress entry remainder ∧
    ∀ disk ∈ scsiDisk, extractSCSI remainder = some (some disk)

variable (sys pciAddress scsiDisk) in
/-- A link that can be read is accepted if it leads to what was asked for, and skipped
otherwise, unless it is fatal. -/
theorem examine_spec {target : String} (htarget : entry.target = .ok target) :
    (Selects pciAddress scsiDisk entry ∧
      examine sys pciAddress scsiDisk entry = accept sys entry.name target) ∨
    (¬ Selects pciAddress scsiDisk entry ∧
      (Fatal pciAddress scsiDisk entry ∨ examine sys pciAddress scsiDisk entry = .skip)) := by
  rw [← examine_eq_panic_iff sys]
  obtain ⟨⟨addr, remainder⟩, hextract⟩ := extractPCIAddress_total target
  unfold examine Selects
  simp only [htarget, hextract, leadsTo_iff htarget hextract]
  by_cases haddr : addr = some pciAddress
  · cases scsiDisk with
    | none => simp [haddr]
    | some disk =>
      rcases hscsi : extractSCSI remainder with _ | _ | current
      · simp [haddr, hscsi]
      · simp [haddr, hscsi]
      · by_cases hcurrent : current = disk <;> simp [haddr, hscsi, hcurrent]
  · simp [haddr]

/-- A link that `findDev` passes over: it can be read, but it leads to another PCI device, or to
another SCSI disk than the one that was asked for, or `/block/` is missing in it. -/
def Skipped (pciAddress : PCIAddress) (scsiDisk : Option SCSIDisk) (entry : SysEntry) : Prop :=
  ∃ target, entry.target = .ok target ∧
    ((∀ remainder, ¬ LeadsTo pciAddress entry remainder) ∨
      (∃ remainder, LeadsTo pciAddress entry remainder ∧
        ∃ disk ∈ scsiDisk, ∃ other, other ≠ disk ∧ extractSCSI remainder = some (some other)) ∨
      (Selects pciAddress scsiDisk entry ∧ afterLast block target.toList = none))

variable (sys) in
theorem examine_eq_skip_iff :
    examine sys pciAddress scsiDisk entry = .skip ↔ Skipped pciAddress scsiDisk entry := by
  unfold examine Skipped Selects
  cases htarget : entry.target with
  | error err => simp
  | ok target =>
    obtain ⟨⟨addr, remainder⟩, hextract⟩ := extractPCIAddress_total target
    simp only [hextract, leadsTo_iff htarget hextract]
    by_cases haddr : addr = some pciAddress
    · cases scsiDisk with
      | none => simp [haddr, accept_eq_skip_iff]
      | some disk =>
        rcases hscsi : extractSCSI remainder with _ | _ | current
        · simp [haddr, hscsi]
        · simp [haddr, hscsi]
        · by_cases hcurrent : current = disk
          · simp [haddr, hscsi, hcurrent, accept_eq_skip_iff]
          · simp [haddr, hscsi, hcurrent]
    · simp [haddr]

theorem NoDisk.fatal (h : NoDisk pciAddress entry) (hscsi : scsiDisk.isSome = true) :
    Fatal pciAddress scsiDisk entry := ⟨hscsi, Or.inl h⟩

/-- A link to a readable SCSI disk is not fatal. -/
theorem not_fatal (h : ∀ r, LeadsTo pciAddress entry r → ∃ disk, extractSCSI r = some (some disk)) :
    ¬ Fatal pciAddress scsiDisk entry := by
  rintro ⟨-, ⟨r, hleads, hnone⟩ | ⟨r, x, hleads, hsome, hover⟩⟩
  · obtain ⟨disk, hdisk⟩ := h r hleads
    rw [extractSCSI_of_find_none hnone] at hdisk
    exact absurd hdisk (by simp)
  · obtain ⟨disk, hdisk⟩ := h r hleads
    rcases extractSCSI_of_find_some hsome with ⟨hnone, -⟩ | ⟨-, hnot⟩
    · exact absurd (hnone.symm.trans hdisk) (by simp)
    · exact hnot hover

/-- A link behind one that decides does not matter. -/
theorem scan_erase {before after : List SysEntry}
    (h : ¬ ∀ x ∈ before, examine sys pciAddress scsiDisk x = .skip) :
    scan sys pciAddress scsiDisk (before ++ entry :: after) =
      scan sys pciAddress scsiDisk (before ++ after) := by
  obtain ⟨pre, x, post, rfl, hpre, hx⟩ := (first_not_skip _ before).resolve_left h
  rw [List.append_assoc, List.append_assoc, List.cons_append, List.cons_append,
    scan_of_skip _ hpre hx, scan_of_skip _ hpre hx]

/-! ### Listings of links of some form -/

theorem findDev_of_skip {α : Type} {link : α → SysEntry} {before after : List α} {x : α}
    (hskip : ∀ y ∈ before, examine sys pciAddress scsiDisk (link y) = .skip)
    (hx : examine sys pciAddress scsiDisk (link x) ≠ .skip) :
    findDev sys (.ok ((before ++ x :: after).map link)) pciAddress scsiDisk =
      (examine sys pciAddress scsiDisk (link x)).result := by
  rw [findDev, List.map_append, List.map_cons]
  exact scan_of_skip _ (List.forall_mem_map.2 hskip) hx

theorem findDev_of_all_skip {α : Type} {link : α → SysEntry} {l : List α}
    (h : ∀ y ∈ l, examine sys pciAddress scsiDisk (link y) = .skip) :
    findDev sys (.ok (l.map link)) pciAddress scsiDisk = some (.ok ("", 0, 0)) :=
  scan_of_all_skip (List.forall_mem_map.2 h)

end Panic

/-- **When `findDev` panics.**  For every listing it returns, and links to other devices of the same
PCI device do not matter when a SCSI disk is asked for, exactly unless it gets to a fatal link. -/
theorem findDev_total_iff (sys : String) (files : Except String (List SysEntry))
    (pciAddress : PCIAddress) (scsiDisk : Option SCSIDisk) :
    ((∃ r, findDev sys files pciAddress scsiDisk = some r) ∧
      ∀ before entry after, files = .ok (before ++ entry :: after) → scsiDisk.isSome = true →
        NoDisk pciAddress entry →
          findDev sys files pciAddress scsiDisk =
            findDev sys (.ok (before ++ after)) pciAddress scsiDisk) ↔
      ¬ ∃ before entry after, files = .ok (before ++ entry :: after) ∧
        (∀ x ∈ before, Skipped pciAddress scsiDisk x) ∧ Fatal pciAddress scsiDisk entry := by
  simp only [← examine_eq_skip_iff sys]
  constructor
  · rintro ⟨⟨r, hr⟩, -⟩ ⟨before, entry, after, rfl, hskip, hfatal⟩
    have hpanic := (examine_eq_panic_iff sys).2 hfatal
    have hentry : examine sys pciAddress scsiDisk entry ≠ .skip := by simp [hpanic]
    rw [findDev, scan_of_skip after hskip hentry, hpanic] at hr
    exact absurd hr (by simp [Verdict.result])
  · intro hsafe
    refine ⟨?_, ?_⟩
    · cases files with
      | error err => exact ⟨_, rfl⟩
      | ok files =>
        rcases first_not_skip (examine sys pciAddress scsiDisk) files with
          hall | ⟨before, entry, after, rfl, hskip, hentry⟩
        · exact ⟨_, scan_of_all_skip hall⟩
        · have hpanic : examine sys pciAddress scsiDisk entry ≠ .panic := fun h =>
            hsafe ⟨before, entry, after, rfl, hskip, (examine_eq_panic_iff sys).1 h⟩
          rw [findDev, scan_of_skip after hskip hentry]
          cases hv : examine sys pciAddress scsiDisk entry with
          | panic => exact absurd hv hpanic
          | skip => exact ⟨_, rfl⟩
          | fail err => exact ⟨_, rfl⟩
          | found dev major minor => exact ⟨_, rfl⟩
    · rintro before entry after rfl hscsi hno
      refine scan_erase fun hskip => hsafe ?_
      exact ⟨before, entry, after, rfl, hskip, hno.fatal hscsi⟩

/-- A disk with an NVMe controller of its own, as it is listed. -/
def nvmeDisk : SysEntry :=
  ⟨"259:0", .ok "../../devices/pci0000:00/0000:00:15.0/nvme/nvme0/block/nvme0n1"⟩

/-- No SCSI address: the nil pointer is dereferenced. -/
theorem findDev_panics :
    findDev "/sys/dev/block" (.ok [nvmeDisk]) ⟨0, 0, 0x15, 0⟩ (some ⟨7, 0⟩) = none := by
  decide +kernel

end Oim.Csi
