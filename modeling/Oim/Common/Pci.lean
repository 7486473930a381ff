import Oim.Common.Status

/-!
# PCI addresses

`pkg/oim-common/pci.go`: PCI addresses in extended BDF notation
(`[[domain]:][bus]:[device].[function]`), in which every part may be missing.  A
field that is not known is `0xFFFF`.

* `parseBDFString`, `prettyPCIAddress` — reading and printing.
* `completePCIAddress` — filling in unknown fields from a second address.
* `parseBDFString_total` — reading never panics, although `HexToU32` does on
  anything that is no number of 16 bits.
-/

namespace Oim

/-- `oim.PCIAddress`. -/
structure PCIAddress where
  domain : UInt32
  bus : UInt32
  device : UInt32
  function : UInt32
  deriving DecidableEq

/-- "Each field can be marked as unknown or unset with 0xFFFF." -/
def PCIAddress.unknown : UInt32 := 0xFFFF

/-! ## Reading -/

/-- The value of a hexadecimal digit. -/
def hexDigit? (c : Char) : Option ℕ :=
  if '0' ≤ c ∧ c ≤ '9' then some (c.toNat - '0'.toNat)
  else if 'a' ≤ c ∧ c ≤ 'f' then some (c.toNat - 'a'.toNat + 10)
  else if 'A' ≤ c ∧ c ≤ 'F' then some (c.toNat - 'A'.toNat + 10)
  else none

/-- The number that hexadecimal digits stand for. -/
def hexNat? (ds : List Char) : Option ℕ :=
  ds.foldlM (fun n c => (hexDigit? c).map fun d => 16 * n + d) 0

/-- `HexToU32`.  It panics (`none`) on what is no number of 16 bits. -/
def hexToU32 (hex : List Char) : Option UInt32 :=
  if hex = [] then some PCIAddress.unknown
  else match hexNat? hex with
    | some n => if n < 2 ^ 16 then some (UInt32.ofNat n) else none
    | none => none

/-- `\s`. -/
def isSpace (c : Char) : Bool :=
  c = ' ' ∨ c = '\t' ∨ c = '\n' ∨ c = '\r' ∨ c.toNat = 12

/-- At most `n` hexadecimal digits. -/
def isHex (n : ℕ) (ds : List Char) : Bool := ds.length ≤ n ∧ ds.all fun c => (hexDigit? c).isSome

/-- `[0-7]{0,1}`. -/
def isFunction (ds : List Char) : Bool := ds.length ≤ 1 ∧ ds.all fun c => '0' ≤ c ∧ c ≤ '7'

/-- The groups of the regular expression below, given the parts between the
colons. -/
def groupsBDF (domain bus rest : List Char) :
    Option (List Char × List Char × List Char × List Char) :=
  match rest.splitOn '.' with
  | [device, function] =>
    if isHex 4 domain ∧ isHex 2 bus ∧ isHex 2 device ∧ isFunction function then
      some (domain, bus, device, function)
    else none
  | _ => none

/-- The four groups of the regular expression
`^\s*(?:([0-9a-fA-F]{0,4}):)?([0-9a-fA-F]{0,2}):([0-9a-fA-F]{0,2})\.([0-7]{0,1})\s*$`.
A domain that is left out is the empty string. -/
def matchBDF (dev : String) : Option (List Char × List Char × List Char × List Char) :=
  match ((dev.toList.dropWhile isSpace).rdropWhile isSpace).splitOn ':' with
  | [bus, rest] => groupsBDF [] bus rest
  | [domain, bus, rest] => groupsBDF domain bus rest
  | _ => none

/-- `ParseBDFString`, with `none` for a panic. -/
def parseBDFString (dev : String) : Option (Except Status PCIAddress) :=
  match matchBDF dev with
  | none => some (.error (.new (quote dev ++
      " not in BDF notation ([[domain]:][bus]:[dev].[function])")))
  | some (domain, bus, device, function) => do
    return .ok ⟨← hexToU32 domain, ← hexToU32 bus, ← hexToU32 device, ← hexToU32 function⟩

/-! ## Completing and printing -/

/-- `CompletePCIAddress`. -/
def completePCIAddress (addr dflt : PCIAddress) : PCIAddress where
  domain := if addr.domain = PCIAddress.unknown then dflt.domain else addr.domain
  bus := if addr.bus = PCIAddress.unknown then dflt.bus else addr.bus
  device := if addr.device = PCIAddress.unknown then dflt.device else addr.device
  function := if addr.function = PCIAddress.unknown then dflt.function else addr.function

/-- The verb `%0<width>x`. -/
def hex (width : ℕ) (n : UInt32) : String :=
  String.ofList ((Nat.toDigits 16 n.toNat).leftpad width '0')

/-- `PrettyPCIAddress`. -/
def prettyPCIAddress : Option PCIAddress → String
  | none => ":."
  | some p =>
    (if p.domain ≠ PCIAddress.unknown then hex 4 p.domain ++ ":" else "") ++
    (if p.bus ≠ PCIAddress.unknown then hex 2 p.bus ++ ":" else ":") ++
    (if p.device ≠ PCIAddress.unknown then hex 2 p.device ++ "." else ".") ++
    (if p.function ≠ PCIAddress.unknown then hex 0 p.function else "")

example : prettyPCIAddress (some ⟨1, 2, PCIAddress.unknown, 4⟩) = "0001:02:.4" := by decide

/-! ## Reading never panics -/

theorem hexDigit?_lt {c : Char} {d : ℕ} (h : hexDigit? c = some d) : d < 16 := by
  have hn : ∀ {a b : Char}, a ≤ b → a.toNat ≤ b.toNat := fun h => h
  unfold hexDigit? at h
  split_ifs at h with h₁ h₂ h₃
  · have := hn h₁.2
    simp only [Option.some.injEq, show '0'.toNat = 48 by decide, show '9'.toNat = 57 by decide] at *
    omega
  · have := hn h₂.2
    simp only [Option.some.injEq, show 'a'.toNat = 97 by decide,
      show 'f'.toNat = 102 by decide] at *
    omega
  · have := hn h₃.2
    simp only [Option.some.injEq, show 'A'.toNat = 65 by decide, show 'F'.toNat = 70 by decide] at *
    omega

/-- Hexadecimal digits are a number, bounded by how many they are. -/
theorem hexNat?_eq_some {ds : List Char} (h : ∀ c ∈ ds, (hexDigit? c).isSome = true) :
    ∃ n, hexNat? ds = some n ∧ n < 16 ^ ds.length := by
  induction ds using List.reverseRecOn with
  | nil => exact ⟨0, rfl, by simp⟩
  | append_singleton ds c ih =>
    obtain ⟨n, hn, hlt⟩ := ih fun c' hc' => h c' (by simp [hc'])
    obtain ⟨d, hd⟩ := Option.isSome_iff_exists.1 (h c (by simp))
    have hdlt := hexDigit?_lt hd
    refine ⟨16 * n + d, ?_, ?_⟩
    · unfold hexNat? at hn ⊢
      rw [List.foldlM_append, hn]
      simp [hd]
    · rw [List.length_append, List.length_singleton, pow_succ]
      omega

theorem hexToU32_eq_some {ds : List Char} (h : isHex 4 ds = true) : ∃ n, hexToU32 ds = some n := by
  simp only [isHex, decide_eq_true_eq, List.all_eq_true] at h
  unfold hexToU32
  split_ifs
  · exact ⟨_, rfl⟩
  · obtain ⟨n, hn, hlt⟩ := hexNat?_eq_some h.2
    have hle : (16 : ℕ) ^ ds.length ≤ 16 ^ 4 := Nat.pow_le_pow_right (by decide) h.1
    rw [hn]
    exact ⟨_, if_pos (lt_of_lt_of_le hlt hle)⟩

theorem isHex_of_le {n : ℕ} {ds : List Char} (hn : n ≤ 4) (h : isHex n ds = true) :
    isHex 4 ds = true := by
  simp only [isHex, decide_eq_true_eq] at h ⊢
  exact ⟨h.1.trans hn, h.2⟩

theorem isHex_of_isFunction {ds : List Char} (h : isFunction ds = true) : isHex 4 ds = true := by
  simp only [isFunction, isHex, decide_eq_true_eq, List.all_eq_true] at h ⊢
  refine ⟨h.1.trans (by decide), fun c hc => ?_⟩
  obtain ⟨h₀, h₇⟩ := h.2 c hc
  rw [hexDigit?, if_pos ⟨h₀, h₇.trans (by decide)⟩]
  rfl

/-- What the groups look like. -/
theorem groupsBDF_eq_some {domain bus rest : List Char}
    {g : List Char × List Char × List Char × List Char} (h : groupsBDF domain bus rest = some g) :
    isHex 4 g.1 = true ∧ isHex 2 g.2.1 = true ∧ isHex 2 g.2.2.1 = true ∧
      isFunction g.2.2.2 = true := by
  unfold groupsBDF at h
  split at h
  · split_ifs at h with hg
    obtain rfl := Option.some.inj h
    exact hg
  · exact absurd h (by simp)

theorem matchBDF_eq_some {dev : String} {g : List Char × List Char × List Char × List Char}
    (h : matchBDF dev = some g) : isHex 4 g.1 = true ∧ isHex 2 g.2.1 = true ∧
      isHex 2 g.2.2.1 = true ∧ isFunction g.2.2.2 = true := by
  unfold matchBDF at h
  split at h
  · exact groupsBDF_eq_some h
  · exact groupsBDF_eq_some h
  · exact absurd h (by simp)

/-- **Reading never panics.** -/
theorem parseBDFString_total (dev : String) : ∃ r, parseBDFString dev = some r := by
  unfold parseBDFString
  cases hm : matchBDF dev with
  | none => exact ⟨_, rfl⟩
  | some g =>
    obtain ⟨h₁, h₂, h₃, h₄⟩ := matchBDF_eq_some hm
    obtain ⟨domain, hdomain⟩ := hexToU32_eq_some h₁
    obtain ⟨bus, hbus⟩ := hexToU32_eq_some (isHex_of_le (by decide) h₂)
    obtain ⟨device, hdevice⟩ := hexToU32_eq_some (isHex_of_le (by decide) h₃)
    obtain ⟨function, hfunction⟩ := hexToU32_eq_some (isHex_of_isFunction h₄)
    refine ⟨.ok ⟨domain, bus, device, function⟩, ?_⟩
    simp [hdomain, hbus, hdevice, hfunction]

end Oim
