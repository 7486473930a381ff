import Oim.Lib.BitFields

/-!
# Device numbers

`makedev` (`pkg/oim-csi-driver/remote.go`) packs the major and the minor number of a device into
one, in glibc's encoding: of the hex digits `MMMM Mmmm mmmM MMmm` those of the major number are
written as `M` and those of the minor number as `m`.

* `makedev` — the code; `toNat_makedev` — the number it computes, field by field (`layout`).
* `gnuDevMajor`, `gnuDevMinor` — glibc's functions for the other direction.
* `makedev_lossless` — they give back what went in, for all numbers of 32 bits.
* `newDecodeDev`, `newDecodeDev_makedev_iff` — the kernel looks at the lower half only, so it gets
  the right device exactly if major and minor number have no more than 12 and 20 bits.
-/

namespace Oim.Csi

open BitFields

/-! ## The code -/

/-- `makedev`.  The type `int` has 64 bits, and `x &^ y` is `x &&& ~~~y`. -/
def makedev (major minor : Int64) : Int64 :=
  (minor &&& (0xff : Int64)) ||| ((major &&& (0xfff : Int64)) <<< (8 : Int64)) |||
    ((minor &&& ~~~(0xff : Int64)) <<< (12 : Int64)) |||
    ((major &&& ~~~(0xfff : Int64)) <<< (32 : Int64))

/-- `gnu_dev_major`, with a result of type `unsigned int`. -/
def gnuDevMajor (dev : UInt64) : UInt32 :=
  (((dev >>> (8 : UInt64)) &&& (0xfff : UInt64)) |||
    ((dev >>> (32 : UInt64)) &&& ~~~(0xfff : UInt64))).toUInt32

/-- `gnu_dev_minor`, with a result of type `unsigned int`.  Something is cut off there: above the
32 bits of the minor number are the upper ones of the major number. -/
def gnuDevMinor (dev : UInt64) : UInt32 :=
  ((dev &&& (0xff : UInt64)) ||| ((dev >>> (12 : UInt64)) &&& ~~~(0xff : UInt64))).toUInt32

/-! ## Encoding -/

/-- The fields of a device number. -/
def layout (major minor : ℕ) : List Field :=
  [⟨8, minor⟩, ⟨12, major⟩, ⟨24, minor / 2 ^ 8⟩, ⟨20, major / 2 ^ 12⟩]

/-- The fields are where the format has them. -/
theorem extract_layout (major minor : ℕ) :
    extract (pack (layout major minor)) 0 8 = minor % 2 ^ 8 ∧
    extract (pack (layout major minor)) 8 12 = major % 2 ^ 12 ∧
    extract (pack (layout major minor)) 20 24 = minor / 2 ^ 8 % 2 ^ 24 ∧
    extract (pack (layout major minor)) 44 20 = major / 2 ^ 12 % 2 ^ 20 :=
  ⟨extract_pack [] [⟨12, major⟩, ⟨24, minor / 2 ^ 8⟩, ⟨20, major / 2 ^ 12⟩] ⟨8, minor⟩,
    extract_pack [⟨8, minor⟩] [⟨24, minor / 2 ^ 8⟩, ⟨20, major / 2 ^ 12⟩] ⟨12, major⟩,
    extract_pack [⟨8, minor⟩, ⟨12, major⟩] [⟨20, major / 2 ^ 12⟩] ⟨24, minor / 2 ^ 8⟩,
    extract_pack [⟨8, minor⟩, ⟨12, major⟩, ⟨24, minor / 2 ^ 8⟩] [] ⟨20, major / 2 ^ 12⟩⟩

theorem toBitVec_makedev (major minor : Int64) : (makedev major minor).toBitVec =
    (minor.toBitVec &&& mask 64 8) ||| ((major.toBitVec &&& mask 64 12) <<< 8) |||
      ((minor.toBitVec &&& ~~~mask 64 8) <<< 12) |||
      ((major.toBitVec &&& ~~~mask 64 12) <<< 32) := by
  simp [makedev, mask]

/-- **What `makedev` computes**, as an unsigned number. -/
theorem toNat_makedev (major minor : Int64) (hminor : minor.toUInt64.toNat < 2 ^ 32) :
    (makedev major minor).toUInt64.toNat =
      pack (layout major.toUInt64.toNat minor.toUInt64.toNat) := by
  generalize hM : major.toUInt64.toNat = M
  generalize hm : minor.toUInt64.toNat = m at hminor
  have hM' : major.toBitVec.toNat = M := hM
  have hm' : minor.toBitVec.toNat = m := hm
  -- no bit of a minor number in range is moved out of its field
  have hhigh : m / 2 ^ 8 % 2 ^ (64 - (8 + 12)) = m / 2 ^ 8 % 2 ^ 24 := by omega
  change (makedev major minor).toBitVec.toNat = _
  rw [toBitVec_makedev, BitVec.toNat_or, BitVec.toNat_or, BitVec.toNat_or,
    toNat_and_mask _ (by decide), toNat_and_mask_shiftLeft _ (by decide),
    toNat_and_not_mask_shiftLeft _ (by decide), toNat_and_not_mask_shiftLeft _ (by decide),
    hM', hm', hhigh]
  -- from the lowest field to the highest
  have h₁ : m % 2 ^ 8 = pack [⟨8, m⟩] := by simp [pack]
  have h₂ : pack [⟨8, m⟩] ||| 2 ^ 8 * (M % 2 ^ 12) = pack [⟨8, m⟩, ⟨12, M⟩] :=
    pack_or [⟨8, m⟩] ⟨12, M⟩
  have h₃ : pack [⟨8, m⟩, ⟨12, M⟩] ||| 2 ^ (8 + 12) * (m / 2 ^ 8 % 2 ^ 24) =
      pack [⟨8, m⟩, ⟨12, M⟩, ⟨24, m / 2 ^ 8⟩] := pack_or [⟨8, m⟩, ⟨12, M⟩] ⟨24, m / 2 ^ 8⟩
  rw [h₁, h₂, h₃]
  exact pack_or [⟨8, m⟩, ⟨12, M⟩, ⟨24, m / 2 ^ 8⟩] ⟨20, M / 2 ^ 12⟩

/-! ## Decoding -/

theorem toBitVec_gnuDevMajor (dev : UInt64) : (gnuDevMajor dev).toBitVec =
    ((dev.toBitVec >>> 8 &&& mask 64 12) |||
      (dev.toBitVec >>> 32 &&& ~~~mask 64 12)).setWidth 32 := by
  simp [gnuDevMajor, mask]

theorem toBitVec_gnuDevMinor (dev : UInt64) : (gnuDevMinor dev).toBitVec =
    ((dev.toBitVec &&& mask 64 8) |||
      (dev.toBitVec >>> 12 &&& ~~~mask 64 8)).setWidth 32 := by
  simp [gnuDevMinor, mask]

/-- The major number, put together from its two parts. -/
theorem toNat_gnuDevMajor (dev : UInt64) : (gnuDevMajor dev).toNat =
    extract dev.toNat 8 12 + 2 ^ 12 * extract dev.toNat 44 20 := by
  change (gnuDevMajor dev).toBitVec.toNat = _
  rw [toBitVec_gnuDevMajor, toNat_low_or_high _ _ (by decide) 20, BitVec.toNat_ushiftRight,
    BitVec.toNat_ushiftRight, extract_shiftRight, extract_shiftRight, UInt64.toNat_toBitVec]

/-- The minor number, put together from its two parts. -/
theorem toNat_gnuDevMinor (dev : UInt64) : (gnuDevMinor dev).toNat =
    extract dev.toNat 0 8 + 2 ^ 8 * extract dev.toNat 20 24 := by
  change (gnuDevMinor dev).toBitVec.toNat = _
  rw [toBitVec_gnuDevMinor, toNat_low_or_high _ _ (by decide) 24, BitVec.toNat_ushiftRight,
    extract_shiftRight, UInt64.toNat_toBitVec]

section RoundTrip

variable {major minor : Int64} (hminor : minor.toUInt64.toNat < 2 ^ 32)
include hminor

/-- Of the major number, 32 bits are kept. -/
theorem toNat_gnuDevMajor_makedev : (gnuDevMajor (makedev major minor).toUInt64).toNat =
    major.toUInt64.toNat % 2 ^ 32 := by
  obtain ⟨-, hlow, -, hhigh⟩ := extract_layout major.toUInt64.toNat minor.toUInt64.toNat
  rw [toNat_gnuDevMajor, toNat_makedev major minor hminor, hlow, hhigh, mod_add_mod]

/-- The minor number is kept. -/
theorem toNat_gnuDevMinor_makedev : (gnuDevMinor (makedev major minor).toUInt64).toNat =
    minor.toUInt64.toNat := by
  obtain ⟨hlow, -, hhigh, -⟩ := extract_layout major.toUInt64.toNat minor.toUInt64.toNat
  rw [toNat_gnuDevMinor, toNat_makedev major minor hminor, hlow, hhigh, mod_add_mod,
    Nat.mod_eq_of_lt hminor]

/-- Without a result of 32 bits, the upper part of the major number would follow above the minor
number. -/
theorem toNat_uncut_minor :
    (((makedev major minor).toUInt64 &&& (0xff : UInt64)) |||
      (((makedev major minor).toUInt64 >>> (12 : UInt64)) &&& ~~~(0xff : UInt64))).toNat =
      minor.toUInt64.toNat + 2 ^ 32 * (major.toUInt64.toNat / 2 ^ 12 % 2 ^ 20) := by
  have hd := toNat_makedev major minor hminor
  generalize (makedev major minor).toUInt64 = dev at hd ⊢
  generalize major.toUInt64.toNat = M at hd ⊢
  generalize minor.toUInt64.toNat = m at hd hminor ⊢
  have hcode : ((dev &&& (0xff : UInt64)) |||
      ((dev >>> (12 : UInt64)) &&& ~~~(0xff : UInt64))).toBitVec =
      (dev.toBitVec &&& mask 64 8) ||| (dev.toBitVec >>> 12 &&& ~~~mask 64 8) := by
    simp [mask]
  have hupper : pack (layout M m) / 2 ^ (12 + 8) = pack [⟨24, m / 2 ^ 8⟩, ⟨20, M / 2 ^ 12⟩] :=
    pack_div [⟨8, m⟩, ⟨12, M⟩] [⟨24, m / 2 ^ 8⟩, ⟨20, M / 2 ^ 12⟩]
  have hlower := (extract_layout M m).1
  rw [extract_zero] at hlower
  rw [← UInt64.toNat_toBitVec, hcode, BitVec.toNat_or, toNat_and_mask _ (by decide),
    toNat_and_not_mask _ (by decide), or_eq_add (Nat.mod_lt _ (by decide)),
    BitVec.toNat_ushiftRight, Nat.shiftRight_eq_div_pow, UInt64.toNat_toBitVec, hd,
    Nat.div_div_eq_div_mul, ← Nat.pow_add, hupper, hlower]
  simp only [pack]
  omega

end RoundTrip

/-! ## Numbers in range -/

/-- A number without sign that has at most the given number of bits. -/
def InRange (bits : ℕ) (n : Int64) : Prop := 0 ≤ n ∧ n.toInt < 2 ^ bits

instance (bits : ℕ) (n : Int64) : Decidable (InRange bits n) :=
  inferInstanceAs (Decidable (_ ∧ _))

theorem toInt_of_inRange {bits : ℕ} {n : Int64} (h : InRange bits n) :
    (n.toUInt64.toNat : ℤ) = n.toInt := by
  have hnonneg : 0 ≤ n.toBitVec.toInt := Int64.le_iff_toInt_le.1 h.1
  exact (BitVec.toInt_eq_toNat_of_lt (BitVec.toInt_pos_iff.1 hnonneg)).symm

theorem inRange_iff {bits : ℕ} (hbits : bits < 64) {n : Int64} :
    InRange bits n ↔ n.toUInt64.toNat < 2 ^ bits := by
  refine ⟨fun h => ?_, fun h => ?_⟩
  · exact_mod_cast (toInt_of_inRange h).trans_lt h.2
  · have hhalf : 2 * n.toUInt64.toNat < 2 ^ 64 := by
      have hpow : 2 ^ bits ≤ 2 ^ 63 := Nat.pow_le_pow_right two_pos (by omega)
      omega
    have hint : n.toInt = n.toUInt64.toNat := BitVec.toInt_eq_toNat_of_lt hhalf
    exact ⟨Int64.le_iff_toInt_le.2 (BitVec.toInt_pos_iff.2 hhalf), by rw [hint]; exact_mod_cast h⟩

/-- An `int` is determined by its bits. -/
theorem eq_of_toNat_eq {a b : Int64} (h : a.toUInt64.toNat = b.toUInt64.toNat) : a = b :=
  Int64.toBitVec_inj.1 (BitVec.eq_of_toNat_eq h)

/-- What is decoded from a number is what was encoded. -/
theorem gnuDev_makedev {major minor : Int64} (hmajor : InRange 32 major)
    (hminor : InRange 32 minor) :
    (gnuDevMajor (makedev major minor).toUInt64).toNat = major.toUInt64.toNat ∧
      (gnuDevMinor (makedev major minor).toUInt64).toNat = minor.toUInt64.toNat := by
  rw [inRange_iff (by decide)] at hmajor hminor
  refine ⟨?_, toNat_gnuDevMinor_makedev hminor⟩
  rw [toNat_gnuDevMajor_makedev hminor, Nat.mod_eq_of_lt hmajor]

/-- Numbers of devices that the kernel can have fit into 32 bits. -/
theorem inRange_makedev {major minor : Int64} (hmajor : InRange 12 major)
    (hminor : InRange 20 minor) : InRange 32 (makedev major minor) := by
  rw [inRange_iff (by decide)] at hmajor hminor ⊢
  rw [toNat_makedev major minor (hminor.trans (by decide))]
  simp only [layout, pack]
  omega

/-- A number of 32 bits, as the code has it. -/
def asInt (n : UInt32) : Int64 := Int64.ofNat n.toNat

@[simp] theorem toNat_asInt (n : UInt32) : (asInt n).toUInt64.toNat = n.toNat := by
  have hlt := n.toNat_lt
  change (BitVec.ofNat 64 n.toNat).toNat = _
  rw [BitVec.toNat_ofNat]
  omega

theorem inRange_asInt (n : UInt32) : InRange 32 (asInt n) := by
  rw [inRange_iff (by decide), toNat_asInt]
  exact n.toNat_lt

@[simp] theorem toUInt32_asInt (n : UInt32) : (asInt n).toUInt64.toUInt32 = n := by
  rw [← UInt32.toNat_inj, UInt64.toNat_toUInt32, toNat_asInt, Nat.mod_eq_of_lt n.toNat_lt]

/-- **Device numbers are encoded without loss.**  glibc gets back what went in, so different
devices have different numbers; and those of the kernel have no more than 32 bits. -/
theorem makedev_lossless (major minor : Int64) (hmajor : InRange 32 major)
    (hminor : InRange 32 minor) :
    (gnuDevMajor (makedev major minor).toUInt64).toNat = major.toInt ∧
    (gnuDevMinor (makedev major minor).toUInt64).toNat = minor.toInt ∧
    (∀ major' minor', InRange 32 major' → InRange 32 minor' → (major', minor') ≠ (major, minor) →
      makedev major' minor' ≠ makedev major minor) ∧
    (InRange 12 major → InRange 20 minor → InRange 32 (makedev major minor)) := by
  obtain ⟨hM, hm⟩ := gnuDev_makedev hmajor hminor
  refine ⟨?_, ?_, fun major' minor' hmajor' hminor' hne heq => hne ?_, inRange_makedev⟩
  · rw [hM, toInt_of_inRange hmajor]
  · rw [hm, toInt_of_inRange hminor]
  · obtain ⟨hM', hm'⟩ := gnuDev_makedev hmajor' hminor'
    rw [heq] at hM' hm'
    rw [eq_of_toNat_eq (hM'.symm.trans hM), eq_of_toNat_eq (hm'.symm.trans hm)]

/-- The first disk and the second one. -/
theorem makedev_lossless_sdb : InRange 32 8 ∧ InRange 32 16 ∧
    (gnuDevMajor (makedev 8 16).toUInt64).toNat = (8 : Int64).toInt ∧
    (gnuDevMinor (makedev 8 16).toUInt64).toNat = (16 : Int64).toInt ∧
    makedev 8 0 ≠ makedev 8 16 ∧ InRange 32 (makedev 8 16) := by
  obtain ⟨hmajor, hminor, hinj, hfits⟩ := makedev_lossless 8 16 (by decide) (by decide)
  exact ⟨by decide, by decide, hmajor, hminor, hinj 8 0 (by decide) (by decide) (by decide),
    hfits (by decide) (by decide)⟩

/-- The digits of the format; as an `int`, this number is negative. -/
example : (makedev 0x89abcdef 0x01234567).toUInt64 = 0x89abc012345def67 := by decide

/-! ## The kernel -/

/-- `new_decode_dev`: how the system call `mknod` reads a number of 32 bits, `mmmM MMmm`. -/
def newDecodeDev (dev : UInt32) : UInt32 × UInt32 :=
  ((dev &&& (0xfff00 : UInt32)) >>> (8 : UInt32),
    (dev &&& (0xff : UInt32)) ||| ((dev >>> (12 : UInt32)) &&& (0xfff00 : UInt32)))

theorem toNat_newDecodeDev (dev : UInt32) :
    (newDecodeDev dev).1.toNat = extract dev.toNat 8 12 ∧
      (newDecodeDev dev).2.toNat =
        extract dev.toNat 0 8 + 2 ^ 8 * extract dev.toNat 20 12 := by
  have hmajor : (newDecodeDev dev).1.toBitVec = (dev.toBitVec &&& mask 32 12 <<< 8) >>> 8 := by
    simp [newDecodeDev, mask]
  have hminor : (newDecodeDev dev).2.toBitVec =
      (dev.toBitVec &&& mask 32 8) ||| (dev.toBitVec >>> 12 &&& mask 32 12 <<< 8) := by
    simp [newDecodeDev, mask]
  constructor
  · change (newDecodeDev dev).1.toBitVec.toNat = _
    rw [hmajor, toNat_and_window_shiftRight _ (by decide) le_rfl, Nat.sub_self, Nat.pow_zero,
      Nat.one_mul, UInt32.toNat_toBitVec]
  · change (newDecodeDev dev).2.toBitVec.toNat = _
    rw [hminor, BitVec.toNat_or, toNat_and_mask _ (by decide), toNat_and_window _ (by decide),
      or_eq_add (Nat.mod_lt _ (Nat.two_pow_pos 8)), BitVec.toNat_ushiftRight, extract_shiftRight,
      UInt32.toNat_toBitVec, extract_zero]

/-- Of a number that `makedev` computes, the kernel gets 12 bits of the major and 20 bits of the
minor number. -/
theorem newDecodeDev_makedev (major : Int64) {minor : Int64}
    (hminor : minor.toUInt64.toNat < 2 ^ 32) :
    (newDecodeDev (makedev major minor).toUInt64.toUInt32).1.toNat =
        major.toUInt64.toNat % 2 ^ 12 ∧
      (newDecodeDev (makedev major minor).toUInt64.toUInt32).2.toNat =
        minor.toUInt64.toNat % 2 ^ 20 := by
  obtain ⟨hfst, hsnd⟩ := toNat_newDecodeDev (makedev major minor).toUInt64.toUInt32
  obtain ⟨hlow, hmajor, hhigh, -⟩ := extract_layout major.toUInt64.toNat minor.toUInt64.toNat
  rw [hfst, hsnd, UInt64.toNat_toUInt32, toNat_makedev major minor hminor,
    extract_mod (by decide), extract_mod (by decide), extract_mod (by decide)]
  -- only half of the upper field of the minor number is below `2 ^ 32`
  rw [← extract_mod_pow (by decide : 12 ≤ 24) _ 20, hhigh, Nat.mod_mod_of_dvd _ (by decide),
    hlow, mod_add_mod]
  exact ⟨hmajor, rfl⟩

/-- **The kernel gets the device that was meant** exactly if its numbers are not too large. -/
theorem newDecodeDev_makedev_iff {major minor : Int64} (hmajor : InRange 32 major)
    (hminor : InRange 32 minor) :
    newDecodeDev (makedev major minor).toUInt64.toUInt32 =
        (major.toUInt64.toUInt32, minor.toUInt64.toUInt32) ↔
      InRange 12 major ∧ InRange 20 minor := by
  rw [inRange_iff (by decide)] at hmajor hminor
  obtain ⟨hM, hm⟩ := newDecodeDev_makedev major hminor
  rw [inRange_iff (by decide), inRange_iff (by decide), Prod.ext_iff, ← UInt32.toNat_inj,
    ← UInt32.toNat_inj, hM, hm, UInt64.toNat_toUInt32, UInt64.toNat_toUInt32,
    Nat.mod_eq_of_lt hmajor, Nat.mod_eq_of_lt hminor, Nat.mod_eq_iff_lt (by decide),
    Nat.mod_eq_iff_lt (by decide)]

theorem newDecodeDev_asInt {major minor : UInt32} (hmajor : major.toNat < 2 ^ 12)
    (hminor : minor.toNat < 2 ^ 20) :
    newDecodeDev (makedev (asInt major) (asInt minor)).toUInt64.toUInt32 = (major, minor) := by
  have hdecode := newDecodeDev_makedev_iff (inRange_asInt major) (inRange_asInt minor)
  rw [toUInt32_asInt, toUInt32_asInt, inRange_iff (by decide), inRange_iff (by decide),
    toNat_asInt, toNat_asInt] at hdecode
  exact hdecode.2 ⟨hmajor, hminor⟩

end Oim.Csi