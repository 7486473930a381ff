import Oim.Spdk.Rpc

/-!
# Sizes of volumes

The `int64` arithmetic between a requested number of bytes and a block device:
rounding in the CSI driver (`local.go`, `remote.go`), blocks of 512 bytes, and the
size of an existing block device, computed by multiplying what SPDK reports.

* `blocksFor` — the number of blocks for a request, over the integers.
  `toInt_roundCapacity` and `toInt_blocks` say that the driver computes it without
  overflow for every request below 1 TiB, negative ones included.
* `blocksFor_isLeast` — for a positive request it is the least that suffices;
  `blocksFor_eq_zero_iff` — but there are negative requests that become **0**.
* `toInt_size` — the size of a BDev as the Go code computes it is the true size
  wrapped to 64 bits, so it is never more than the true size (`size_le`).
-/

namespace Oim.Csi

open Spdk (State Disk BDev decodeBDev getBDevs)

def kib : Int64 := 1024

def mib : Int64 := kib * 1024

def gib : Int64 := mib * 1024

def tib : Int64 := gib * 1024

/-- `maxStorageCapacity`. -/
def maxStorageCapacity : Int64 := tib

/-- What `createVolume` makes of a capacity it accepts: 1 MiB if it is unset,
otherwise "round up to multiple of 512". -/
def roundCapacity (capacity : Int64) : Int64 :=
  if capacity = 0 then mib else (capacity + 511) / 512 * 512

theorem toInt_maxStorageCapacity : maxStorageCapacity.toInt = 2 ^ 40 := by decide

/-! ## Rounding -/

/-- The blocks for a request of `r` bytes.  Go division truncates towards zero. -/
def blocksFor (r : ℤ) : ℤ := if r = 0 then 2048 else (r + 511).tdiv 512

theorem tdiv_512 (x : ℤ) : x.tdiv 512 = if 0 ≤ x then x / 512 else -(-x / 512) := by
  split_ifs with h
  · exact Int.tdiv_eq_ediv_of_nonneg h
  · rw [← Int.tdiv_eq_ediv_of_nonneg (by omega), Int.neg_tdiv, neg_neg]

/-- A wrapped result that is in range is the result. -/
theorem bmod_of_range {x : ℤ} (h₁ : -2 ^ 63 ≤ x) (h₂ : x < 2 ^ 63) : x.bmod (2 ^ 64) = x :=
  Int.bmod_eq_of_le (by omega) (by omega)

theorem toInt_add_511 {r : Int64} (h : r.toInt < 2 ^ 40) : (r + 511).toInt = r.toInt + 511 := by
  have hmin := r.le_toInt
  rw [Int64.toInt_add, show (511 : Int64).toInt = 511 by decide,
    bmod_of_range (by omega) (by omega)]

theorem toInt_div_512 (x : Int64) : (x / 512).toInt = x.toInt.tdiv 512 := by
  have hmin := x.le_toInt
  have hmax := x.toInt_lt
  rw [Int64.toInt_div, show (512 : Int64).toInt = 512 by decide, tdiv_512]
  split_ifs <;> exact bmod_of_range (by omega) (by omega)

/-- The blocks of a multiple of 512 make it up. -/
theorem mul_toInt_div_512 {x : Int64} (hdvd : 512 ∣ x.toInt) : 512 * (x / 512).toInt = x.toInt := by
  rw [toInt_div_512, Int.mul_tdiv_cancel' hdvd]

/-- **Rounding does not overflow.** -/
theorem toInt_roundCapacity {r : Int64} (h : r.toInt < 2 ^ 40) :
    (roundCapacity r).toInt = 512 * blocksFor r.toInt := by
  have hmin := r.le_toInt
  unfold roundCapacity blocksFor
  by_cases hr : r = 0
  · subst hr
    decide
  · have hr' : r.toInt ≠ 0 := fun h0 => hr (Int64.toInt_inj.1 h0)
    rw [if_neg hr, if_neg hr', Int64.toInt_mul, toInt_div_512, toInt_add_511 h,
      show (512 : Int64).toInt = 512 by decide, tdiv_512, mul_comm]
    split_ifs <;> exact bmod_of_range (by omega) (by omega)

theorem toInt_blocks {r : Int64} (h : r.toInt < 2 ^ 40) :
    (roundCapacity r / 512).toInt = blocksFor r.toInt := by
  have hround := toInt_roundCapacity h
  have hblocks := mul_toInt_div_512 (Dvd.intro _ hround.symm)
  omega

theorem le_blocksFor (r : ℤ) : r ≤ 512 * blocksFor r := by
  unfold blocksFor
  rw [tdiv_512]
  split_ifs <;> omega

theorem blocksFor_le {r : ℤ} (h : r < 2 ^ 40) : blocksFor r ≤ 2 ^ 31 := by
  unfold blocksFor
  rw [tdiv_512]
  split_ifs <;> omega

theorem blocksFor_pos_iff {r : ℤ} : 0 < blocksFor r ↔ 0 ≤ r := by
  unfold blocksFor
  rw [tdiv_512]
  split_ifs <;> omega

/-- **The least number of blocks that suffices.** -/
theorem blocksFor_isLeast {r : ℤ} (h : 0 < r) :
    IsLeast {c : ℤ | 512 ∣ c ∧ r ≤ c} (512 * blocksFor r) := by
  refine ⟨⟨Dvd.intro _ rfl, le_blocksFor r⟩, ?_⟩
  rintro c ⟨⟨k, rfl⟩, hk⟩
  unfold blocksFor
  rw [tdiv_512]
  split_ifs <;> omega

/-- **Requests that are rounded to nothing.** -/
theorem blocksFor_eq_zero_iff {r : ℤ} : blocksFor r = 0 ↔ -1022 ≤ r ∧ r ≤ -1 := by
  unfold blocksFor
  rw [tdiv_512]
  split_ifs <;> omega

theorem roundCapacity_eq_zero_iff {r : Int64} (h : r.toInt < 2 ^ 40) :
    roundCapacity r = 0 ↔ -1022 ≤ r.toInt ∧ r.toInt ≤ -1 := by
  rw [← blocksFor_eq_zero_iff, ← Int64.toInt_inj, toInt_roundCapacity h, Int64.toInt_zero]
  omega

/-! ## The size of a block device -/

/-- The size as the Go code computes it. -/
theorem toInt_size {d : Disk} {b : BDev} (h : decodeBDev d = .ok b) :
    (b.blockSize * b.numBlocks).toInt = (d.bytes : ℤ).bmod (2 ^ 64) := by
  obtain ⟨hlt, rfl⟩ := Spdk.decodeBDev_ok h
  have hlen : d.blocklen.toNat < 2 ^ 63 := by
    have := d.blocklen.toNat_lt
    omega
  rw [Int64.toInt_mul, Int64.toInt_ofNat_of_lt hlen, Int64.toInt_ofNat_of_lt hlt, Disk.bytes,
    Nat.cast_mul]

/-- A BDev that fits into memory is reported with its true size. -/
theorem getBDevs_sized {s : State} {v : String} {d : Disk} (hne : v ≠ "")
    (hd : s.bdev? v = some d) (hcnt : d.blockcnt.toNat < 2 ^ 63) (hbytes : d.bytes < 2 ^ 63) :
    ∃ b, getBDevs s v = .ok [b] ∧ (b.blockSize * b.numBlocks).toInt = d.bytes := by
  obtain ⟨b, hb⟩ : ∃ b, decodeBDev d = .ok b := ⟨_, if_pos hcnt⟩
  refine ⟨b, Spdk.getBDevs_some hne hd hb, ?_⟩
  rw [toInt_size hb, bmod_of_range (by omega) (by omega)]

/-- The size of a BDev made of `n` blocks of 512 bytes. -/
theorem bytes_of_construct {d : Disk} {n : Int64}
    (hlen : d.blocklen = UInt32.ofNat (512 : Int64).toInt.toNat)
    (hcnt : d.blockcnt = UInt64.ofNat n.toInt.toNat) (hpos : 0 < n.toInt) :
    (d.bytes : ℤ) = 512 * n.toInt := by
  have hmax := n.toInt_lt
  have h₁ : d.blocklen.toNat = 512 := by rw [hlen]; decide
  have h₂ : d.blockcnt.toNat = n.toInt.toNat := by
    rw [hcnt, UInt64.toNat_ofNat']
    omega
  rw [Disk.bytes, h₁, h₂]
  omega

theorem size_le {d : Disk} {b : BDev} (h : decodeBDev d = .ok b) :
    (b.blockSize * b.numBlocks).toInt ≤ d.bytes := by
  rw [toInt_size h, Int.bmod]
  split_ifs <;> push_cast <;> omega

end Oim.Csi
