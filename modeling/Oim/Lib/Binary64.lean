import Mathlib

/-!
# Binary floating-point numbers

The numbers of 64 bit floating-point arithmetic as rational numbers, without the infinities:
integers of at most 53 bits, scaled by a power of two that is not below `2 ^ -1074`.

* `Representable`, `round` — those numbers, and the nearest one of them, halves going to the
  even one.
* `round_eq_self_iff` — only they are rounded to themselves; the integers up to `2 ^ 53` are
  among them (`representable_intCast`).
* `convert` — the conversion to a machine integer, which depends on the machine for a number
  out of range; `convert_round` says what it makes of small integers, and
  `toInt64_round_eq_iff` which 64 bit integers come back through both conversions.
-/

namespace Binary64

/-! ## Rounding -/

/-- The nearest integer; of two that are equally near, the even one. -/
def roundEven (x : ℚ) : ℤ :=
  let below := ⌊x⌋
  if x - below < 1 / 2 then below
  else if 1 / 2 < x - below then below + 1
  else if Even below then below
  else below + 1

/-- The exponent of the last bit of a number of this size. -/
def exponent (q : ℚ) : ℤ := max (Int.log 2 |q| - 52) (-1074)

/-- The nearest floating-point number. -/
def round (q : ℚ) : ℚ := roundEven (q / 2 ^ exponent q) * 2 ^ exponent q

/-- The floating-point numbers, if there were no largest one. -/
def Representable (q : ℚ) : Prop :=
  ∃ m e : ℤ, |m| ≤ 2 ^ 53 ∧ -1074 ≤ e ∧ q = m * 2 ^ e

theorem roundEven_intCast (n : ℤ) : roundEven n = n := by
  simp [roundEven]

theorem floor_le_roundEven (x : ℚ) : ⌊x⌋ ≤ roundEven x := by
  unfold roundEven
  simp only
  split_ifs <;> omega

theorem roundEven_le_floor_succ (x : ℚ) : roundEven x ≤ ⌊x⌋ + 1 := by
  unfold roundEven
  simp only
  split_ifs <;> omega

theorem abs_roundEven_le {x : ℚ} {n : ℤ} (h : |x| < n) : |roundEven x| ≤ n := by
  obtain ⟨hlow, hhigh⟩ := abs_lt.1 h
  have hfloor : -n ≤ ⌊x⌋ := Int.le_floor.2 (by push_cast; exact hlow.le)
  have hfloor' : ⌊x⌋ < n := Int.floor_lt.2 hhigh
  have h₁ := floor_le_roundEven x
  have h₂ := roundEven_le_floor_succ x
  exact abs_le.2 ⟨by omega, by omega⟩

/-- The scaled number has at most 53 bits before the point. -/
theorem abs_div_exponent_lt (q : ℚ) : |q / 2 ^ exponent q| < (2 ^ 53 : ℤ) := by
  have hpos : (0 : ℚ) < 2 ^ exponent q := by positivity
  rw [abs_div, abs_of_pos hpos, div_lt_iff₀ hpos]
  have hlog : |q| < 2 ^ (Int.log 2 |q| + 1) := by
    exact_mod_cast Int.lt_zpow_succ_log_self (by decide) |q|
  refine hlog.trans_le ?_
  have hexp : Int.log 2 |q| + 1 ≤ 53 + exponent q := by
    have := le_max_left (Int.log 2 |q| - 52) (-1074)
    unfold exponent
    omega
  calc (2 : ℚ) ^ (Int.log 2 |q| + 1) ≤ 2 ^ (53 + exponent q) :=
        zpow_le_zpow_right₀ (by norm_num) hexp
    _ = ((2 ^ 53 : ℤ) : ℚ) * 2 ^ exponent q := by
        rw [zpow_add₀ (by norm_num)]
        norm_num

theorem representable_round (q : ℚ) : Representable (round q) :=
  ⟨_, exponent q, abs_roundEven_le (abs_div_exponent_lt q), le_max_right _ _, rfl⟩

/-- A number that is an integer after scaling stays as it is. -/
theorem round_eq_self {q : ℚ} {n : ℤ} (h : q / 2 ^ exponent q = n) : round q = q := by
  have hne : (2 : ℚ) ^ exponent q ≠ 0 := by positivity
  rw [round, h, roundEven_intCast, ← h, div_mul_cancel₀ q hne]

/-- A floating-point number is an integer after scaling: its own exponent is not below that
of its size, except that it may be a power of two written with one bit more. -/
theorem Representable.scaled {q : ℚ} (h : Representable q) :
    ∃ n : ℤ, q / 2 ^ exponent q = n := by
  obtain ⟨m, e, hm, he, hq⟩ := h
  have hne : (2 : ℚ) ^ exponent q ≠ 0 := by positivity
  rcases eq_or_ne q 0 with rfl | hq0
  · exact ⟨0, by simp⟩
  rcases le_or_gt (exponent q) e with hle | hlt
  · obtain ⟨k, hk⟩ := Int.le.dest hle
    refine ⟨m * 2 ^ k, ?_⟩
    rw [div_eq_iff hne]
    calc q = m * 2 ^ (exponent q + k) := by rw [hk, ← hq]
      _ = (m * 2 ^ k : ℤ) * 2 ^ exponent q := by
        rw [zpow_add₀ (by norm_num), zpow_natCast]
        push_cast
        ring
  · have hlog : exponent q = Int.log 2 |q| - 52 := by
      unfold exponent at hlt ⊢
      omega
    have hlow : (2 : ℚ) ^ (52 + exponent q) ≤ |q| := by
      have hself := Int.zpow_log_le_self (R := ℚ) (show 1 < 2 by decide) (abs_pos.2 hq0)
      rw [hlog, show 52 + (Int.log 2 |q| - 52) = Int.log 2 |q| by omega]
      exact_mod_cast hself
    have hhigh : |q| ≤ (2 : ℚ) ^ (52 + exponent q) := by
      have hm' : |(m : ℚ)| ≤ 2 ^ 53 := by exact_mod_cast hm
      calc |q| = |(m : ℚ)| * 2 ^ e := by
            rw [hq, abs_mul, abs_of_pos (by positivity : (0 : ℚ) < 2 ^ e)]
        _ ≤ 2 ^ 53 * 2 ^ e := by gcongr
        _ = 2 ^ (53 + e) := by rw [zpow_add₀ (by norm_num)]; norm_num
        _ ≤ 2 ^ (52 + exponent q) := zpow_le_zpow_right₀ (by norm_num) (by omega)
    have habs : |q / 2 ^ exponent q| = 2 ^ 52 := by
      rw [abs_div, abs_of_pos (by positivity : (0 : ℚ) < 2 ^ exponent q), div_eq_iff hne,
        le_antisymm hhigh hlow, zpow_add₀ (by norm_num)]
      norm_num
    rcases (abs_eq (by norm_num)).1 habs with h | h
    · exact ⟨2 ^ 52, by rw [h]; norm_num⟩
    · exact ⟨-2 ^ 52, by rw [h]; norm_num⟩

/-- **The floating-point numbers are what rounding keeps.** -/
theorem round_eq_self_iff {q : ℚ} : round q = q ↔ Representable q := by
  constructor
  · intro h
    exact h ▸ representable_round q
  · intro h
    obtain ⟨n, hn⟩ := h.scaled
    exact round_eq_self hn

theorem representable_intCast {n : ℤ} (h : |n| ≤ 2 ^ 53) : Representable n :=
  ⟨n, 0, h, by norm_num, by simp⟩

/-- An integer is rounded to an integer. -/
theorem exists_round_intCast (n : ℤ) : ∃ k : ℤ, round n = k := by
  rcases le_or_gt |n| (2 ^ 53) with hle | hgt
  · exact ⟨n, round_eq_self_iff.2 (representable_intCast hle)⟩
  · have hexp : 0 ≤ exponent n := by
      have hgt' : (2 : ℚ) ^ 53 < |(n : ℚ)| := by exact_mod_cast hgt
      have hlog : (53 : ℤ) ≤ Int.log 2 |(n : ℚ)| := by
        rw [← Int.zpow_le_iff_le_log (by decide) ((by positivity : (0 : ℚ) < 2 ^ 53).trans hgt')]
        exact_mod_cast hgt'.le
      unfold exponent
      omega
    obtain ⟨k, hk⟩ := Int.eq_ofNat_of_zero_le hexp
    refine ⟨roundEven (n / 2 ^ exponent n) * 2 ^ k, ?_⟩
    rw [round, hk]
    push_cast
    rw [zpow_natCast]

/-! ## Conversion to integers -/

/-- The integer between a number and zero that is nearest to it. -/
def trunc (x : ℚ) : ℤ := if 0 ≤ x then ⌊x⌋ else ⌈x⌉

/-- The integer part is in a range. -/
def Fits (low high : ℤ) (x : ℚ) : Prop := low ≤ trunc x ∧ trunc x < high

instance (low high : ℤ) (x : ℚ) : Decidable (Fits low high x) :=
  inferInstanceAs (Decidable (_ ∧ _))

/-- The conversion to a type of integers.  What becomes of a number out of its range is up to
the machine. -/
def convert {α : Type} (low high : ℤ) (ofInt : ℤ → α) (overflow : ℚ → α) (x : ℚ) : α :=
  if Fits low high x then ofInt (trunc x) else overflow x

def toInt64 : (ℚ → Int64) → ℚ → Int64 := convert (-2 ^ 63) (2 ^ 63) Int64.ofInt

def toInt32 : (ℚ → Int32) → ℚ → Int32 := convert (-2 ^ 31) (2 ^ 31) Int32.ofInt

def toUInt32 : (ℚ → UInt32) → ℚ → UInt32 := convert 0 (2 ^ 32) UInt32.ofInt

theorem trunc_intCast (n : ℤ) : trunc n = n := by
  simp [trunc]

theorem fits_intCast {low high n : ℤ} : Fits low high n ↔ low ≤ n ∧ n < high := by
  rw [Fits, trunc_intCast]

section Convert

variable {α : Type} {low high : ℤ} {ofInt : ℤ → α} (overflow : ℚ → α) {n : ℤ}

theorem convert_intCast (hlow : low ≤ n) (hhigh : n < high) :
    convert low high ofInt overflow n = ofInt n := by
  rw [convert, if_pos (fits_intCast.2 ⟨hlow, hhigh⟩), trunc_intCast]

/-- Small integers go through rounding and conversion unchanged. -/
theorem convert_round (hlow : low ≤ n) (hhigh : n < high) (hn : |n| ≤ 2 ^ 53) :
    convert low high ofInt overflow (round n) = ofInt n := by
  rw [round_eq_self_iff.2 (representable_intCast hn), convert_intCast overflow hlow hhigh]

end Convert

theorem toInt64_toInt (overflow : ℚ → Int64) (n : Int64) : toInt64 overflow n.toInt = n := by
  rw [toInt64, convert_intCast overflow n.le_toInt n.toInt_lt, Int64.ofInt_toInt]

/-- **The integers that come back from a floating-point number**: those that are one, and
those that are rounded out of the range if that is what the machine makes of it. -/
theorem toInt64_round_eq_iff {overflow : ℚ → Int64} {n : Int64} :
    toInt64 overflow (round n.toInt) = n ↔
      Representable n.toInt ∨
        (¬ Fits (-2 ^ 63) (2 ^ 63) (round n.toInt) ∧ overflow (round n.toInt) = n) := by
  obtain ⟨k, hk⟩ := exists_round_intCast n.toInt
  by_cases hfits : Fits (-2 ^ 63) (2 ^ 63) (round n.toInt)
  · rw [or_iff_left fun h => h.1 hfits, ← round_eq_self_iff]
    constructor
    · intro h
      rw [hk, fits_intCast] at hfits
      rw [hk, toInt64, convert_intCast overflow hfits.1 hfits.2] at h
      have hback : (Int64.ofInt k).toInt = k := Int64.toInt_ofInt_of_le hfits.1 hfits.2
      rw [hk, ← h, hback]
    · intro h
      rw [h, toInt64_toInt]
  · have hnot : ¬ Representable n.toInt := by
      intro h
      rw [round_eq_self_iff.2 h, fits_intCast] at hfits
      exact hfits ⟨n.le_toInt, n.toInt_lt⟩
    rw [toInt64, convert, if_neg hfits, or_iff_right hnot, and_iff_right hfits]

end Binary64
