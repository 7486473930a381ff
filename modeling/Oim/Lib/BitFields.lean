import Mathlib

/-!
# Words made of bit fields

Several numbers are kept in one word by giving each of them a range of its bits.  Here such a
word is the number that is packed from its fields, and the operations on machine words that put
it together or take it apart — masks, shifts, or — are steps of packing.

* `pack` — the number; `pack_lt`, `pack_append` — its size, and fields above others.
* `extract`, `extract_pack` — a range of bits, and that packed fields can be got back.
* `toNat_and_mask_shiftLeft`, `toNat_and_not_mask_shiftLeft`, `pack_or` — how a machine computes
  a packed word: it keeps or clears the low bits of a value, moves the rest into place, and
  combines the parts.
-/

namespace BitFields

/-! ## Packing -/

/-- A field: its width in bits, and the value of which it takes that many. -/
structure Field where
  width : ℕ
  value : ℕ

/-- The number with the given fields, the first one in the lowest bits. -/
def pack : List Field → ℕ
  | [] => 0
  | f :: fs => f.value % 2 ^ f.width + 2 ^ f.width * pack fs

/-- The number of bits of all fields. -/
def width (fs : List Field) : ℕ := (fs.map Field.width).sum

@[simp] theorem width_nil : width [] = 0 := rfl

@[simp] theorem width_cons (f : Field) (fs : List Field) :
    width (f :: fs) = f.width + width fs := by
  simp [width]

theorem pack_lt (fs : List Field) : pack fs < 2 ^ width fs := by
  induction fs with
  | nil => simp [pack]
  | cons f fs ih =>
    have hf : f.value % 2 ^ f.width < 2 ^ f.width := Nat.mod_lt _ (Nat.two_pow_pos _)
    have hfs : 2 ^ f.width * (pack fs + 1) ≤ 2 ^ f.width * 2 ^ width fs :=
      Nat.mul_le_mul_left _ ih
    rw [pack, width_cons, Nat.pow_add]
    rw [Nat.mul_add, Nat.mul_one] at hfs
    omega

theorem pack_append (fs gs : List Field) :
    pack (fs ++ gs) = pack fs + 2 ^ width fs * pack gs := by
  induction fs with
  | nil => simp [pack]
  | cons f fs ih =>
    rw [List.cons_append, pack, pack, ih, width_cons, Nat.pow_add, Nat.mul_add, Nat.mul_assoc,
      Nat.add_assoc]

/-- The fields above the lowest ones. -/
theorem pack_div (fs gs : List Field) : pack (fs ++ gs) / 2 ^ width fs = pack gs := by
  rw [pack_append, Nat.add_mul_div_left _ _ (Nat.two_pow_pos _), Nat.div_eq_of_lt (pack_lt fs),
    Nat.zero_add]

/-! ## Taking apart -/

/-- The given number of bits from `start` on. -/
def extract (d start len : ℕ) : ℕ := d / 2 ^ start % 2 ^ len

theorem extract_zero (d len : ℕ) : extract d 0 len = d % 2 ^ len := by
  rw [extract, Nat.pow_zero, Nat.div_one]

/-- The lowest bits of a range. -/
theorem extract_mod_pow {l len : ℕ} (h : l ≤ len) (d start : ℕ) :
    extract d start len % 2 ^ l = extract d start l :=
  Nat.mod_mod_of_dvd _ (Nat.pow_dvd_pow 2 h)

theorem extract_shiftRight (d s start len : ℕ) :
    extract (d >>> s) start len = extract d (s + start) len := by
  rw [extract, extract, Nat.shiftRight_eq_div_pow, Nat.div_div_eq_div_mul, Nat.pow_add]

/-- A range within the lowest `n` bits. -/
theorem extract_mod {start len n : ℕ} (h : start + len ≤ n) (d : ℕ) :
    extract (d % 2 ^ n) start len = extract d start len := by
  have hn : 2 ^ n = 2 ^ start * (2 ^ len * 2 ^ (n - (start + len))) := by
    rw [← Nat.pow_add, ← Nat.pow_add, ← Nat.add_assoc, Nat.add_sub_cancel' h]
  rw [extract, extract, hn, Nat.mod_mul_right_div_self, Nat.mod_mul_right_mod]

/-- **Packed fields can be got back.** -/
theorem extract_pack (fs gs : List Field) (f : Field) :
    extract (pack (fs ++ f :: gs)) (width fs) f.width = f.value % 2 ^ f.width := by
  rw [extract, pack_div, pack, Nat.add_mul_mod_self_left, Nat.mod_mod]

/-- Two parts of a value make up its low bits. -/
theorem mod_add_mod (value a b : ℕ) :
    value % 2 ^ a + 2 ^ a * (value / 2 ^ a % 2 ^ b) = value % 2 ^ (a + b) := by
  rw [Nat.pow_add, Nat.mod_mul]

/-! ## On machine words -/

/-- Combining a value with one that is above it. -/
theorem or_eq_add {a k : ℕ} (h : a < 2 ^ k) (b : ℕ) : a ||| 2 ^ k * b = a + 2 ^ k * b := by
  rw [Nat.or_comm, ← Nat.two_pow_add_eq_or_of_lt h, Nat.add_comm]

/-- One more field at the top. -/
theorem pack_or (fs : List Field) (f : Field) :
    pack fs ||| 2 ^ width fs * (f.value % 2 ^ f.width) = pack (fs ++ [f]) := by
  rw [or_eq_add (pack_lt fs), pack_append, pack, pack, Nat.mul_zero, Nat.add_zero]

section Word

variable {w : ℕ} (x : BitVec w) {k s : ℕ}

/-- The lowest `k` bits. -/
def mask (w k : ℕ) : BitVec w := BitVec.ofNat w (2 ^ k - 1)

theorem toNat_mask (hk : k ≤ w) : (mask w k).toNat = 2 ^ k - 1 := by
  have hlt : 2 ^ k - 1 < 2 ^ w :=
    (Nat.sub_lt (Nat.two_pow_pos k) Nat.one_pos).trans_le (Nat.pow_le_pow_right two_pos hk)
  rw [mask, BitVec.toNat_ofNat, Nat.mod_eq_of_lt hlt]

theorem toNat_and_mask (hk : k ≤ w) : (x &&& mask w k).toNat = x.toNat % 2 ^ k := by
  rw [BitVec.toNat_and, toNat_mask hk, Nat.and_two_pow_sub_one_eq_mod]

/-- All bits but the lowest `k`. -/
theorem toNat_and_not_mask (hk : k ≤ w) :
    (x &&& ~~~mask w k).toNat = 2 ^ k * (x.toNat / 2 ^ k) := by
  refine Nat.eq_of_testBit_eq fun i => ?_
  have hmask : (mask w k).getLsbD i = decide (i < k) := by
    rw [mask, BitVec.getLsbD_ofNat, Nat.testBit_two_pow_sub_one, Bool.and_eq_right_iff_imp]
    intro hi
    exact decide_eq_true (lt_of_lt_of_le (of_decide_eq_true hi) hk)
  rw [BitVec.testBit_toNat, BitVec.getLsbD_and, BitVec.getLsbD_not, hmask,
    Nat.testBit_two_pow_mul, Nat.testBit_div_two_pow, BitVec.testBit_toNat]
  by_cases hi : i < k
  · simp [hi]
  · -- a bit that is set lies within the word
    have hw := x.lt_of_getLsbD (i := i)
    simp only [hi, decide_false, Bool.not_false, Bool.and_true, not_lt.1 hi, decide_true,
      Bool.true_and, Nat.sub_add_cancel]
    cases hx : x.getLsbD i with
    | false => rfl
    | true => simp [hw hx]

/-- The lowest `k` bits of one word, and as many of the others of another as there is room for. -/
theorem toNat_low_or_high (y : BitVec w) (hk : k ≤ w) (l : ℕ) :
    (((x &&& mask w k) ||| (y &&& ~~~mask w k)).setWidth (k + l)).toNat =
      extract x.toNat 0 k + 2 ^ k * extract y.toNat k l := by
  have hx : x.toNat % 2 ^ k < 2 ^ k := Nat.mod_lt _ (Nat.two_pow_pos k)
  rw [BitVec.toNat_setWidth, BitVec.toNat_or, toNat_and_mask x hk, toNat_and_not_mask y hk,
    or_eq_add hx, Nat.pow_add, Nat.mod_mul, Nat.add_mul_mod_self_left,
    Nat.add_mul_div_left _ _ (Nat.two_pow_pos k), Nat.mod_eq_of_lt hx, Nat.div_eq_of_lt hx,
    Nat.zero_add, extract_zero, extract]

/-- The lowest `k` bits of a word, moved up. -/
theorem toNat_and_mask_shiftLeft (h : k + s ≤ w) :
    ((x &&& mask w k) <<< s).toNat = 2 ^ s * (x.toNat % 2 ^ k) := by
  have hlt : 2 ^ s * (x.toNat % 2 ^ k) < 2 ^ w :=
    calc 2 ^ s * (x.toNat % 2 ^ k) < 2 ^ s * 2 ^ k :=
          Nat.mul_lt_mul_of_pos_left (Nat.mod_lt _ (Nat.two_pow_pos k)) (Nat.two_pow_pos s)
      _ = 2 ^ (s + k) := (Nat.pow_add 2 s k).symm
      _ ≤ 2 ^ w := Nat.pow_le_pow_right two_pos (by omega)
  rw [BitVec.toNat_shiftLeft, toNat_and_mask x (by omega), Nat.shiftLeft_eq, Nat.mul_comm,
    Nat.mod_eq_of_lt hlt]

/-- All but the lowest `k` bits of a word, moved up.  The highest bits get lost. -/
theorem toNat_and_not_mask_shiftLeft (h : k + s ≤ w) :
    ((x &&& ~~~mask w k) <<< s).toNat =
      2 ^ (k + s) * (x.toNat / 2 ^ k % 2 ^ (w - (k + s))) := by
  have hw : 2 ^ w = 2 ^ (k + s) * 2 ^ (w - (k + s)) := by rw [← Nat.pow_add, Nat.add_sub_cancel' h]
  have hmul : 2 ^ k * (x.toNat / 2 ^ k) * 2 ^ s = 2 ^ (k + s) * (x.toNat / 2 ^ k) := by
    rw [Nat.pow_add, Nat.mul_right_comm]
  rw [BitVec.toNat_shiftLeft, toNat_and_not_mask x (by omega), Nat.shiftLeft_eq, hmul, hw,
    Nat.mul_mod_mul_left]

/-- A range of bits, in its place. -/
theorem toNat_and_window (h : k + s ≤ w) :
    (x &&& mask w k <<< s).toNat = 2 ^ s * extract x.toNat s k := by
  have hwindow : (mask w k <<< s).toNat = 2 ^ s * (2 ^ k - 1) := by
    have hself := toNat_and_mask_shiftLeft (mask w k) h
    rwa [BitVec.and_self, toNat_mask (by omega),
      Nat.mod_eq_of_lt (Nat.sub_lt (Nat.two_pow_pos k) Nat.one_pos)] at hself
  rw [BitVec.toNat_and, hwindow, extract]
  refine Nat.eq_of_testBit_eq fun i => ?_
  rw [Nat.testBit_and, Nat.testBit_two_pow_mul, Nat.testBit_two_pow_mul,
    Nat.testBit_two_pow_sub_one, Nat.testBit_mod_two_pow, Nat.testBit_div_two_pow]
  by_cases hi : s ≤ i
  · simp [hi, Bool.and_comm]
  · simp [hi]

/-- A range of bits, moved down. -/
theorem toNat_and_window_shiftRight {t : ℕ} (h : k + s ≤ w) (ht : t ≤ s) :
    ((x &&& mask w k <<< s) >>> t).toNat = 2 ^ (s - t) * extract x.toNat s k := by
  rw [BitVec.toNat_ushiftRight, toNat_and_window x h, Nat.shiftRight_eq_div_pow,
    Nat.mul_div_right_comm (Nat.pow_dvd_pow 2 ht), Nat.pow_div ht two_pos]

end Word

end BitFields
