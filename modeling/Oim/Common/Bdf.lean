import Oim.Common.Pci

/-!
# The round trip of extended BDF notation

`PrettyPCIAddress` prints an address, `ParseBDFString` reads it.  Every part may be missing, so
that the colons have to fall into place.

* `PCIAddress.InRange` — what can be read; `inRange_of_parse` — nothing else ever is.
* `hexNat?_toDigits`, `hexToU32_hex` — a number that was printed is read back.
* `parse_pretty` — an address in range survives the round trip, whichever parts are unknown.
* `bdf_roundTrip` — all of it.
-/

namespace Oim

/-! ## One number -/

theorem hexDigit?_digitChar {d : ℕ} (hd : d < 16) : hexDigit? d.digitChar = some d := by
  interval_cases d <;> decide

theorem hexNat?_concat (ds : List Char) (c : Char) :
    hexNat? (ds ++ [c]) = (hexNat? ds).bind fun n => (hexDigit? c).map fun d => 16 * n + d := by
  unfold hexNat?
  rw [List.foldlM_append]
  cases List.foldlM (fun n c => (hexDigit? c).map fun d => 16 * n + d) 0 ds with
  | none => rfl
  | some n => simp

/-- Hexadecimal digits are read as the number that they were made from. -/
theorem hexNat?_toDigits (n : ℕ) : hexNat? (Nat.toDigits 16 n) = some n := by
  induction n using Nat.strong_induction_on with
  | h n ih =>
    by_cases hn : n < 16
    · rw [Nat.toDigits_of_lt_base hn]
      simp [hexNat?, hexDigit?_digitChar hn]
    · have hmod : n % 16 < 16 := Nat.mod_lt _ (by decide)
      rw [Nat.toDigits_of_base_le (by decide) (by omega), hexNat?_concat, ih _ (by omega)]
      simp only [Option.bind_some, hexDigit?_digitChar hmod, Option.map_some, Option.some.injEq]
      omega

/-- Leading zeros change nothing. -/
theorem hexNat?_replicate (k : ℕ) (ds : List Char) :
    hexNat? (List.replicate k '0' ++ ds) = hexNat? ds := by
  induction k with
  | zero => rfl
  | succ k ih => rw [List.replicate_succ, List.cons_append, ← ih]; rfl

/-- The digits of `%0<width>x`. -/
theorem toList_hex (width : ℕ) (n : UInt32) : (hex width n).toList =
    List.replicate (width - (Nat.toDigits 16 n.toNat).length) '0' ++ Nat.toDigits 16 n.toNat := by
  simp [hex, List.leftpad]

theorem hexNat?_hex (width : ℕ) (n : UInt32) : hexNat? (hex width n).toList = some n.toNat := by
  rw [toList_hex, hexNat?_replicate, hexNat?_toDigits]

theorem hex_ne_nil (width : ℕ) (n : UInt32) : (hex width n).toList ≠ [] := by
  rw [toList_hex]
  simp [Nat.toDigits_ne_nil]

/-- **A number of 16 bits is read back.** -/
theorem hexToU32_hex (width : ℕ) {n : UInt32} (hn : n.toNat < 2 ^ 16) :
    hexToU32 (hex width n).toList = some n := by
  rw [hexToU32, if_neg (hex_ne_nil width n), hexNat?_hex]
  simp only [if_pos hn, UInt32.ofNat_toNat]

/-- Only hexadecimal digits are read as a number. -/
theorem isSome_of_hexNat? {ds : List Char} {n : ℕ} (h : hexNat? ds = some n) :
    ∀ c ∈ ds, (hexDigit? c).isSome = true := by
  induction ds using List.reverseRecOn generalizing n with
  | nil => simp
  | append_singleton ds c ih =>
    rw [hexNat?_concat] at h
    obtain ⟨m, hm, hc⟩ := Option.bind_eq_some_iff.1 h
    obtain ⟨d, hd, -⟩ := Option.map_eq_some_iff.1 hc
    intro c' hc'
    rcases List.mem_append.1 hc' with hc' | hc'
    · exact ih hm c' hc'
    · rw [List.mem_singleton.1 hc', hd]
      rfl

theorem isSome_of_mem_hex {width : ℕ} {n : UInt32} {c : Char} (hc : c ∈ (hex width n).toList) :
    (hexDigit? c).isSome = true :=
  isSome_of_hexNat? (hexNat?_hex width n) c hc

theorem isHex_hex {width k : ℕ} (hk : 0 < k) (hw : width ≤ k) {n : UInt32}
    (hn : n.toNat < 16 ^ k) : isHex k (hex width n).toList = true := by
  have hlen : (Nat.toDigits 16 n.toNat).length ≤ k :=
    (Nat.length_toDigits_le_iff (by decide) hk).2 hn
  simp only [isHex, decide_eq_true_eq, List.all_eq_true]
  refine ⟨?_, fun c hc => isSome_of_mem_hex hc⟩
  rw [toList_hex, List.length_append, List.length_replicate]
  omega

theorem isFunction_hex {n : UInt32} (hn : n.toNat ≤ 7) : isFunction (hex 0 n).toList = true := by
  rw [toList_hex, Nat.toDigits_of_lt_base (by omega)]
  generalize n.toNat = m at hn
  interval_cases m <;> decide

/-! ## The ranges -/

/-- The addresses that can be read: every field is a number of its size, or unknown. -/
structure PCIAddress.InRange (p : PCIAddress) : Prop where
  domain : p.domain.toNat ≤ 0xFFFF
  bus : p.bus.toNat ≤ 0xFF ∨ p.bus = PCIAddress.unknown
  device : p.device.toNat ≤ 0xFF ∨ p.device = PCIAddress.unknown
  function : p.function.toNat ≤ 7 ∨ p.function = PCIAddress.unknown

/-- What `HexToU32` makes of digits: the default, or their number. -/
theorem hexToU32_cases {ds : List Char} {n : UInt32} (h : hexToU32 ds = some n) :
    n = PCIAddress.unknown ∨ hexNat? ds = some n.toNat := by
  unfold hexToU32 at h
  split_ifs at h with hnil
  · exact Or.inl (Option.some.inj h).symm
  · cases hds : hexNat? ds with
    | none => rw [hds] at h; exact absurd h (by simp)
    | some m =>
      simp only [hds] at h
      split_ifs at h with hm
      obtain rfl := Option.some.inj h
      exact Or.inr (by rw [UInt32.toNat_ofNat_of_lt' (hm.trans (by decide))])

theorem lt_of_isHex {k : ℕ} {ds : List Char} {n : UInt32} (hds : isHex k ds = true)
    (h : hexToU32 ds = some n) : n.toNat < 16 ^ k ∨ n = PCIAddress.unknown := by
  simp only [isHex, decide_eq_true_eq, List.all_eq_true] at hds
  rcases hexToU32_cases h with hn | hn
  · exact Or.inr hn
  · obtain ⟨m, hm, hlt⟩ := hexNat?_eq_some hds.2
    obtain rfl : n.toNat = m := Option.some.inj (hn.symm.trans hm)
    exact Or.inl (hlt.trans_le (Nat.pow_le_pow_right (by decide) hds.1))

theorem le_of_isFunction {ds : List Char} {n : UInt32} (hds : isFunction ds = true)
    (h : hexToU32 ds = some n) : n.toNat ≤ 7 ∨ n = PCIAddress.unknown := by
  simp only [isFunction, decide_eq_true_eq, List.all_eq_true] at hds
  rcases hexToU32_cases h with hn | hn
  · exact Or.inr hn
  · refine Or.inl ?_
    obtain ⟨hlen, hc⟩ := hds
    rcases ds with _ | ⟨c, _ | ⟨c', ds⟩⟩
    · have hzero : 0 = n.toNat := Option.some.inj hn
      omega
    · obtain ⟨h₀, h₇⟩ := hc c (by simp)
      have hval : hexDigit? c = some (c.toNat - '0'.toNat) := by
        rw [hexDigit?, if_pos ⟨h₀, h₇.trans (by decide)⟩]
      have hle : c.toNat ≤ '7'.toNat := h₇
      have hn' : n.toNat = c.toNat - '0'.toNat := by
        simpa [hexNat?, hval] using hn.symm
      rw [hn', show '0'.toNat = 48 by decide]
      rw [show '7'.toNat = 55 by decide] at hle
      omega
    · simp at hlen

/-- **Whatever is read is in range.** -/
theorem inRange_of_parse {s : String} {p : PCIAddress}
    (h : parseBDFString s = some (.ok p)) : p.InRange := by
  unfold parseBDFString at h
  cases hm : matchBDF s with
  | none => rw [hm] at h; exact absurd h (by simp)
  | some g =>
    obtain ⟨h₁, h₂, h₃, h₄⟩ := matchBDF_eq_some hm
    simp only [hm, Option.bind_eq_bind, Option.bind_eq_some_iff, Option.pure_def] at h
    obtain ⟨domain, hdomain, bus, hbus, device, hdevice, function, hfunction, hp⟩ := h
    obtain rfl := Except.ok.inj (Option.some.inj hp)
    refine ⟨?_, ?_, ?_, le_of_isFunction h₄ hfunction⟩
    · rcases lt_of_isHex h₁ hdomain with hlt | rfl
      · exact Nat.le_of_lt_succ hlt
      · exact le_rfl
    · exact (lt_of_isHex h₂ hbus).imp Nat.le_of_lt_succ id
    · exact (lt_of_isHex h₃ hdevice).imp Nat.le_of_lt_succ id

/-! ## Printing and reading again -/

/-- What is printed of a field. -/
def fieldText (width : ℕ) (n : UInt32) : List Char :=
  if n = PCIAddress.unknown then [] else (hex width n).toList

theorem hexToU32_fieldText (width : ℕ) {n : UInt32} (hn : n.toNat < 2 ^ 16) :
    hexToU32 (fieldText width n) = some n := by
  unfold fieldText
  split_ifs with hu
  · rw [hu]
    rfl
  · exact hexToU32_hex width hn

theorem isSome_of_mem_fieldText {width : ℕ} {n : UInt32} {c : Char} (hc : c ∈ fieldText width n) :
    (hexDigit? c).isSome = true := by
  unfold fieldText at hc
  split_ifs at hc
  · exact absurd hc (by simp)
  · exact isSome_of_mem_hex hc

theorem isHex_fieldText {width k : ℕ} (hk : 0 < k) (hw : width ≤ k) {n : UInt32}
    (hn : n.toNat < 16 ^ k ∨ n = PCIAddress.unknown) : isHex k (fieldText width n) = true := by
  unfold fieldText
  split_ifs with hu
  · simp [isHex]
  · exact isHex_hex hk hw (hn.resolve_right hu)

theorem isFunction_fieldText {n : UInt32} (hn : n.toNat ≤ 7 ∨ n = PCIAddress.unknown) :
    isFunction (fieldText 0 n) = true := by
  unfold fieldText
  split_ifs with hu
  · simp [isFunction]
  · exact isFunction_hex (hn.resolve_right hu)

/-- A printed address consists of two or three parts with colons between them. -/
theorem toList_pretty (p : PCIAddress) : (prettyPCIAddress (some p)).toList =
    [':'].intercalate ((if p.domain = PCIAddress.unknown then [] else [fieldText 4 p.domain]) ++
      [fieldText 2 p.bus, fieldText 2 p.device ++ '.' :: fieldText 0 p.function]) := by
  unfold prettyPCIAddress fieldText
  by_cases hd : p.domain = PCIAddress.unknown <;> by_cases hb : p.bus = PCIAddress.unknown <;>
    by_cases hv : p.device = PCIAddress.unknown <;>
      by_cases hf : p.function = PCIAddress.unknown <;>
        simp [hd, hb, hv, hf, List.intercalate_cons_cons]

theorem not_mem_fieldText {width : ℕ} {n : UInt32} {c : Char} (hc : hexDigit? c = none) :
    c ∉ fieldText width n := by
  intro hmem
  have := isSome_of_mem_fieldText hmem
  simp [hc] at this

/-- There are no spaces in a printed address. -/
theorem isSpace_of_mem_pretty {p : PCIAddress} {c : Char}
    (hc : c ∈ (prettyPCIAddress (some p)).toList) : isSpace c = false := by
  have hdigit : (hexDigit? c).isSome = true ∨ c = ':' ∨ c = '.' := by
    rw [toList_pretty] at hc
    have hfield : ∀ {width n}, c ∈ fieldText width n → (hexDigit? c).isSome = true :=
      isSome_of_mem_fieldText
    split_ifs at hc
    · simp only [List.nil_append, List.intercalate_cons_cons, List.intercalate_singleton,
        List.mem_append, List.mem_cons, List.not_mem_nil, or_false] at hc
      tauto
    · simp only [List.singleton_append, List.intercalate_cons_cons, List.intercalate_singleton,
        List.mem_append, List.mem_cons, List.not_mem_nil, or_false] at hc
      tauto
  by_contra hspace
  rw [Bool.not_eq_false, isSpace, decide_eq_true_eq] at hspace
  rcases hspace with rfl | rfl | rfl | rfl | hff
  case inr.inr.inr.inr =>
    obtain rfl : c = Char.ofNat 12 := Char.toNat_inj.1 hff
    revert hdigit
    decide
  all_goals
    revert hdigit
    decide

theorem trim_eq_self {l : List Char} (h : ∀ c ∈ l, isSpace c = false) :
    (l.dropWhile isSpace).rdropWhile isSpace = l := by
  have hleft : l.dropWhile isSpace = l :=
    List.dropWhile_eq_self_iff.2 fun hl => by simp [h _ (List.getElem_mem hl)]
  rw [hleft]
  exact List.rdropWhile_eq_self_iff.2 fun hl => by simp [h _ (List.getLast_mem hl)]

theorem groupsBDF_fieldText {p : PCIAddress} (hp : p.InRange) :
    groupsBDF (fieldText 4 p.domain) (fieldText 2 p.bus)
        (fieldText 2 p.device ++ '.' :: fieldText 0 p.function) =
      some (fieldText 4 p.domain, fieldText 2 p.bus, fieldText 2 p.device,
        fieldText 0 p.function) := by
  have hsplit : (fieldText 2 p.device ++ '.' :: fieldText 0 p.function).splitOn '.' =
      [fieldText 2 p.device, fieldText 0 p.function] := by
    have h : (['.'].intercalate [fieldText 2 p.device, fieldText 0 p.function]).splitOn '.' = _ :=
      List.splitOn_intercalate '.'
        (by simp [not_mem_fieldText (show hexDigit? '.' = none by decide)]) (by simp)
    simpa [List.intercalate_cons_cons] using h
  have hdomain : isHex 4 (fieldText 4 p.domain) = true :=
    isHex_fieldText (by decide) le_rfl (Or.inl (Nat.lt_succ_of_le hp.domain))
  have hbus : isHex 2 (fieldText 2 p.bus) = true :=
    isHex_fieldText (by decide) le_rfl (hp.bus.imp Nat.lt_succ_of_le id)
  have hdevice : isHex 2 (fieldText 2 p.device) = true :=
    isHex_fieldText (by decide) le_rfl (hp.device.imp Nat.lt_succ_of_le id)
  unfold groupsBDF
  rw [hsplit]
  exact if_pos ⟨hdomain, hbus, hdevice, isFunction_fieldText hp.function⟩

theorem matchBDF_pretty {p : PCIAddress} (hp : p.InRange) :
    matchBDF (prettyPCIAddress (some p)) =
      some (fieldText 4 p.domain, fieldText 2 p.bus, fieldText 2 p.device,
        fieldText 0 p.function) := by
  have hcolon : hexDigit? ':' = none := by decide
  unfold matchBDF
  rw [trim_eq_self fun c hc => isSpace_of_mem_pretty hc, toList_pretty]
  by_cases hd : p.domain = PCIAddress.unknown
  · -- two parts: the domain is left out together with its colon
    rw [if_pos hd, List.nil_append, List.splitOn_intercalate ':'
      (by simp [not_mem_fieldText hcolon]) (by simp)]
    have hnil : fieldText 4 p.domain = [] := if_pos hd
    exact hnil ▸ groupsBDF_fieldText hp
  · rw [if_neg hd, List.singleton_append, List.splitOn_intercalate ':'
      (by simp [not_mem_fieldText hcolon]) (by simp)]
    exact groupsBDF_fieldText hp

theorem PCIAddress.InRange.lt {n : UInt32} {k : ℕ} (hk : k < 2 ^ 16)
    (h : n.toNat ≤ k ∨ n = PCIAddress.unknown) : n.toNat < 2 ^ 16 := by
  rcases h with h | rfl
  · exact h.trans_lt hk
  · decide

/-- **An address in range is read back as it was printed.** -/
theorem parse_pretty {p : PCIAddress} (hp : p.InRange) :
    parseBDFString (prettyPCIAddress (some p)) = some (.ok p) := by
  unfold parseBDFString
  rw [matchBDF_pretty hp]
  simp only [hexToU32_fieldText 4 (Nat.lt_succ_of_le hp.domain),
    hexToU32_fieldText 2 (PCIAddress.InRange.lt (by decide) hp.bus),
    hexToU32_fieldText 2 (PCIAddress.InRange.lt (by decide) hp.device),
    hexToU32_fieldText 0 (PCIAddress.InRange.lt (by decide) hp.function)]
  rfl

/-- **The round trip.**  Reading never panics, what is read is in range and survives printing,
and exactly the addresses in range do. -/
theorem bdf_roundTrip :
    (∀ s, ∃ r, parseBDFString s = some r) ∧
    (∀ s p, parseBDFString s = some (.ok p) →
      p.InRange ∧ parseBDFString (prettyPCIAddress (some p)) = some (.ok p)) ∧
    ∀ p, parseBDFString (prettyPCIAddress (some p)) = some (.ok p) ↔ p.InRange := by
  refine ⟨parseBDFString_total, fun s p h => ?_, fun p => ⟨inRange_of_parse, parse_pretty⟩⟩
  exact ⟨inRange_of_parse h, parse_pretty (inRange_of_parse h)⟩

end Oim
