import Oim.Lib.Binary64
import Oim.Spdk.Codec
import Oim.Spdk.Rpc

/-!
# Error codes in error texts

`net/rpc` passes on an error as its text only, so `ReadResponseHeader` prints the code and
the message of an error object, and `IsJSONError` finds the code in the text again with a
regular expression.  On the way the code is a `float64`, which is what the JSON package
decodes a number to.

* `matchJSONError_text`, `isJSONError_text` — what the regular expression makes of a printed
  error: it does not match a message with a line break.
* `error_code_survives_iff` — `IsJSONError` sees the code that SPDK has sent if there is no
  line break in the message and the code is a `float64`.
-/

namespace Oim.Spdk

open Codec

/-- What an integer of the error object becomes: a `float64`, and an `int` again. -/
def codeVal (overflow : ℚ → Int64) (code : ℚ) : ℤ :=
  (Binary64.toInt64 overflow (Binary64.round code)).toInt

/-! ## Reading a printed error -/

theorem toList_toString_int (n : ℤ) :
    (toString n).toList = (if n < 0 then ['-'] else []) ++ Nat.toDigits 10 n.natAbs := by
  cases n with
  | ofNat k =>
    rw [if_neg (by simp), Int.toString_eq_repr]
    exact Nat.toList_repr
  | negSucc k =>
    rw [if_pos (Int.negSucc_lt_zero k), Int.toString_eq_repr, Int.repr, String.toList_append,
      Nat.toList_repr]
    rfl

theorem digitsVal_toDigits (n : ℕ) : digitsVal (Nat.toDigits 10 n) = n :=
  Nat.ofDigitChars_toDigits (by decide) (by decide)

theorem atoi_toDigits (n : Int64) :
    atoi (n.toInt < 0) (Nat.toDigits 10 n.toInt.natAbs) = some n.toInt := by
  have hlow := n.le_toInt
  have hhigh := n.toInt_lt
  unfold atoi
  rw [digitsVal_toDigits]
  have hvalue : (if decide (n.toInt < 0) then -(n.toInt.natAbs : ℤ) else n.toInt.natAbs) =
      n.toInt := by
    split_ifs with hneg
    · have := of_decide_eq_true hneg
      omega
    · have := of_decide_eq_false (Bool.eq_false_iff.2 hneg)
      omega
  simp only [hvalue]
  rw [if_pos ⟨hlow, hhigh⟩]

theorem toDigits_isDigit {n : ℕ} {c : Char} (h : c ∈ Nat.toDigits 10 n) : c.isDigit = true :=
  Nat.isDigit_of_mem_toDigits (by decide) (by decide) h

/-- The sign is told apart from the digits by the first character. -/
theorem head?_toDigits_append (n : ℕ) (l : List Char) :
    (Nat.toDigits 10 n ++ l).head? ≠ some '-' := by
  obtain ⟨d, ds, hds⟩ := List.exists_cons_of_ne_nil (Nat.toDigits_ne_nil (n := n) (b := 10))
  have hd : d.isDigit = true := toDigits_isDigit (n := n) (by simp [hds])
  rw [hds]
  intro h
  obtain rfl : d = '-' := by simpa using h
  exact absurd hd (by decide)

/-- A printed error, character by character. -/
theorem toList_errorText (n : ℤ) (msg : String) :
    ("code: " ++ toString n ++ " msg: " ++ msg).toList =
      ("code: ".toList ++ if n < 0 then ['-'] else []) ++
        (Nat.toDigits 10 n.natAbs ++ (" msg: ".toList ++ (msg.toList ++ []))) := by
  simp only [String.toList_append, toList_toString_int, List.append_assoc, List.append_nil]

/-- The expression fits a printed error without line breaks. -/
theorem fits_errorText {n : ℤ} {msg : String} (hbreak : '\n' ∉ msg.toList) :
    Pattern.Fits (jsonError (n < 0)) ("code: " ++ toString n ++ " msg: " ++ msg).toList
      [Nat.toDigits 10 n.natAbs, msg.toList] [] := by
  rw [toList_errorText]
  simp only [jsonError, decide_eq_true_eq]
  refine Pattern.fits_lits.2 (Pattern.fits_rep (fun _ => toDigits_isDigit) ?_ (by simp) ?_ true)
  · exact List.length_pos_of_ne_nil Nat.toDigits_ne_nil
  · refine Pattern.fits_lits.2 (Pattern.fits_rep ?_ (by simp) (by simp) ?_ true)
    · intro c hc
      rw [decide_eq_true_eq]
      rintro rfl
      exact hbreak hc
    · exact ⟨rfl, rfl, rfl⟩

theorem matchAt_errorText {n : ℤ} {msg : String} (hbreak : '\n' ∉ msg.toList) :
    Pattern.matchAt (jsonError (n < 0)) ("code: " ++ toString n ++ " msg: " ++ msg).toList =
      some ([Nat.toDigits 10 n.natAbs, msg.toList], []) := by
  refine (Pattern.matchAt_eq_some_iff ?_).2 (fits_errorText hbreak)
  cases decide (n < 0) <;> decide

theorem matchJSONError_text (n : ℤ) (msg : String) :
    matchJSONError ("code: " ++ toString n ++ " msg: " ++ msg) =
      if '\n' ∈ msg.toList then none else some (decide (n < 0), Nat.toDigits 10 n.natAbs) := by
  unfold matchJSONError
  by_cases hbreak : '\n' ∈ msg.toList
  · -- nothing in the expression matches a line break
    have hnone : ∀ neg, Pattern.matchAt (jsonError neg)
        ("code: " ++ toString n ++ " msg: " ++ msg).toList = none := by
      intro neg
      refine Pattern.matchAt_eq_none_iff.2 fun gs r h => h.not_mem (c := '\n') ?_ ?_
      · cases neg <;> decide
      · rw [String.toList_append]
        exact List.mem_append_right _ hbreak
    rw [hnone true, hnone false, if_pos hbreak]
  · have hmatch := matchAt_errorText (n := n) hbreak
    rw [if_neg hbreak]
    by_cases hneg : n < 0
    · simp only [hneg, decide_true] at hmatch ⊢
      rw [hmatch]
    · have hsign : Pattern.matchAt (jsonError true)
          ("code: " ++ toString n ++ " msg: " ++ msg).toList = none := by
        refine Pattern.matchAt_eq_none_iff.2 fun gs r h => ?_
        rw [toList_errorText, if_neg hneg, List.append_nil] at h
        obtain ⟨rest, hrest, -⟩ : ∃ rest, _ = '-' :: rest ∧ _ :=
          (Pattern.fits_lits (w := "code: ".toList)).1 h
        exact head?_toDigits_append _ _ (by rw [hrest]; rfl)
      simp only [hneg, decide_false] at hmatch ⊢
      rw [hsign, hmatch]

theorem isJSONError_text (n : Int64) (msg : String) (q : ℤ) :
    isJSONError ("code: " ++ toString n.toInt ++ " msg: " ++ msg) q = true ↔
      '\n' ∉ msg.toList ∧ (q = 0 ∨ n.toInt = q) := by
  unfold isJSONError
  rw [matchJSONError_text]
  by_cases hbreak : '\n' ∈ msg.toList
  · simp [hbreak]
  · rw [if_neg hbreak]
    simp only [atoi_toDigits]
    simp [hbreak]

/-! ## From the error object to the caller -/

/-- The text for an error object with a code and a message. -/
theorem header_error {trunc : ℚ → ℤ} (c : ClientCodec) {m : Message}
    {members : List (String × Json)} {code : ℚ} {msg : String} (hdecodable : m.Decodable)
    (herror : m.error = some (.object members))
    (hcode : member? members "code" = some (.number code))
    (hmsg : member? members "message" = some (.string msg)) :
    (c.readResponseHeader trunc m).2.1.error =
      "code: " ++ toString (trunc code) ++ " msg: " ++ msg := by
  obtain ⟨resp, hdecode, -, hresp, -⟩ := decode_of_decodable hdecodable
  have htext : resp.errorText trunc =
      .ok ("code: " ++ toString (trunc code) ++ " msg: " ++ msg) := by
    simp [ClientResponse.errorText, hresp, herror, hcode, hmsg]
  simp [ClientCodec.readResponseHeader, hdecode, htext]

/-- There is no text for an error object that cannot be decoded. -/
theorem isJSONError_undecodable {trunc : ℚ → ℤ} {c : ClientCodec} {m : Message}
    (h : ¬ m.Decodable) (q : ℤ) :
    isJSONError (c.readResponseHeader trunc m).2.1.error q = false := by
  have hempty : (c.readResponseHeader trunc m).2.1.error = "" := by
    simp [ClientCodec.readResponseHeader, decode_eq_none h]
  rw [hempty]
  rfl

/-- **Error codes survive the text they are printed in**, if and only if the error object can be
decoded, the message has no line break, which the regular expression does not match, and the code
is not changed by being a `float64` on the way. -/
theorem error_code_survives_iff (overflow : ℚ → Int64) (c : ClientCodec) (m : Message)
    (members : List (String × Json)) (code : Int64) (msg : String) (hid : m.id ≠ .other)
    (herror : m.error = some (.object members))
    (hcode : member? members "code" = some (.number code.toInt))
    (hmsg : member? members "message" = some (.string msg)) :
    (∀ q : ℤ, isJSONError (c.readResponseHeader (codeVal overflow) m).2.1.error q = true ↔
      q = 0 ∨ q = code.toInt) ↔
    (Json.object members).decodable = true ∧ '\n' ∉ msg.toList ∧
      (Binary64.Representable code.toInt ∨
        (¬ Binary64.Fits (-2 ^ 63) (2 ^ 63) (Binary64.round code.toInt) ∧
          overflow (Binary64.round code.toInt) = code)) := by
  have hdecodable : m.Decodable ↔ (Json.object members).decodable = true := by
    simp [Message.Decodable, hid, herror]
  by_cases hrange : (Json.object members).decodable = true
  · rw [header_error c (hdecodable.2 hrange) herror hcode hmsg, ← Binary64.toInt64_round_eq_iff,
      codeVal, and_iff_right hrange]
    simp only [isJSONError_text]
    generalize Binary64.toInt64 overflow (Binary64.round code.toInt) = n
    constructor
    · intro h
      have hbreak := ((h 0).2 (.inl rfl)).1
      refine ⟨hbreak, Int64.toInt_inj.1 ?_⟩
      -- asking for the code that was printed tells it from the one that was sent, unless one is 0
      rcases (h n.toInt).1 ⟨hbreak, .inr rfl⟩ with hzero | hsame
      · rcases ((h code.toInt).2 (.inr rfl)).2 with hzero' | hsame
        · rw [hzero, hzero']
        · exact hsame
      · exact hsame
    · rintro ⟨hbreak, rfl⟩ q
      simp [hbreak, eq_comm]
  · refine iff_of_false (fun h => ?_) fun hcond => hrange hcond.1
    have hzero := (h 0).2 (.inl rfl)
    rw [isJSONError_undecodable (mt hdecodable.1 hrange)] at hzero
    cases hzero

/-- An error object as SPDK sends it can be decoded. -/
theorem decodable_errorObject {code : ℤ} (h : |code| ≤ 2 ^ 53) (msg : String) :
    (Json.object [("code", .number code), ("message", .string msg)]).decodable = true := by
  have hcode := decodable_intCast h
  simp only [Json.decodable, decodableMembers, Bool.and_true] at hcode ⊢
  exact hcode

theorem error_code_survives_invalidParams :
    isJSONError (newClientCodec.readResponseHeader (codeVal fun _ => 0)
      ⟨.number 1, none, some (.object [("code", .number (-32602 : ℤ)),
        ("message", .string "Invalid parameters")])⟩).2.1.error (-32602) = true := by
  have hcode := error_code_survives_iff (fun _ => 0) newClientCodec
    ⟨.number 1, none, some (.object [("code", .number (-32602 : ℤ)),
      ("message", .string "Invalid parameters")])⟩ _ (-32602) "Invalid parameters" (by decide)
    rfl (by rw [show (-32602 : Int64).toInt = -32602 by decide]; rfl) rfl
  have hsmall := Binary64.representable_intCast (n := -32602) (by decide)
  exact (hcode.2 ⟨decodable_errorObject (by decide) _, by decide, .inl hsmall⟩ (-32602)).2
    (.inr rfl)

/-- A message of two lines: the caller does not see that it is an error of SPDK at all. -/
theorem error_code_lost_in_lines :
    isJSONError (newClientCodec.readResponseHeader (codeVal fun _ => 0)
      ⟨.number 1, none, some (.object [("code", .number (-32602 : ℤ)),
        ("message", .string "Invalid parameters\nname: missing")])⟩).2.1.error (-32602) =
      false := by
  have hdecodable : Message.Decodable ⟨.number 1, none, some (.object
      [("code", .number (-32602 : ℤ)),
        ("message", .string "Invalid parameters\nname: missing")])⟩ :=
    ⟨by decide, decodable_errorObject (by decide) _⟩
  rw [header_error newClientCodec hdecodable rfl rfl rfl, Bool.eq_false_iff, codeVal, Ne,
    isJSONError_text]
  exact fun h => h.1 (by decide)

end Oim.Spdk
