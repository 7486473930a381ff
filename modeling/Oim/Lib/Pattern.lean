import Mathlib

/-!
# Regular expressions without alternatives

Sequences of letters and of repetitions of a class of letters, which is all that a program needs
to take apart a path or an address.  The search is the usual one: leftmost, and greedy with
backtracking.

* `Fits` — an expression and a text, with the groups and the rest of the text.
* `matchAt`, `matchAt_eq_none_iff` — the matcher, and when it fails; `matchAt_eq_some_iff` — where
  every repetition is ended by a letter that cannot belong to it (`Det`) there is only one way to
  match, and `matchAt` finds it.
* `find`, `find_append` — the leftmost match; `find_border` — text in front of a match that does
  not match itself cannot match together with the beginning of it, if the two letters at the
  border only occur at the beginning of a match (`Separates`).
* `cut_find` — cutting out the first occurrence of the matched text cuts out the match.
* `afterLast` — what follows the last occurrence of a text.
-/

namespace Pattern

variable {α : Type}

/-- A piece of an expression. -/
inductive Item (α : Type) where
  | lit (c : α)
  /-- At least `lo` and at most `hi` letters of a class, as a group or not. -/
  | rep (cls : α → Bool) (lo : ℕ) (hi : Option ℕ) (group : Bool)
  /-- The end of the text. -/
  | stop

/-- An expression. -/
abbrev Expr (α : Type) : Type := List (Item α)

/-- A fixed text. -/
def lits (w : List α) : Expr α := w.map .lit

/-- Put a text in front of the groups. -/
def capture (group : Bool) (u : List α) (gs : List (List α)) : List (List α) :=
  if group then u :: gs else gs

/-! ## What fits -/

/-- The expression fits the beginning of `t`, with the groups `gs`, and `r` is left over. -/
def Fits : Expr α → List α → List (List α) → List α → Prop
  | [], t, gs, r => gs = [] ∧ t = r
  | .lit c :: p, t, gs, r => ∃ t', t = c :: t' ∧ Fits p t' gs r
  | .rep cls lo hi group :: p, t, gs, r => ∃ u t' gs', t = u ++ t' ∧ (∀ x ∈ u, cls x = true) ∧
      lo ≤ u.length ∧ (∀ n ∈ hi, u.length ≤ n) ∧ gs = capture group u gs' ∧ Fits p t' gs' r
  | .stop :: p, t, gs, r => t = [] ∧ Fits p [] gs r

variable {p : Expr α} {t r : List α} {gs : List (List α)}

@[simp] theorem fits_nil : Fits [] t gs r ↔ gs = [] ∧ t = r := Iff.rfl

@[simp] theorem fits_lit {c : α} : Fits (.lit c :: p) (c :: t) gs r ↔ Fits p t gs r := by
  constructor
  · rintro ⟨t', ht, h⟩
    rw [(List.cons.inj ht).2]
    exact h
  · exact fun h => ⟨t, rfl, h⟩

theorem fits_lits {w : List α} : Fits (lits w ++ p) (w ++ t) gs r ↔ Fits p t gs r := by
  induction w with
  | nil => rfl
  | cons c w ih => exact fits_lit.trans ih

theorem fits_rep {cls : α → Bool} {lo : ℕ} {hi : Option ℕ} {u : List α}
    (hu : ∀ x ∈ u, cls x = true) (hlo : lo ≤ u.length) (hhi : ∀ n ∈ hi, u.length ≤ n)
    (h : Fits p t gs r) (group : Bool) :
    Fits (.rep cls lo hi group :: p) (u ++ t) (capture group u gs) r :=
  ⟨u, t, gs, rfl, hu, hlo, hhi, rfl, h⟩

/-- What is left over is the end of the text. -/
theorem Fits.suffix (h : Fits p t gs r) : ∃ w, t = w ++ r := by
  induction p generalizing t gs with
  | nil => exact ⟨[], h.2⟩
  | cons i p ih =>
    cases i with
    | lit c =>
      obtain ⟨t', rfl, h⟩ := h
      obtain ⟨w, rfl⟩ := ih h
      exact ⟨c :: w, rfl⟩
    | rep cls lo hi group =>
      obtain ⟨u, t', gs', rfl, -, -, -, -, h⟩ := h
      obtain ⟨w, rfl⟩ := ih h
      exact ⟨u ++ w, (List.append_assoc u w r).symm⟩
    | stop =>
      obtain ⟨rfl, h⟩ := h
      exact ih h

/-- The classes and bounds of the groups. -/
def groups : Expr α → List ((α → Bool) × ℕ × Option ℕ)
  | [] => []
  | .rep cls lo hi true :: p => (cls, lo, hi) :: groups p
  | _ :: p => groups p

/-- A text that a group may hold. -/
def Admits (g : (α → Bool) × ℕ × Option ℕ) (u : List α) : Prop :=
  (∀ x ∈ u, g.1 x = true) ∧ g.2.1 ≤ u.length ∧ ∀ n ∈ g.2.2, u.length ≤ n

/-- The groups hold what they may. -/
theorem Fits.groups (h : Fits p t gs r) : List.Forall₂ Admits (groups p) gs := by
  induction p generalizing t gs with
  | nil => rw [h.1]; exact .nil
  | cons i p ih =>
    cases i with
    | lit c =>
      obtain ⟨t', -, h⟩ := h
      exact ih h
    | rep cls lo hi group =>
      obtain ⟨u, t', gs', -, hu, hlo, hhi, rfl, h⟩ := h
      cases group with
      | false => exact ih h
      | true => exact .cons ⟨hu, hlo, hhi⟩ (ih h)
    | stop => exact ih h.2

/-- An expression for whole texts, none of which contains `c`. -/
def Excludes [DecidableEq α] (c : α) : Expr α → Bool
  | [] => false
  | .lit x :: p => x ≠ c && Excludes c p
  | .rep cls _ _ _ :: p => !cls c && Excludes c p
  | .stop :: _ => true

theorem Fits.not_mem [DecidableEq α] {c : α} (hp : Excludes c p = true) (h : Fits p t gs r) :
    c ∉ t := by
  induction p generalizing t gs with
  | nil => exact absurd hp (by simp [Excludes])
  | cons i p ih =>
    cases i with
    | lit x =>
      obtain ⟨t', rfl, h⟩ := h
      simp only [Excludes, Bool.and_eq_true, decide_eq_true_eq] at hp
      simp [ih hp.2 h, hp.1.symm]
    | rep cls lo hi group =>
      obtain ⟨u, t', gs', rfl, hu, -, -, -, h⟩ := h
      simp only [Excludes, Bool.and_eq_true, Bool.not_eq_true'] at hp
      have hc : c ∉ u := fun hmem => absurd (hu c hmem) (by simp [hp.1])
      simp [hc, ih hp.2 h]
    | stop => simp [h.1]

/-- Without the end of the text in it, an expression does not look at what is left over. -/
def Open : Expr α → Bool
  | [] => true
  | .stop :: _ => false
  | _ :: p => Open p

theorem Fits.extend {w : List α} (hp : Open p = true) (h : Fits p (w ++ r) gs r) (r' : List α) :
    Fits p (w ++ r') gs r' := by
  induction p generalizing w gs with
  | nil =>
    have hw : w = [] := List.append_left_eq_self.1 h.2
    exact ⟨h.1, by rw [hw]; rfl⟩
  | cons i p ih =>
    cases i with
    | stop => exact absurd hp (by simp [Open])
    | lit c =>
      obtain ⟨t', ht, h⟩ := h
      obtain ⟨w', rfl⟩ := h.suffix
      obtain rfl : w = c :: w' := List.append_cancel_right (ht.trans (List.cons_append).symm)
      exact fits_lit.2 (ih hp h)
    | rep cls lo hi group =>
      obtain ⟨u, t', gs', ht, hu, hlo, hhi, rfl, h⟩ := h
      obtain ⟨w', rfl⟩ := h.suffix
      obtain rfl : w = u ++ w' :=
        List.append_cancel_right (ht.trans (List.append_assoc u w' r).symm)
      rw [List.append_assoc]
      exact fits_rep hu hlo hhi (ih hp h) group

/-! ### Only one way -/

/-- What follows a repetition cannot belong to it. -/
def Ends (cls : α → Bool) : Expr α → Bool
  | .lit c :: _ => !cls c
  | .stop :: _ => true
  | _ => false

/-- Every repetition has an end. -/
def Det : Expr α → Bool
  | [] => true
  | .rep cls _ _ _ :: p => Ends cls p && Det p
  | _ :: p => Det p

theorem Fits.takeWhile_eq_nil {cls : α → Bool} (hends : Ends cls p = true) (h : Fits p t gs r) :
    t.takeWhile cls = [] := by
  cases p with
  | nil => exact absurd hends (by simp [Ends])
  | cons i p =>
    cases i with
    | lit c =>
      obtain ⟨t', rfl, -⟩ := h
      have hc : cls c = false := by simpa [Ends] using hends
      rw [List.takeWhile_cons, hc]
      rfl
    | rep => exact absurd hends (by simp [Ends])
    | stop =>
      obtain ⟨rfl, -⟩ := h
      rfl

/-- **A match is determined by the text.** -/
theorem Fits.unique (hdet : Det p = true) {gs' : List (List α)} {r' : List α}
    (h : Fits p t gs r) (h' : Fits p t gs' r') : gs = gs' ∧ r = r' := by
  induction p generalizing t gs gs' with
  | nil => exact ⟨h.1.trans h'.1.symm, h.2.symm.trans h'.2⟩
  | cons i p ih =>
    cases i with
    | lit c =>
      obtain ⟨t₁, rfl, h⟩ := h
      exact ih hdet h (fits_lit.1 h')
    | stop => exact ih hdet h.2 h'.2
    | rep cls lo hi group =>
      simp only [Det, Bool.and_eq_true] at hdet
      obtain ⟨u, t₁, gs₁, rfl, hu, -, -, rfl, h⟩ := h
      obtain ⟨u', t₂, gs₂, ht, hu', -, -, rfl, h'⟩ := h'
      -- both repetitions take exactly the letters of the class
      have htake := congrArg (List.takeWhile cls) ht
      rw [List.takeWhile_append_of_pos hu, List.takeWhile_append_of_pos hu',
        h.takeWhile_eq_nil hdet.1, h'.takeWhile_eq_nil hdet.1, List.append_nil,
        List.append_nil] at htake
      obtain rfl := htake
      obtain rfl := List.append_cancel_left ht
      obtain ⟨rfl, rfl⟩ := ih hdet.2 h h'
      exact ⟨rfl, rfl⟩

/-! ## The matcher -/

section Longest

variable {β : Type}

/-- The first success, from `n` down to `lo`. -/
def longest (lo : ℕ) (f : ℕ → Option β) : ℕ → Option β
  | 0 => if lo = 0 then f 0 else none
  | n + 1 => if lo ≤ n + 1 then (f (n + 1)).or (longest lo f n) else none

/-- How far a repetition can reach. -/
def reach (cls : α → Bool) (hi : Option ℕ) (t : List α) : ℕ :=
  min (t.takeWhile cls).length (hi.getD t.length)

theorem longest_eq_some {lo m : ℕ} {f : ℕ → Option β} {b : β} (h : longest lo f m = some b) :
    ∃ n, lo ≤ n ∧ n ≤ m ∧ f n = some b := by
  induction m with
  | zero =>
    unfold longest at h
    split_ifs at h with hlo
    exact ⟨0, hlo.le, le_rfl, h⟩
  | succ m ih =>
    unfold longest at h
    split_ifs at h with hlo
    rcases Option.or_eq_some_iff.1 h with h | ⟨-, h⟩
    · exact ⟨m + 1, hlo, le_rfl, h⟩
    · obtain ⟨n, hn, hm, hf⟩ := ih h
      exact ⟨n, hn, hm.trans (Nat.le_succ m), hf⟩

theorem longest_ne_none {lo m n : ℕ} {f : ℕ → Option β} (hlo : lo ≤ n) (hm : n ≤ m)
    (hf : f n ≠ none) : longest lo f m ≠ none := by
  induction m with
  | zero =>
    obtain rfl : n = 0 := Nat.le_zero.1 hm
    rw [longest, if_pos (Nat.le_zero.1 hlo)]
    exact hf
  | succ m ih =>
    rw [longest, if_pos (hlo.trans hm)]
    rcases Nat.of_le_succ hm with hm | rfl
    · simp [ih hm]
    · simp [hf]

theorem le_reach {cls : α → Bool} {hi : Option ℕ} {u : List α} (hu : ∀ x ∈ u, cls x = true)
    (hhi : ∀ n ∈ hi, u.length ≤ n) (t : List α) : u.length ≤ reach cls hi (u ++ t) := by
  refine le_min ?_ ?_
  · rw [List.takeWhile_append_of_pos hu, List.length_append]
    omega
  · cases hi with
    | none => simp
    | some n => exact hhi n rfl

theorem take_of_le_reach {cls : α → Bool} {hi : Option ℕ} {n : ℕ} (h : n ≤ reach cls hi t) :
    (∀ x ∈ t.take n, cls x = true) ∧ (t.take n).length = n ∧ ∀ m ∈ hi, n ≤ m := by
  obtain ⟨hcls, hhi⟩ := le_min_iff.1 h
  have hpre : t.take n <+: t.takeWhile cls :=
    List.prefix_of_prefix_length_le (List.take_prefix n t) (List.takeWhile_prefix cls)
      ((List.length_take_le n t).trans hcls)
  refine ⟨fun x hx => List.mem_takeWhile_imp (hpre.subset hx), ?_, ?_⟩
  · rw [List.length_take, min_eq_left]
    exact hcls.trans (List.takeWhile_prefix cls).length_le
  · rintro m rfl
    exact hhi

end Longest

variable [DecidableEq α]

/-- Greedy matching with backtracking: the groups and the rest of the text. -/
def matchAt : Expr α → List α → Option (List (List α) × List α)
  | [], t => some ([], t)
  | .lit _ :: _, [] => none
  | .lit c :: p, x :: t => if x = c then matchAt p t else none
  | .rep cls lo hi group :: p, t => longest lo (fun n =>
      (matchAt p (t.drop n)).map fun m => (capture group (t.take n) m.1, m.2)) (reach cls hi t)
  | .stop :: p, [] => matchAt p []
  | .stop :: _, _ :: _ => none

/-- The matcher finds only matches. -/
theorem fits_of_matchAt (h : matchAt p t = some (gs, r)) : Fits p t gs r := by
  induction p generalizing t gs with
  | nil =>
    obtain ⟨rfl, rfl⟩ := Prod.mk.inj (Option.some.inj h)
    exact ⟨rfl, rfl⟩
  | cons i p ih =>
    cases i with
    | lit c =>
      cases t with
      | nil => exact absurd h (by simp [matchAt])
      | cons x t =>
        rw [matchAt] at h
        split_ifs at h with hx
        exact ⟨t, by rw [hx], ih h⟩
    | rep cls lo hi group =>
      rw [matchAt] at h
      obtain ⟨n, hlo, hn, hf⟩ := longest_eq_some h
      obtain ⟨⟨gs', r'⟩, hm, heq⟩ := Option.map_eq_some_iff.1 hf
      obtain ⟨hgs, rfl⟩ := Prod.mk.inj heq
      obtain ⟨hcls, hlen, hhi⟩ := take_of_le_reach hn
      refine ⟨t.take n, t.drop n, gs', (List.take_append_drop n t).symm, hcls, ?_, ?_, hgs.symm,
        ih hm⟩
      · rw [hlen]; exact hlo
      · rw [hlen]; exact hhi
    | stop =>
      cases t with
      | nil => exact ⟨rfl, ih h⟩
      | cons x t => exact absurd h (by simp [matchAt])

/-- The matcher finds a match if there is one. -/
theorem Fits.matchAt_ne_none (h : Fits p t gs r) : matchAt p t ≠ none := by
  induction p generalizing t gs with
  | nil => simp [matchAt]
  | cons i p ih =>
    cases i with
    | lit c =>
      obtain ⟨t', rfl, h⟩ := h
      rw [matchAt, if_pos rfl]
      exact ih h
    | rep cls lo hi group =>
      obtain ⟨u, t', gs', rfl, hu, hlo, hhi, -, h⟩ := h
      rw [matchAt]
      refine longest_ne_none hlo (le_reach hu hhi t') ?_
      simpa using ih h
    | stop =>
      obtain ⟨rfl, h⟩ := h
      exact ih h

theorem matchAt_eq_none_iff : matchAt p t = none ↔ ∀ gs r, ¬ Fits p t gs r := by
  constructor
  · exact fun h gs r hfits => hfits.matchAt_ne_none h
  · intro h
    cases hm : matchAt p t with
    | none => rfl
    | some m => exact absurd (fits_of_matchAt hm) (h m.1 m.2)

/-- **Where there is only one way to match, the matcher takes it.** -/
theorem matchAt_eq_some_iff (hdet : Det p = true) :
    matchAt p t = some (gs, r) ↔ Fits p t gs r := by
  refine ⟨fits_of_matchAt, fun h => ?_⟩
  obtain ⟨m, hm⟩ := Option.ne_none_iff_exists'.1 h.matchAt_ne_none
  obtain ⟨rfl, rfl⟩ := (fits_of_matchAt hm).unique hdet h
  exact hm

/-! ## The search -/

/-- A match with its place in the text. -/
structure Hit (α : Type) where
  before : List α
  text : List α
  groups : List (List α)
  after : List α
  deriving DecidableEq

/-- The leftmost match. -/
def find (p : Expr α) : List α → Option (Hit α)
  | [] => (matchAt p []).map fun m => ⟨[], [], m.1, m.2⟩
  | c :: t =>
    match matchAt p (c :: t) with
    | some m => some ⟨[], (c :: t).take ((c :: t).length - m.2.length), m.1, m.2⟩
    | none => (find p t).map fun h => ⟨c :: h.before, h.text, h.groups, h.after⟩

theorem find_of_fits {w : List α} (hdet : Det p = true) (h : Fits p (w ++ r) gs r) :
    find p (w ++ r) = some ⟨[], w, gs, r⟩ := by
  have hm := (matchAt_eq_some_iff hdet).2 h
  cases hw : w ++ r with
  | nil =>
    obtain ⟨rfl, rfl⟩ := List.append_eq_nil_iff.1 hw
    rw [find, ← hw, hm]
    rfl
  | cons c t =>
    have htake : (c :: t).take ((c :: t).length - r.length) = w := by
      rw [← hw]
      simp
    rw [find, ← hw, hm, hw]
    simp only [htake]

theorem find_eq_none_iff : find p t = none ↔ ∀ b m, t = b ++ m → matchAt p m = none := by
  induction t with
  | nil => simp [find]
  | cons c t ih =>
    rw [find]
    cases hm : matchAt p (c :: t) with
    | some m =>
      refine iff_of_false (by simp) fun h => ?_
      exact absurd (hm.symm.trans (h [] _ rfl)) (by simp)
    | none =>
      rw [Option.map_eq_none_iff, ih]
      constructor
      · intro h b m hbm
        cases b with
        | nil => exact (show c :: t = m from hbm) ▸ hm
        | cons x b => exact h b m (List.cons.inj hbm).2
      · exact fun h b m hbm => h (c :: b) m (by rw [hbm]; rfl)

/-- What the search finds is a match, and there is none further left. -/
theorem find_eq_some {x : Hit α} (h : find p t = some x) :
    t = x.before ++ (x.text ++ x.after) ∧ Fits p (x.text ++ x.after) x.groups x.after ∧
      ∀ b m, t = b ++ m → b.length < x.before.length → matchAt p m = none := by
  induction t generalizing x with
  | nil =>
    obtain ⟨⟨gs, r⟩, hm, rfl⟩ := Option.map_eq_some_iff.1 h
    have hfits := fits_of_matchAt hm
    obtain ⟨w, hw⟩ := hfits.suffix
    obtain ⟨rfl, rfl⟩ := List.append_eq_nil_iff.1 hw.symm
    exact ⟨rfl, hfits, fun b m _ hb => absurd hb (by simp)⟩
  | cons c t ih =>
    rw [find] at h
    cases hm : matchAt p (c :: t) with
    | some m =>
      rw [hm] at h
      obtain rfl := Option.some.inj h
      have hfits : Fits p (c :: t) m.1 m.2 := fits_of_matchAt hm
      obtain ⟨w, hw⟩ := hfits.suffix
      have htake : (c :: t).take ((c :: t).length - m.2.length) = w := by
        rw [hw]
        simp
      simp only [htake]
      exact ⟨hw, hw ▸ hfits, fun b m' _ hb => absurd hb (by simp)⟩
    | none =>
      rw [hm] at h
      obtain ⟨y, hy, rfl⟩ := Option.map_eq_some_iff.1 h
      obtain ⟨ht, hfits, hleft⟩ := ih hy
      refine ⟨congrArg (c :: ·) ht, hfits, fun b m hbm hb => ?_⟩
      cases b with
      | nil => exact (show c :: t = m from hbm) ▸ hm
      | cons x b => exact hleft b m (List.cons.inj hbm).2 (Nat.lt_of_succ_lt_succ hb)

/-- The search passes over text where no match begins. -/
theorem find_append {b : List α} (h : ∀ b' m, b = b' ++ m → m ≠ [] → matchAt p (m ++ t) = none) :
    find p (b ++ t) = (find p t).map fun x => ⟨b ++ x.before, x.text, x.groups, x.after⟩ := by
  induction b with
  | nil => simp
  | cons c b ih =>
    rw [List.cons_append, find, ← List.cons_append, h [] (c :: b) rfl (by simp),
      ih fun b' m hb hm => h (c :: b') m (by rw [hb]; rfl) hm]
    simp [Function.comp_def]

/-! ### Text in front of a match -/

/-- No word of the expression starts with `d`. -/
def Refuses (d : α) : Expr α → Bool
  | [] => true
  | .lit c :: _ => c ≠ d
  | .rep cls lo _ _ :: _ => !cls d && 0 < lo
  | .stop :: _ => true

/-- In a word of the expression, `c` is never followed by `d`. -/
def Separates (c d : α) : Expr α → Bool
  | [] => true
  | .lit x :: p => (x ≠ c || Refuses d p) && Separates c d p
  | .rep cls _ _ _ :: p => !cls c && Separates c d p
  | .stop :: _ => false

theorem Fits.eq_nil_of_refuses {d : α} (hp : Refuses d p = true) (h : Fits p (d :: t) gs r) :
    p = [] := by
  cases p with
  | nil => rfl
  | cons i p =>
    exfalso
    cases i with
    | lit c =>
      obtain ⟨t', ht, -⟩ := h
      have hc : c ≠ d := by simpa [Refuses] using hp
      exact hc (List.cons.inj ht).1.symm
    | rep cls lo hi group =>
      simp only [Refuses, Bool.and_eq_true, Bool.not_eq_true', decide_eq_true_eq] at hp
      obtain ⟨u, t', -, ht, hu, hlo, -⟩ := h
      cases u with
      | nil => exact absurd hp.2 (by simpa using hlo)
      | cons a u =>
        have hd := hu a List.mem_cons_self
        rw [← (List.cons.inj ht).1, hp.1] at hd
        exact absurd hd (by simp)
    | stop => exact absurd h.1 (by simp)

omit [DecidableEq α] in
/-- Where a text that does not contain `c` ends, if it is at the beginning of another one. -/
theorem eq_append_of_not_mem {c : α} {u m t z : List α} (hc : c ∉ u) (h : m ++ c :: z = u ++ t) :
    ∃ m', m = u ++ m' ∧ t = m' ++ c :: z := by
  rcases List.append_eq_append_iff.1 h with ⟨a, rfl, ha⟩ | ⟨a, hm, ht⟩
  · cases a with
    | nil => exact ⟨[], by simp, by simpa using ha.symm⟩
    | cons x a =>
      obtain ⟨rfl, -⟩ := List.cons.inj ha
      exact absurd (by simp) hc
  · exact ⟨a, hm, ht⟩

/-- A match that reaches a border ends with its first letter, at the latest. -/
theorem Fits.border {c d : α} {m y : List α} (hsep : Separates c d p = true)
    (h : Fits p (m ++ c :: d :: y) gs r) : ∃ r', Fits p (m ++ [c]) gs r' := by
  induction p generalizing m gs with
  | nil => exact ⟨_, h.1, rfl⟩
  | cons i p ih =>
    cases i with
    | stop => exact absurd hsep (by simp [Separates])
    | lit x =>
      simp only [Separates, Bool.and_eq_true, Bool.or_eq_true, decide_eq_true_eq] at hsep
      obtain ⟨t', ht, h⟩ := h
      cases m with
      | nil =>
        obtain ⟨rfl, rfl⟩ := List.cons.inj ht
        obtain rfl := h.eq_nil_of_refuses (hsep.1.resolve_left fun hne => hne rfl)
        exact ⟨[], [], rfl, h.1, rfl⟩
      | cons a m =>
        obtain ⟨rfl, rfl⟩ := List.cons.inj ht
        obtain ⟨r', hr'⟩ := ih hsep.2 h
        exact ⟨r', fits_lit.2 hr'⟩
    | rep cls lo hi group =>
      simp only [Separates, Bool.and_eq_true, Bool.not_eq_true'] at hsep
      obtain ⟨u, t', gs', ht, hu, hlo, hhi, rfl, h⟩ := h
      have hc : c ∉ u := fun hmem => absurd (hu c hmem) (by simp [hsep.1])
      obtain ⟨m', rfl, rfl⟩ := eq_append_of_not_mem hc ht
      obtain ⟨r', hr'⟩ := ih hsep.2 h
      rw [List.append_assoc]
      exact ⟨r', fits_rep hu hlo hhi hr' group⟩

/-- **Text in front of a match.**  If there is no match in it, with the first letter of what
follows, then the search gets past it. -/
theorem find_border {x c d : α} {b y : List α} (hsep : Separates c d p = true)
    (hb : find (.lit x :: p) (b ++ [c]) = none) :
    find (.lit x :: p) (b ++ c :: d :: y) = (find (.lit x :: p) (c :: d :: y)).map
      fun z => ⟨b ++ z.before, z.text, z.groups, z.after⟩ := by
  refine find_append fun b' m hbm hm => matchAt_eq_none_iff.2 fun gs r h => ?_
  cases m with
  | nil => exact hm rfl
  | cons a m =>
    obtain ⟨t', ht, h⟩ := h
    obtain ⟨rfl, rfl⟩ := List.cons.inj ht
    obtain ⟨r', hr'⟩ := h.border hsep
    refine (fits_lit.2 hr').matchAt_ne_none (find_eq_none_iff.1 hb b' _ ?_)
    rw [hbm, List.append_assoc]
    rfl

/-! ## Fixed texts -/

/-- The text without the first occurrence of `w`. -/
def cut (w : List α) : List α → List α
  | [] => []
  | c :: t => if w.isPrefixOf (c :: t) then (c :: t).drop w.length else c :: cut w t

/-- **Cutting out the matched text cuts out the match**, not an earlier copy of its text. -/
theorem cut_find {x : Hit α} (hopen : Open p = true) (h : find p t = some x) :
    cut x.text t = x.before ++ x.after := by
  obtain ⟨ht, hfits, hleft⟩ := find_eq_some h
  clear h
  obtain ⟨before, text, gs, after⟩ := x
  simp only at ht hfits hleft ⊢
  induction before generalizing t with
  | nil =>
    cases t with
    | nil =>
      rw [List.nil_append, eq_comm, List.append_eq_nil_iff] at ht
      rw [ht.2]
      rfl
    | cons c t =>
      have hpre : text.isPrefixOf (c :: t) = true := by
        rw [ht, List.isPrefixOf_iff_prefix]
        exact List.prefix_append _ _
      rw [cut, if_pos hpre, ht]
      simp
  | cons c before ih =>
    obtain ⟨t, rfl⟩ : ∃ t', t = c :: t' := ⟨_, ht⟩
    have hpre : ¬ text.isPrefixOf (c :: t) = true := by
      rw [List.isPrefixOf_iff_prefix]
      rintro ⟨y, hy⟩
      have hnone := hleft [] (text ++ y) (by rw [hy]; rfl) (by simp)
      exact (hfits.extend hopen y).matchAt_ne_none hnone
    rw [cut, if_neg hpre, ih (List.cons.inj ht).2 fun b m hbm hb =>
      hleft (c :: b) m (by rw [hbm]; rfl) (Nat.succ_lt_succ hb)]
    rfl

/-- What follows the last occurrence of `w`. -/
def afterLast (w : List α) : List α → Option (List α)
  | [] => if w = [] then some [] else none
  | c :: t => (afterLast w t).or
      (if w.isPrefixOf (c :: t) then some ((c :: t).drop w.length) else none)

theorem afterLast_eq_some {w : List α} (h : afterLast w t = some r) : ∃ b, t = b ++ (w ++ r) := by
  induction t with
  | nil =>
    unfold afterLast at h
    split_ifs at h with hw
    obtain rfl := Option.some.inj h
    exact ⟨[], by rw [hw]; rfl⟩
  | cons c t ih =>
    rcases Option.or_eq_some_iff.1 h with h | ⟨-, h⟩
    · obtain ⟨b, rfl⟩ := ih h
      exact ⟨c :: b, rfl⟩
    · split_ifs at h with hpre
      obtain rfl := Option.some.inj h
      rw [List.isPrefixOf_iff_prefix] at hpre
      exact ⟨[], (List.prefix_iff_eq_append.1 hpre).symm⟩

theorem afterLast_ne_none (b w r : List α) : afterLast w (b ++ (w ++ r)) ≠ none := by
  induction b with
  | nil =>
    cases ht : w ++ r with
    | nil => rw [List.nil_append, afterLast, if_pos (List.append_eq_nil_iff.1 ht).1]; simp
    | cons c t =>
      have hpre : w.isPrefixOf (c :: t) = true := by
        rw [← ht, List.isPrefixOf_iff_prefix]
        exact List.prefix_append w r
      rw [List.nil_append, afterLast, if_pos hpre]
      simp
  | cons c b ih =>
    rw [List.cons_append, afterLast]
    simp [ih]

/-- The last occurrence is the one behind which none begins. -/
theorem afterLast_append {w : List α} (hw : w ≠ [])
    (hlast : ∀ b m, w ++ r = b ++ m → b ≠ [] → ¬ w <+: m) (b : List α) :
    afterLast w (b ++ (w ++ r)) = some r := by
  induction b with
  | nil =>
    obtain ⟨c, w', rfl⟩ := List.exists_cons_of_ne_nil hw
    have hnone : afterLast (c :: w') (w' ++ r) = none := by
      cases ha : afterLast (c :: w') (w' ++ r) with
      | none => rfl
      | some r' =>
        obtain ⟨b, hb⟩ := afterLast_eq_some ha
        refine absurd (List.prefix_append _ r') (hlast (c :: b) _ ?_ (by simp))
        rw [List.cons_append, hb]
        rfl
    have hpre : (c :: w').isPrefixOf (c :: (w' ++ r)) = true := by
      rw [List.isPrefixOf_iff_prefix]
      exact List.prefix_append (c :: w') r
    rw [List.nil_append, List.cons_append, afterLast, hnone, if_pos hpre]
    simp
  | cons c b ih => rw [List.cons_append, afterLast, ih]; rfl

end Pattern
