import Mathlib

/-!
# Go slices

A slice is a window on a backing array that other slices may look at as well.  `append`
writes into the array if there is room behind the window, and only otherwise allocates a
new one.

* `Heap`, `Slice`, `append` — the arrays, and what Go does.  How much room a new array has
  is up to the runtime: `grow` says it for each allocation.
* `read_appendAll`, `read_appendAll_other` — what the new slice shows, and what the other
  slices on the same array show afterwards.
* `overwrite_eq_self_iff` — when they show the same as before.
-/

namespace Go

variable {α : Type}

/-- A backing array: the cells that were written at some time, and its size. -/
structure Backing (α : Type) where
  cells : List α
  cap : ℕ
  fits : cells.length ≤ cap

/-- Writes one cell, at most one behind the last that was written. -/
def Backing.write (b : Backing α) (i : ℕ) (x : α) (hi : i < b.cap) : Backing α where
  cells := b.cells.take i ++ x :: b.cells.drop (i + 1)
  cap := b.cap
  fits := by
    have := b.fits
    simp only [List.length_append, List.length_take, List.length_cons, List.length_drop]
    omega

/-- All arrays that were ever allocated. -/
abbrev Heap (α : Type) : Type := List (Backing α)

/-- A slice that starts at the first cell of its array. -/
structure Slice where
  array : ℕ
  len : ℕ
  deriving DecidableEq

/-- What the slice shows. -/
def read (h : Heap α) (s : Slice) : List α :=
  match h[s.array]? with
  | some b => b.cells.take s.len
  | none => []

/-- The slice is one that Go can have. -/
def Valid (h : Heap α) (s : Slice) : Prop :=
  ∃ b, h[s.array]? = some b ∧ s.len ≤ b.cells.length

/-- `append(s, x)`. -/
def append (grow : ℕ → ℕ) (h : Heap α) (s : Slice) (x : α) : Heap α × Slice :=
  match h[s.array]? with
  | some b =>
    if hroom : s.len < b.cap then
      (h.set s.array (b.write s.len x hroom), ⟨s.array, s.len + 1⟩)
    else
      (h ++ [⟨b.cells.take s.len ++ [x], s.len + 1 + grow h.length, by simp; omega⟩],
        ⟨h.length, s.len + 1⟩)
  | none => (h, s)

/-- One `append` after the other. -/
def appendAll (grow : ℕ → ℕ) : Heap α → Slice → List α → Heap α × Slice
  | h, s, [] => (h, s)
  | h, s, x :: xs => appendAll grow (append grow h s x).1 (append grow h s x).2 xs

/-! ## Writing to a list -/

/-- The list with the elements from `i` on replaced, as far as it goes. -/
def overwrite : List α → ℕ → List α → List α
  | l, _, [] => l
  | l, i, x :: xs => overwrite (l.set i x) (i + 1) xs

theorem overwrite_of_le {l : List α} {i : ℕ} (hi : l.length ≤ i) (xs : List α) :
    overwrite l i xs = l := by
  induction xs generalizing i with
  | nil => rfl
  | cons x xs ih => rw [overwrite, List.set_eq_of_length_le hi, ih (by omega)]

theorem getElem?_overwrite_of_lt {l : List α} {i j : ℕ} (hj : j < i) (xs : List α) :
    (overwrite l i xs)[j]? = l[j]? := by
  induction xs generalizing l i with
  | nil => rfl
  | cons x xs ih => rw [overwrite, ih (by omega), List.getElem?_set_ne (by omega)]

theorem set_eq_self_iff {l : List α} {i : ℕ} {x : α} :
    l.set i x = l ↔ ∀ y, l[i]? = some y → x = y := by
  constructor
  · intro heq y hy
    have hlt : i < l.length := (List.getElem?_eq_some_iff.1 hy).1
    rw [← heq, List.getElem?_set_self hlt] at hy
    exact Option.some_inj.1 hy
  · intro hsame
    rcases lt_or_ge i l.length with hlt | hge
    · rw [hsame l[i] (List.getElem?_eq_getElem hlt), List.set_getElem_self]
    · exact List.set_eq_of_length_le hge

/-- Nothing changes if and only if what is written is there already. -/
theorem overwrite_eq_self_iff {l : List α} {i : ℕ} {xs : List α} :
    overwrite l i xs = l ↔
      ∀ j x y, xs[j]? = some x → l[i + j]? = some y → x = y := by
  induction xs generalizing l i with
  | nil => simp [overwrite]
  | cons x xs ih =>
    rw [overwrite]
    constructor
    · intro heq
      -- The later writes do not undo the first.
      have hset : l.set i x = l := by
        refine set_eq_self_iff.2 fun y hy => ?_
        have hlt : i < l.length := (List.getElem?_eq_some_iff.1 hy).1
        rw [← heq, getElem?_overwrite_of_lt (Nat.lt_succ_self i), List.getElem?_set_self hlt] at hy
        exact Option.some_inj.1 hy
      rw [hset] at heq
      rintro (_ | j) z y hz hy
      · rw [List.getElem?_cons_zero, Option.some_inj] at hz
        exact hz.symm.trans (set_eq_self_iff.1 hset y hy)
      · exact ih.1 heq j z y hz (by rwa [Nat.add_right_comm])
    · intro hsame
      have hset : l.set i x = l := set_eq_self_iff.2 fun y hy => hsame 0 x y rfl hy
      rw [hset]
      exact ih.2 fun j z y hz hy => hsame (j + 1) z y hz (by rwa [Nat.add_comm j, ← Nat.add_assoc])

/-! ## What slices show -/

theorem length_read_le {h : Heap α} {s : Slice} {b : Backing α} (hb : h[s.array]? = some b) :
    (read h s).length ≤ b.cap := by
  have := b.fits
  simp only [read, hb, List.length_take]
  omega

theorem Backing.getElem?_write {b : Backing α} {i : ℕ} {x : α} (hi : i < b.cap)
    (hle : i ≤ b.cells.length) (j : ℕ) :
    (b.write i x hi).cells[j]? = if j = i then some x else b.cells[j]? := by
  have hlen : (b.cells.take i).length = i := by simpa using hle
  rcases lt_trichotomy j i with hlt | rfl | hgt
  · rw [write, List.getElem?_append_left (by omega), List.getElem?_take_of_lt hlt,
      if_neg hlt.ne]
  · rw [write, List.getElem?_append_right (by omega), hlen, Nat.sub_self, if_pos rfl,
      List.getElem?_cons_zero]
  · obtain ⟨k, rfl⟩ := Nat.exists_eq_add_of_lt hgt
    rw [write, List.getElem?_append_right (by omega), hlen, if_neg hgt.ne',
      show i + k + 1 - i = k + 1 by omega, List.getElem?_cons_succ, List.getElem?_drop,
      Nat.add_right_comm]

theorem Backing.take_write {b : Backing α} {i n : ℕ} {x : α} (hi : i < b.cap)
    (hle : i ≤ b.cells.length) (hn : n ≤ b.cells.length) :
    (b.write i x hi).cells.take n = (b.cells.take n).set i x := by
  refine List.ext_getElem? fun j => ?_
  simp only [List.getElem?_take, List.getElem?_set, List.length_take, getElem?_write hi hle]
  split_ifs <;> grind

theorem Backing.length_write {b : Backing α} {i : ℕ} {x : α} (hi : i < b.cap)
    (hle : i ≤ b.cells.length) :
    (b.write i x hi).cells.length = max b.cells.length (i + 1) := by
  simp only [write, List.length_append, List.length_take, List.length_cons, List.length_drop]
  omega

/-- The two things `append` can do. -/
theorem append_cases (grow : ℕ → ℕ) {h : Heap α} {s : Slice} (x : α) (hs : Valid h s) :
    (∃ b hroom, h[s.array]? = some b ∧ s.len ≤ b.cells.length ∧
      append grow h s x = (h.set s.array (b.write s.len x hroom), ⟨s.array, s.len + 1⟩)) ∨
    (∃ b b', h[s.array]? = some b ∧ b.cap ≤ s.len ∧ b'.cells = b.cells.take s.len ++ [x] ∧
      append grow h s x = (h ++ [b'], ⟨h.length, s.len + 1⟩)) := by
  obtain ⟨b, hb, hlen⟩ := hs
  by_cases hroom : s.len < b.cap
  · exact .inl ⟨b, hroom, hb, hlen, by simp [append, hb, hroom]⟩
  · exact .inr ⟨b, _, hb, not_lt.1 hroom, rfl, by simp [append, hb, hroom]; rfl⟩

theorem getElem?_append_heap {h : Heap α} {i : ℕ} {b b' : Backing α} (hb : h[i]? = some b) :
    (h ++ [b'])[i]? = some b := by
  rwa [List.getElem?_append_left (List.getElem?_eq_some_iff.1 hb).1]

section Append

variable {grow : ℕ → ℕ} {h : Heap α} {s t : Slice} {x : α}

theorem valid_append (hs : Valid h s) : Valid (append grow h s x).1 (append grow h s x).2 := by
  rcases append_cases grow x hs with
    ⟨b, hroom, hb, hlen, heq⟩ | ⟨b, b', hb, hfull, hcells, heq⟩
  · have hlt : s.array < h.length := (List.getElem?_eq_some_iff.1 hb).1
    rw [heq]
    refine ⟨_, List.getElem?_set_self hlt, ?_⟩
    rw [Backing.length_write hroom hlen]
    exact le_max_right _ _
  · obtain ⟨_, hb', hlen⟩ := hs
    obtain rfl := Option.some_inj.1 (hb.symm.trans hb')
    rw [heq]
    exact ⟨b', List.getElem?_concat_length, by simp [hcells, hlen]⟩

theorem valid_append_other (hs : Valid h s) (ht : Valid h t) :
    Valid (append grow h s x).1 t := by
  obtain ⟨c, hc, hlen⟩ := ht
  rcases append_cases grow x hs with
    ⟨b, hroom, hb, hle, heq⟩ | ⟨b, b', hb, hfull, hcells, heq⟩
  · rw [heq]
    rcases eq_or_ne s.array t.array with harray | harray
    · obtain rfl : b = c := Option.some_inj.1 (hb.symm.trans (harray ▸ hc))
      have hlt : s.array < h.length := (List.getElem?_eq_some_iff.1 hb).1
      refine ⟨b.write s.len x hroom, by rw [← harray]; exact List.getElem?_set_self hlt, ?_⟩
      rw [Backing.length_write hroom hle]
      exact hlen.trans (le_max_left _ _)
    · exact ⟨c, by rwa [List.getElem?_set_ne harray], hlen⟩
  · rw [heq]
    exact ⟨c, getElem?_append_heap hc, hlen⟩

/-- The new slice shows one more. -/
theorem read_append (hs : Valid h s) :
    read (append grow h s x).1 (append grow h s x).2 = read h s ++ [x] := by
  rcases append_cases grow x hs with
    ⟨b, hroom, hb, hlen, heq⟩ | ⟨b, b', hb, hfull, hcells, heq⟩
  · have hlt : s.array < h.length := (List.getElem?_eq_some_iff.1 hb).1
    simp [read, heq, hb, List.getElem?_set_self hlt, Backing.write, List.take_append, hlen]
  · obtain ⟨_, hb', hlen⟩ := hs
    obtain rfl := Option.some_inj.1 (hb.symm.trans hb')
    simp [read, heq, hb, hcells, hlen]

/-- What another slice shows changes if it is on the same array and reaches that far. -/
theorem read_append_other (hs : Valid h s) (ht : Valid h t) :
    read (append grow h s x).1 t =
      if t.array = s.array then (read h t).set s.len x else read h t := by
  obtain ⟨c, hc, hlen⟩ := ht
  rcases append_cases grow x hs with
    ⟨b, hroom, hb, hle, heq⟩ | ⟨b, b', hb, hfull, hcells, heq⟩
  · rw [heq]
    split_ifs with harray
    · obtain rfl : b = c := Option.some_inj.1 (hb.symm.trans (harray ▸ hc))
      have hlt : s.array < h.length := (List.getElem?_eq_some_iff.1 hb).1
      simp only [read, harray, List.getElem?_set_self hlt, hb]
      exact Backing.take_write hroom hle hlen
    · simp [read, List.getElem?_set_ne (Ne.symm harray)]
  · have hread : read (h ++ [b']) t = read h t := by
      simp only [read, getElem?_append_heap hc, hc]
    rw [heq, hread]
    split_ifs with harray
    · -- A full array: the other slice ends where this one does, at the latest.
      exact (List.set_eq_of_length_le ((length_read_le (harray ▸ hb)).trans hfull)).symm
    · rfl

end Append

section AppendAll

variable {grow : ℕ → ℕ} {h : Heap α} {s t : Slice} {xs : List α}

theorem valid_appendAll (hs : Valid h s) :
    Valid (appendAll grow h s xs).1 (appendAll grow h s xs).2 := by
  induction xs generalizing h s with
  | nil => exact hs
  | cons x xs ih => exact ih (valid_append hs)

theorem valid_appendAll_other (hs : Valid h s) (ht : Valid h t) :
    Valid (appendAll grow h s xs).1 t := by
  induction xs generalizing h s with
  | nil => exact ht
  | cons x xs ih => exact ih (valid_append hs) (valid_append_other hs ht)

/-- **What is appended is there.** -/
theorem read_appendAll (hs : Valid h s) :
    read (appendAll grow h s xs).1 (appendAll grow h s xs).2 = read h s ++ xs := by
  induction xs generalizing h s with
  | nil => simp [appendAll]
  | cons x xs ih => rw [appendAll, ih (valid_append hs), read_append hs]; simp

/-- **And what other slices on the same array show there is overwritten.** -/
theorem read_appendAll_other (hs : Valid h s) (ht : Valid h t) :
    read (appendAll grow h s xs).1 t =
      if t.array = s.array then overwrite (read h t) s.len xs else read h t := by
  induction xs generalizing h s with
  | nil => simp [appendAll, overwrite]
  | cons x xs ih =>
    rw [appendAll, ih (valid_append hs) (valid_append_other hs ht), read_append_other hs ht]
    rcases append_cases grow x hs with
      ⟨b, hroom, hb, hle, heq⟩ | ⟨b, b', hb, hfull, hcells, heq⟩
    · rw [heq]
      split_ifs <;> rfl
    · -- From here on the writes go to the new array, and the old one was full.
      obtain ⟨c, hc, hlen⟩ := ht
      have hnew : t.array ≠ h.length := (List.getElem?_eq_some_iff.1 hc).1.ne
      rw [heq, if_neg hnew]
      split_ifs with harray
      · have hshort : (read h t).length ≤ s.len := (length_read_le (harray ▸ hb)).trans hfull
        rw [overwrite_of_le hshort, List.set_eq_of_length_le hshort]
      · rfl

end AppendAll

end Go
