import Mathlib

/-!
# The last write

A history of writes `(key, value)`, oldest first, and the value each key was last
given.  This is what a store is for, whatever it is built from.

* `lastWrite_eq_some_iff` — the value comes from a write that no later one has
  replaced.
* `lastWrite_filter` — writes to other keys do not matter, so a history can be
  thinned out around a key.
* `lastWrite_map` — renaming the keys by a function that keeps them apart changes
  nothing.
-/

namespace LastWrite

variable {K L V : Type} [DecidableEq K] [DecidableEq L]

/-- The value that `k` was last given. -/
def lastWrite (ws : List (K × V)) (k : K) : Option V :=
  ws.foldl (fun old w => if w.1 = k then some w.2 else old) none

@[simp] theorem lastWrite_nil (k : K) : lastWrite ([] : List (K × V)) k = none := rfl

theorem lastWrite_append_singleton (ws : List (K × V)) (w : K × V) (k : K) :
    lastWrite (ws ++ [w]) k = if w.1 = k then some w.2 else lastWrite ws k := by
  simp [lastWrite]

/-- **Where the value comes from.** -/
theorem lastWrite_eq_some_iff {ws : List (K × V)} {k : K} {v : V} :
    lastWrite ws k = some v ↔
      ∃ before after, ws = before ++ (k, v) :: after ∧ ∀ w ∈ after, w.1 ≠ k := by
  induction ws using List.reverseRecOn with
  | nil => simp
  | append_singleton ws w ih =>
    rw [lastWrite_append_singleton]
    constructor
    · intro h
      split_ifs at h with hw
      · obtain rfl : w = (k, v) := Prod.ext hw (Option.some.inj h)
        exact ⟨ws, [], rfl, by simp⟩
      · obtain ⟨before, after, rfl, hafter⟩ := ih.1 h
        refine ⟨before, after ++ [w], by simp, ?_⟩
        intro w' hw'
        rcases List.mem_append.1 hw' with hw' | hw'
        · exact hafter w' hw'
        · rw [List.mem_singleton.1 hw']
          exact hw
    · rintro ⟨before, after, heq, hafter⟩
      cases after using List.reverseRecOn with
      | nil =>
        obtain ⟨-, rfl⟩ := List.append_inj' heq rfl |>.imp_right List.singleton_inj.1
        simp
      | append_singleton after w' =>
        rw [← List.cons_append, ← List.append_assoc] at heq
        obtain ⟨rfl, rfl⟩ := List.append_inj' heq rfl |>.imp_right List.singleton_inj.1
        rw [if_neg (hafter w (by simp))]
        exact ih.2 ⟨before, after, rfl, fun w' hw' => hafter w' (by simp [hw'])⟩

/-- A key whose value is known was written. -/
theorem exists_mem_of_lastWrite {ws : List (K × V)} {k : K} {v : V}
    (h : lastWrite ws k = some v) : (k, v) ∈ ws := by
  obtain ⟨before, after, rfl, -⟩ := lastWrite_eq_some_iff.1 h
  simp

/-- Where the value comes from, in a history whose elements `a` write `f a`, if
anything. -/
theorem exists_of_lastWrite_filterMap {A : Type} {f : A → Option (K × V)} {as : List A} {k : K}
    {v : V} (h : lastWrite (as.filterMap f) k = some v) :
    ∃ before a after, as = before ++ a :: after ∧ f a = some (k, v) ∧
      ∀ b ∈ after, ∀ v', f b ≠ some (k, v') := by
  obtain ⟨ws, ws', heq, hafter⟩ := lastWrite_eq_some_iff.1 h
  obtain ⟨as₁, as₂, rfl, -, hrest⟩ := List.filterMap_eq_append_iff.1 heq
  obtain ⟨as₃, a, after, rfl, -, ha, rfl⟩ := List.filterMap_eq_cons_iff.1 hrest
  refine ⟨as₁ ++ as₃, a, after, by simp, ha, fun b hb v' hfb => ?_⟩
  exact hafter (k, v') (List.mem_filterMap.2 ⟨b, hb, hfb⟩) rfl

/-- **Thinning out.**  Dropping elements that do not write `k` leaves the last
write of `k` alone; `f` is what an element of the history writes, if anything. -/
theorem lastWrite_filter {A : Type} {f : A → Option (K × V)} {keep : A → Bool}
    {as : List A} {k : K} (h : ∀ a ∈ as, ∀ v, f a = some (k, v) → keep a = true) :
    lastWrite ((as.filter keep).filterMap f) k = lastWrite (as.filterMap f) k := by
  induction as using List.reverseRecOn with
  | nil => rfl
  | append_singleton as a ih =>
    have ih' := ih fun b hb => h b (by simp [hb])
    rw [List.filter_append, List.filterMap_append, List.filterMap_append]
    cases hfa : f a with
    | none =>
      by_cases hk : keep a = true <;> simp [hk, hfa, ih']
    | some w =>
      by_cases hk : keep a = true
      · simp only [List.filter_cons, hk, if_true, List.filter_nil, List.filterMap_cons, hfa,
          List.filterMap_nil, lastWrite_append_singleton, ih']
      · have hw : w.1 ≠ k := fun he => hk (h a (by simp) w.2 (by rw [hfa, ← he]))
        simp [hk, hfa, lastWrite_append_singleton, hw, ih']

/-- Renaming keys. -/
theorem lastWrite_map {g : K → L} {ws : List (K × V)} {k : K}
    (hg : ∀ w ∈ ws, g w.1 = g k → w.1 = k) :
    lastWrite (ws.map fun w => (g w.1, w.2)) (g k) = lastWrite ws k := by
  induction ws using List.reverseRecOn with
  | nil => rfl
  | append_singleton ws w ih =>
    rw [List.map_append, List.map_singleton, lastWrite_append_singleton,
      lastWrite_append_singleton, ih fun w' hw' => hg w' (by simp [hw'])]
    by_cases hw : w.1 = k
    · rw [if_pos hw, if_pos (by rw [hw])]
    · rw [if_neg hw, if_neg fun he => hw (hg w (by simp) he)]

end LastWrite
