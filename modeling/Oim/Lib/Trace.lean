import Mathlib

/-!
# Runs of a labelled transition system

A system is a relation `step s e s'`: in state `s` the event `e` may happen and lead to
`s'`.  `Trace` is a finite run together with its history, oldest event first.

* `trace_snoc_iff`, `trace_append_iff`, `trace_cons_iff` — a run can be cut anywhere.
* `Trace.invariant` — what every step keeps, every run keeps.
* `Trace.forall_mem` — what no step does from a set of states it never leaves.
* `Trace.latch` — a state that one kind of event sets, and nothing resets.
* `Every`, `every_iff_every` — what holds of every step of a run, in the light of the
  history so far; two such properties agree if they agree as long as they have held.
-/

namespace Lts

variable {S E : Type}

/-- The run from `s` to the last state in which the events happen in this order. -/
inductive Trace (step : S → E → S → Prop) : S → List E → S → Prop where
  | nil (s : S) : Trace step s [] s
  | snoc {s s₁ s₂ : S} {es : List E} {e : E} :
      Trace step s es s₁ → step s₁ e s₂ → Trace step s (es ++ [e]) s₂

variable {step : S → E → S → Prop} {s s' s₂ : S} {es fs : List E} {e : E}

theorem trace_nil_iff : Trace step s [] s' ↔ s' = s := by
  constructor
  · intro h
    generalize hes : ([] : List E) = es at h
    cases h with
    | nil => rfl
    | snoc _ _ => exact absurd hes (by simp)
  · rintro rfl
    exact .nil s'

theorem trace_snoc_iff :
    Trace step s (es ++ [e]) s₂ ↔ ∃ s₁, Trace step s es s₁ ∧ step s₁ e s₂ := by
  constructor
  · intro h
    generalize hfs : es ++ [e] = fs at h
    cases h with
    | nil => exact absurd hfs (by simp)
    | snoc htrace hstep =>
      obtain ⟨rfl, he⟩ := List.append_inj' hfs rfl
      cases he
      exact ⟨_, htrace, hstep⟩
  · rintro ⟨s₁, htrace, hstep⟩
    exact .snoc htrace hstep

/-- A run can be cut anywhere. -/
theorem trace_append_iff :
    Trace step s (es ++ fs) s₂ ↔ ∃ s₁, Trace step s es s₁ ∧ Trace step s₁ fs s₂ := by
  induction fs using List.reverseRecOn generalizing s₂ with
  | nil => simp [trace_nil_iff]
  | append_singleton fs e ih =>
    rw [← List.append_assoc, trace_snoc_iff]
    constructor
    · rintro ⟨s₁, htrace, hstep⟩
      obtain ⟨s₀, h₁, h₂⟩ := ih.1 htrace
      exact ⟨s₀, h₁, .snoc h₂ hstep⟩
    · rintro ⟨s₀, h₁, h₂⟩
      obtain ⟨s₁, htrace, hstep⟩ := trace_snoc_iff.1 h₂
      exact ⟨s₁, ih.2 ⟨s₀, h₁, htrace⟩, hstep⟩

theorem trace_cons_iff :
    Trace step s (e :: es) s₂ ↔ ∃ s₁, step s e s₁ ∧ Trace step s₁ es s₂ := by
  have hone : ∀ {s₁}, Trace step s [e] s₁ ↔ step s e s₁ := by
    intro s₁
    rw [← List.nil_append [e], trace_snoc_iff]
    simp [trace_nil_iff]
  rw [← List.singleton_append, trace_append_iff]
  simp [hone]

/-- The run up to an event, the event, and the run from there. -/
theorem trace_middle_iff :
    Trace step s (es ++ e :: fs) s' ↔
      ∃ s₁ s₂, Trace step s es s₁ ∧ step s₁ e s₂ ∧ Trace step s₂ fs s' := by
  simp only [trace_append_iff, trace_cons_iff]
  constructor
  · rintro ⟨s₁, hbefore, s₂, hstep, hafter⟩
    exact ⟨s₁, s₂, hbefore, hstep, hafter⟩
  · rintro ⟨s₁, s₂, hbefore, hstep, hafter⟩
    exact ⟨s₁, hbefore, s₂, hstep, hafter⟩

/-- **Invariants.** -/
theorem Trace.invariant {I : S → Prop} (hstep : ∀ s e s', step s e s' → I s → I s')
    (h : Trace step s es s') (hinv : I s) : I s' := by
  induction h with
  | nil => exact hinv
  | snoc _ hlast ih => exact hstep _ _ _ hlast ih

theorem Trace.forall_mem {I : S → Prop} {P : E → Prop}
    (hstep : ∀ s e s', step s e s' → I s → I s' ∧ P e)
    (h : Trace step s es s') (hinv : I s) : ∀ e ∈ es, P e := by
  induction h with
  | nil => simp
  | snoc hrun hlast ih =>
    have hlater := hrun.invariant (fun s e s' he hi => (hstep s e s' he hi).1) hinv
    intro e he
    rcases List.mem_append.1 he with he | he
    · exact ih e he
    · rw [List.mem_singleton.1 he]
      exact (hstep _ _ _ hlast hlater).2

theorem Trace.latch {P : S → Prop} {Q : E → Prop}
    (hstep : ∀ s e s', step s e s' → (P s' ↔ P s ∨ Q e))
    (h : Trace step s es s') (hs : ¬ P s) : P s' ↔ ∃ e ∈ es, Q e := by
  induction h with
  | nil => simp [hs]
  | snoc _ hlast ih => rw [hstep _ _ _ hlast, ih]; simp [or_and_right, exists_or]

/-- Each step of the run with this history has the property, which may look at what was
before. -/
def Every (step : S → E → S → Prop) (s : S) (history : List E)
    (P : List E → S → E → S → Prop) : Prop :=
  ∀ before e after t t', history = before ++ e :: after → Trace step s before t → step t e t' →
    P before t e t'

section Every

variable {history : List E} {P Q : List E → S → E → S → Prop} {I : List E → S → Prop}

/-- An invariant that may depend on the history and on what the steps are like. -/
theorem Every.invariant (hinit : I [] s)
    (hkeep : ∀ before t e t', I before t → step t e t' → Q before t e t' → I (before ++ [e]) t')
    (h : Every step s history (fun before t e t' => I before t → Q before t e t'))
    {before after : List E} {t : S} (hcut : history = before ++ after)
    (hrun : Trace step s before t) : I before t := by
  induction hrun generalizing after with
  | nil => exact hinit
  | snoc hearlier hlast ih =>
    rw [List.append_assoc] at hcut
    have hinv := ih hcut
    exact hkeep _ _ _ _ hinv hlast (h _ _ _ _ _ hcut hearlier hlast hinv)

theorem every_iff_every (hinit : I [] s)
    (hstep : ∀ before t e t', I before t → step t e t' → (P before t e t' ↔ Q before t e t'))
    (hkeep : ∀ before t e t', I before t → step t e t' → Q before t e t' →
      I (before ++ [e]) t') :
    Every step s history P ↔ Every step s history Q := by
  constructor
  · intro h before e after t t' hcut hrun hlast
    have hinv : I before t := Every.invariant hinit hkeep
      (fun b e a u u' hc hr hl hi => (hstep b u e u' hi hl).1 (h b e a u u' hc hr hl)) hcut hrun
    exact (hstep before t e t' hinv hlast).1 (h before e after t t' hcut hrun hlast)
  · intro h before e after t t' hcut hrun hlast
    have hinv : I before t := Every.invariant hinit hkeep
      (fun b e a u u' hc hr hl _ => h b e a u u' hc hr hl) hcut hrun
    exact (hstep before t e t' hinv hlast).2 (h before e after t t' hcut hrun hlast)

end Every

end Lts
