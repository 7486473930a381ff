import Oim.Lib.Prog

/-!
# Concurrent calls under a lock per key

Any number of calls run against one server.  A call first checks its arguments
and may be turned away without doing anything; otherwise it takes the lock of
its key, runs its program one request at a time — with the requests of all the
other calls in between — and gives the lock back when it returns.  Locks are
hashed: two keys in the same bucket exclude each other as well, so nothing here
assumes that `hash` is injective.

* `Sys`, `Event`, `Step`, `Run` — the system, the four things that can happen to
  a call, and whole runs with their history.
* `Discipline` — the assumptions of the **rely–guarantee rule**: what a call may
  request in which state, that this leaves every other key's `rely` intact, and
  an outline (`Prog.Safe`) for each call's program.
* `Good` — no two running calls share a bucket, and each of them is at a point
  of its outline; `good_run` says every run keeps it.  Hence `rpc_may` (every
  request of every run is one its call may issue in that state) and `ret_post`
  (every answer comes with its postcondition).
* `invariant_run` — a property of the server that the permitted requests keep
  holds in every reachable state; `until_run` — one that only the calls in `D`
  can break holds until the next of those gets its lock.
* `run_alone` — a call that nobody disturbs runs as `Prog.run` says.
-/

namespace Interaction

/-- A family of calls: the key each one locks, the answer of a call that is
turned away before it locks anything, and the program it runs under the lock. -/
structure Calls (C K : Type) (Q : Type) (R : Q → Type) (A : Type) where
  key : C → K
  early : C → Option A
  body : C → Prog Q R A

/-- Where the call occupying a thread stands. -/
inductive Phase (C Q : Type) (R : Q → Type) (A : Type) where
  /-- No call. -/
  | idle
  /-- The call has been made and does not hold its lock yet. -/
  | waiting (c : C)
  /-- The call holds its lock and has `p` left to do. -/
  | running (c : C) (p : Prog Q R A)

/-- What happens in a run. -/
inductive Event (C Q : Type) (R : Q → Type) (A : Type) where
  | invoke (i : ℕ) (c : C)
  | acquire (i : ℕ) (c : C)
  | rpc (i : ℕ) (c : C) (q : Q) (r : R q)
  | ret (i : ℕ) (c : C) (a : A)

/-- The server and the threads. -/
structure Sys (C Q : Type) (R : Q → Type) (A S : Type) where
  srv : S
  thr : ℕ → Phase C Q R A

variable {C K H Q A S : Type} {R : Q → Type}

/-- All threads idle. -/
def Sys.start (s : S) : Sys C Q R A S := ⟨s, fun _ => .idle⟩

/-- Put thread `i` into phase `ph`. -/
def Sys.set (σ : Sys C Q R A S) (i : ℕ) (ph : Phase C Q R A) : Sys C Q R A S :=
  { σ with thr := Function.update σ.thr i ph }

@[simp] theorem Sys.set_srv (σ : Sys C Q R A S) (i : ℕ) (ph : Phase C Q R A) :
    (σ.set i ph).srv = σ.srv := rfl

theorem Sys.set_thr (σ : Sys C Q R A S) (i j : ℕ) (ph : Phase C Q R A) :
    (σ.set i ph).thr j = if j = i then ph else σ.thr j := by
  simp [Sys.set, Function.update_apply]

/-- Who runs after thread `i` was put into phase `ph`. -/
theorem Sys.set_running {σ : Sys C Q R A S} {i j : ℕ} {ph : Phase C Q R A} {c : C}
    {p : Prog Q R A} (h : (σ.set i ph).thr j = .running c p) :
    j = i ∧ ph = .running c p ∨ j ≠ i ∧ σ.thr j = .running c p := by
  rw [Sys.set_thr] at h
  split_ifs at h with hji
  · exact Or.inl ⟨hji, h⟩
  · exact Or.inr ⟨hji, h⟩

/-- The steps of the system.  `ret` covers the call that is turned away as well
as the one that has finished, whose lock is free again from then on. -/
inductive Step (sv : Server Q R S) (calls : Calls C K Q R A) (hash : K → H) :
    Sys C Q R A S → Event C Q R A → Sys C Q R A S → Prop where
  | invoke {σ : Sys C Q R A S} {i : ℕ} (c : C) : σ.thr i = .idle →
      Step sv calls hash σ (.invoke i c) (σ.set i (.waiting c))
  | reject {σ : Sys C Q R A S} {i : ℕ} {c : C} {a : A} : σ.thr i = .waiting c →
      calls.early c = some a → Step sv calls hash σ (.ret i c a) (σ.set i .idle)
  | acquire {σ : Sys C Q R A S} {i : ℕ} {c : C} : σ.thr i = .waiting c →
      calls.early c = none →
      (∀ j c' p, σ.thr j = .running c' p → hash (calls.key c') ≠ hash (calls.key c)) →
      Step sv calls hash σ (.acquire i c) (σ.set i (.running c (calls.body c)))
  | rpc {σ : Sys C Q R A S} {i : ℕ} {c : C} {q : Q} {k : R q → Prog Q R A} {r : R q} {s' : S} :
      σ.thr i = .running c (.call q k) → sv.Step q σ.srv r s' →
      Step sv calls hash σ (.rpc i c q r) ({ σ with srv := s' }.set i (.running c (k r)))
  | ret {σ : Sys C Q R A S} {i : ℕ} {c : C} {a : A} : σ.thr i = .running c (.ret a) →
      Step sv calls hash σ (.ret i c a) (σ.set i .idle)

/-- A run, with what happened in it. -/
inductive Run (sv : Server Q R S) (calls : Calls C K Q R A) (hash : K → H) :
    Sys C Q R A S → List (Event C Q R A) → Sys C Q R A S → Prop where
  | nil (σ : Sys C Q R A S) : Run sv calls hash σ [] σ
  | cons {σ σ₁ σ₂ : Sys C Q R A S} {e : Event C Q R A} {es : List (Event C Q R A)} :
      Step sv calls hash σ e σ₁ → Run sv calls hash σ₁ es σ₂ → Run sv calls hash σ (e :: es) σ₂

section

variable {sv : Server Q R S} {calls : Calls C K Q R A} {hash : K → H}

/-- A run can be cut anywhere. -/
theorem run_append_iff {σ σ' : Sys C Q R A S} {es fs : List (Event C Q R A)} :
    Run sv calls hash σ (es ++ fs) σ' ↔
      ∃ σ₁, Run sv calls hash σ es σ₁ ∧ Run sv calls hash σ₁ fs σ' := by
  induction es generalizing σ with
  | nil =>
    constructor
    · intro h; exact ⟨σ, .nil σ, h⟩
    · rintro ⟨σ₁, h₁, h₂⟩; cases h₁; exact h₂
  | cons e es ih =>
    rw [List.cons_append]
    constructor
    · intro h
      cases h with
      | cons hstep hrun =>
        obtain ⟨σ₁, h₁, h₂⟩ := ih.1 hrun
        exact ⟨σ₁, .cons hstep h₁, h₂⟩
    · rintro ⟨σ₁, h₁, h₂⟩
      cases h₁ with
      | cons hstep hrun => exact .cons hstep (ih.2 ⟨σ₁, hrun, h₂⟩)

theorem run_cons_iff {σ σ' : Sys C Q R A S} {e : Event C Q R A} {es : List (Event C Q R A)} :
    Run sv calls hash σ (e :: es) σ' ↔
      ∃ σ₁, Step sv calls hash σ e σ₁ ∧ Run sv calls hash σ₁ es σ' := by
  constructor
  · intro h
    cases h with
    | cons hstep hrun => exact ⟨_, hstep, hrun⟩
  · rintro ⟨σ₁, hstep, hrun⟩
    exact .cons hstep hrun

end

/-! ## The rely–guarantee rule -/

/-- What has to be shown about the calls one at a time.  `rely k` is what the
holder of key `k` counts on while others work, `may c` what the call `c` may
request, `post c` what its answer means. -/
structure Discipline (sv : Server Q R S) (calls : Calls C K Q R A) where
  rely : K → S → S → Prop
  may : C → S → Q → Prop
  post : C → A → S → Prop
  refl : ∀ k s, rely k s s
  trans : ∀ k s₁ s₂ s₃, rely k s₁ s₂ → rely k s₂ s₃ → rely k s₁ s₃
  /-- A permitted request of one key is harmless to every other key. -/
  frame : ∀ c k s q r s', may c s q → sv.Step q s r s' → k ≠ calls.key c → rely k s s'
  /-- Every program follows its outline, from any state of the server. -/
  outline : ∀ c s, calls.early c = none →
    Prog.Safe sv (rely (calls.key c)) (may c) (post c) (calls.body c) s

variable {sv : Server Q R S} {calls : Calls C K Q R A} {hash : K → H}

/-- The invariant of the system: running calls are in different buckets, and
each is at a point of its outline. -/
structure Good (D : Discipline sv calls) (hash : K → H) (σ : Sys C Q R A S) : Prop where
  apart : ∀ i j c p c' p', σ.thr i = .running c p → σ.thr j = .running c' p' → i ≠ j →
    hash (calls.key c) ≠ hash (calls.key c')
  outline : ∀ i c p, σ.thr i = .running c p →
    Prog.Safe sv (D.rely (calls.key c)) (D.may c) (D.post c) p σ.srv

theorem good_start (D : Discipline sv calls) (s : S) : Good D hash (Sys.start s) :=
  ⟨fun _ _ _ _ _ _ h => by simp [Sys.start] at h, fun _ _ _ h => by simp [Sys.start] at h⟩

/-- Parking thread `i` keeps the invariant. -/
theorem Good.park {D : Discipline sv calls} {σ : Sys C Q R A S} (h : Good D hash σ) (i : ℕ)
    {ph : Phase C Q R A} (hph : ∀ c p, ph ≠ .running c p) : Good D hash (σ.set i ph) := by
  constructor
  · intro j k c p c' p' hj hk hne
    rcases Sys.set_running hj with ⟨-, hj⟩ | ⟨-, hj⟩
    · exact absurd hj (hph c p)
    · rcases Sys.set_running hk with ⟨-, hk⟩ | ⟨-, hk⟩
      · exact absurd hk (hph c' p')
      · exact h.apart j k c p c' p' hj hk hne
  · intro j c p hj
    rcases Sys.set_running hj with ⟨-, hj⟩ | ⟨-, hj⟩
    · exact absurd hj (hph c p)
    · exact h.outline j c p hj

/-- Every request is one its call may issue in the state it meets. -/
theorem Good.rpc_may {D : Discipline sv calls} {σ σ' : Sys C Q R A S} (h : Good D hash σ)
    {i : ℕ} {c : C} {q : Q} {r : R q} (hstep : Step sv calls hash σ (.rpc i c q r) σ') :
    D.may c σ.srv q ∧ sv.Step q σ.srv r σ'.srv := by
  cases hstep with
  | rpc hi hsv => exact ⟨((h.outline _ _ _ hi) _ (D.refl _ _)).1, by simpa using hsv⟩

/-- Every answer means what `post` says, unless the call was turned away; and
when it is given, no call with the same key is running. -/
theorem Good.ret_post {D : Discipline sv calls} {σ σ' : Sys C Q R A S} (h : Good D hash σ)
    {i : ℕ} {c : C} {a : A} (hstep : Step sv calls hash σ (.ret i c a) σ') :
    σ'.srv = σ.srv ∧ (calls.early c = some a ∨
      D.post c a σ.srv ∧ ∀ j c' p, σ'.thr j = .running c' p → calls.key c' ≠ calls.key c) := by
  cases hstep with
  | reject hi hearly => exact ⟨rfl, Or.inl hearly⟩
  | ret hi =>
    refine ⟨rfl, Or.inr ⟨(h.outline _ _ _ hi) _ (D.refl _ _), ?_⟩⟩
    intro j c' p hj hkey
    rcases Sys.set_running hj with ⟨-, hj⟩ | ⟨hji, hj⟩
    · cases hj
    · exact h.apart j i c' p c _ hj hi hji (by rw [hkey])

/-- **One step keeps the invariant.**  Only a request moves the server, and the
frame condition carries every other running call over it. -/
theorem Good.step {D : Discipline sv calls} {σ σ' : Sys C Q R A S} {e : Event C Q R A}
    (h : Good D hash σ) (hstep : Step sv calls hash σ e σ') : Good D hash σ' := by
  cases hstep with
  | invoke c hi => exact h.park _ (by simp)
  | reject hi hearly => exact h.park _ (by simp)
  | ret hi => exact h.park _ (by simp)
  | @acquire i c hi hearly hfree =>
    constructor
    · intro j k c₁ p₁ c₂ p₂ hj hk hne
      rcases Sys.set_running hj with ⟨hji, hj'⟩ | ⟨-, hj'⟩ <;>
        rcases Sys.set_running hk with ⟨hki, hk'⟩ | ⟨-, hk'⟩
      · exact absurd (hji.trans hki.symm) hne
      · cases hj'
        exact fun he => hfree k c₂ p₂ hk' he.symm
      · cases hk'
        exact hfree j c₁ p₁ hj'
      · exact h.apart j k c₁ p₁ c₂ p₂ hj' hk' hne
    · intro j c₁ p₁ hj
      rcases Sys.set_running hj with ⟨-, hj⟩ | ⟨-, hj⟩
      · cases hj
        exact D.outline c σ.srv hearly
      · exact h.outline j c₁ p₁ hj
  | @rpc i c q k r s' hi hsv =>
    obtain ⟨hmay, hnext⟩ := (h.outline i c _ hi) _ (D.refl _ _)
    constructor
    · intro j l c₁ p₁ c₂ p₂ hj hl hne
      rcases Sys.set_running hj with ⟨hji, hj'⟩ | ⟨-, hj'⟩ <;>
        rcases Sys.set_running hl with ⟨hli, hl'⟩ | ⟨-, hl'⟩
      · exact absurd (hji.trans hli.symm) hne
      · cases hj'
        exact h.apart i l c _ c₂ p₂ hi hl' (hji ▸ hne)
      · cases hl'
        exact h.apart j i c₁ p₁ c _ hj' hi (hli ▸ hne)
      · exact h.apart j l c₁ p₁ c₂ p₂ hj' hl' hne
    · intro j c₁ p₁ hj
      rcases Sys.set_running hj with ⟨-, hj⟩ | ⟨hji, hj⟩
      · cases hj
        exact hnext r s' hsv
      · -- another call: its bucket, hence its key, differs from that of `c`
        refine (h.outline j c₁ p₁ hj).stable (D.trans _) (D.frame c _ _ q r s' hmay hsv ?_)
        intro hkey
        exact h.apart j i c₁ p₁ c _ hj hi hji (by rw [hkey])

/-- **Every run keeps the invariant.** -/
theorem good_run {D : Discipline sv calls} {σ σ' : Sys C Q R A S} {es : List (Event C Q R A)}
    (h : Good D hash σ) (hrun : Run sv calls hash σ es σ') : Good D hash σ' := by
  induction hrun with
  | nil σ => exact h
  | cons hstep _ ih => exact ih (h.step hstep)

/-! ## What whole runs keep -/

/-- A step that is not a request leaves the server alone. -/
theorem Good.srv_step {D : Discipline sv calls} {σ σ' : Sys C Q R A S} {e : Event C Q R A}
    (h : Good D hash σ) (hstep : Step sv calls hash σ e σ') :
    σ'.srv = σ.srv ∨ ∃ i c p q r, σ.thr i = .running c p ∧ e = .rpc i c q r ∧
      D.may c σ.srv q ∧ sv.Step q σ.srv r σ'.srv := by
  cases hstep with
  | invoke c hi => exact Or.inl rfl
  | reject hi hearly => exact Or.inl rfl
  | acquire hi hearly hfree => exact Or.inl rfl
  | ret hi => exact Or.inl rfl
  | rpc hi hsv => exact Or.inr ⟨_, _, _, _, _, hi, rfl, h.rpc_may (.rpc hi hsv)⟩

/-- **Invariants of the server.**  What every permitted request keeps holds in
every reachable state. -/
theorem invariant_run {D : Discipline sv calls} {Inv : S → Prop}
    (hkeep : ∀ c s q r s', D.may c s q → sv.Step q s r s' → Inv s → Inv s')
    {σ σ' : Sys C Q R A S} {es : List (Event C Q R A)} (h : Good D hash σ) (hinv : Inv σ.srv)
    (hrun : Run sv calls hash σ es σ') : Inv σ'.srv := by
  induction hrun with
  | nil σ => exact hinv
  | cons hstep _ ih =>
    refine ih (h.step hstep) ?_
    rcases h.srv_step hstep with heq | ⟨i, c, p, q, r, -, -, hmay, hsv⟩
    · rw [heq]; exact hinv
    · exact hkeep c _ q r _ hmay hsv hinv

/-- No running call is in `B`. -/
def NoneRunning (B : C → Prop) (σ : Sys C Q R A S) : Prop :=
  ∀ i c p, σ.thr i = .running c p → ¬ B c

theorem NoneRunning.set {B : C → Prop} {σ : Sys C Q R A S} (h : NoneRunning B σ) {i : ℕ}
    {ph : Phase C Q R A} (hph : ∀ c p, ph = .running c p → ¬ B c) :
    NoneRunning B (σ.set i ph) := by
  intro j c p hj
  rcases Sys.set_running hj with ⟨-, hj⟩ | ⟨-, hj⟩
  · exact hph c p hj
  · exact h j c p hj

theorem NoneRunning.step {B : C → Prop} {σ σ' : Sys C Q R A S} {e : Event C Q R A}
    (h : NoneRunning B σ) (hstep : Step sv calls hash σ e σ')
    (hacq : ∀ i c, e = .acquire i c → ¬ B c) : NoneRunning B σ' := by
  cases hstep with
  | invoke c hi => exact h.set (by simp)
  | reject hi hearly => exact h.set (by simp)
  | ret hi => exact h.set (by simp)
  | @acquire i c hi hearly hfree =>
    apply h.set
    rintro c' p ⟨⟩
    exact hacq i c rfl
  | @rpc i c q k r s' hi hsv =>
    have hsrv : NoneRunning B { σ with srv := s' } := h
    apply hsrv.set
    rintro c' p ⟨⟩
    exact h i c _ hi

/-- **Until.**  A property that only the calls in `B` can break, true while none
of them is running, stays true until the next of them gets its lock. -/
theorem until_run {D : Discipline sv calls} {P : S → Prop} {B : C → Prop}
    (hkeep : ∀ c s q r s', ¬ B c → D.may c s q → sv.Step q s r s' → P s → P s')
    {σ σ' : Sys C Q R A S} {es : List (Event C Q R A)} (h : Good D hash σ)
    (hnone : NoneRunning B σ) (hP : P σ.srv) (hrun : Run sv calls hash σ es σ')
    (hacq : ∀ i c, .acquire i c ∈ es → ¬ B c) : P σ'.srv := by
  induction hrun with
  | nil σ => exact hP
  | cons hstep _ ih =>
    refine ih (h.step hstep) (hnone.step hstep ?_) ?_ fun i c hm => hacq i c (by simp [hm])
    · rintro i c rfl
      exact hacq i c (by simp)
    · rcases h.srv_step hstep with heq | ⟨i, c, p, q, r, hi, -, hmay, hsv⟩
      · rw [heq]; exact hP
      · exact hkeep c _ q r _ (hnone i c p hi) hmay hsv hP

/-- A call that waits or has got its lock has been made before. -/
theorem invoke_mem_of_run {s : S} {σ : Sys C Q R A S} {es : List (Event C Q R A)}
    (hrun : Run sv calls hash (Sys.start s) es σ) :
    (∀ i c, σ.thr i = .waiting c → .invoke i c ∈ es) ∧
      ∀ i c, .acquire i c ∈ es → .invoke i c ∈ es := by
  induction es using List.reverseRecOn generalizing σ with
  | nil =>
    cases hrun
    exact ⟨fun i c h => (by cases h), by simp⟩
  | append_singleton es e ih =>
    obtain ⟨σ₁, hrun₁, hlast⟩ := run_append_iff.1 hrun
    obtain ⟨σ₂, hstep, hnil⟩ := run_cons_iff.1 hlast
    cases hnil
    obtain ⟨hwaiting, hacquire⟩ := ih hrun₁
    constructor
    · intro i c hi
      have hset : ∀ {j : ℕ} {ph : Phase C Q R A} {s' : S}, (∀ c', ph ≠ .waiting c') →
          ({ σ₁ with srv := s' }.set j ph).thr i = .waiting c → .invoke i c ∈ es ++ [e] := by
        intro j ph s' hph h
        rw [Sys.set_thr] at h
        split at h
        · exact absurd h (hph c)
        · exact List.mem_append_left _ (hwaiting i c h)
      cases hstep with
      | @invoke j c' _ =>
        rw [Sys.set_thr] at hi
        split at hi
        next heq =>
          cases hi
          simp [heq]
        next => exact List.mem_append_left _ (hwaiting i c hi)
      | reject => exact hset (by simp) hi
      | acquire => exact hset (by simp) hi
      | rpc => exact hset (by simp) hi
      | ret => exact hset (by simp) hi
    · intro i c hmem
      rcases List.mem_append.1 hmem with hmem | hmem
      · exact List.mem_append_left _ (hacquire i c hmem)
      · rw [List.mem_singleton] at hmem
        subst hmem
        cases hstep with
        | acquire hi => exact List.mem_append_left _ (hwaiting i c hi)

/-! ## Calls that are alone -/

variable (sv calls hash)

/-- The program of thread `i`, run without interruption. -/
theorem run_thread (p : Prog Q R A) {σ : Sys C Q R A S} {i : ℕ} {c : C}
    (hi : σ.thr i = .running c p) : ∃ es, (∀ e ∈ es, ∃ q r, e = .rpc i c q r) ∧
      Run sv calls hash σ (es ++ [.ret i c (p.run sv σ.srv).1])
        ({ σ with srv := (p.run sv σ.srv).2 }.set i .idle) := by
  induction p generalizing σ with
  | ret a => exact ⟨[], by simp, .cons (.ret hi) (.nil _)⟩
  | call q k ih =>
    obtain ⟨es, hrpc, hes⟩ := ih (sv.exec q σ.srv).1
      (σ := { σ with srv := (sv.exec q σ.srv).2 }.set i (.running c (k (sv.exec q σ.srv).1)))
      (by simp [Sys.set_thr])
    refine ⟨.rpc i c q (sv.exec q σ.srv).1 :: es, ?_,
      .cons (.rpc hi (sv.step_exec q σ.srv)) ?_⟩
    · rw [List.forall_mem_cons]
      exact ⟨⟨q, _, rfl⟩, hrpc⟩
    · simpa [Sys.set, Prog.run_call] using hes

/-- A call made while all threads are idle can run on its own, as `Prog.run` has
it. -/
theorem run_alone (s : S) (i : ℕ) {c : C} (hearly : calls.early c = none) :
    ∃ es, (∀ e ∈ es, ∃ q r, e = .rpc i c q r) ∧ Run sv calls hash (Sys.start s)
      (.invoke i c :: .acquire i c :: es ++ [.ret i c ((calls.body c).run sv s).1])
      (Sys.start ((calls.body c).run sv s).2) := by
  have hi : (((Sys.start s).set i (.waiting c)).set i (.running c (calls.body c))).thr i =
      .running c (calls.body c) := by simp [Sys.set_thr]
  obtain ⟨es, hrpc, hes⟩ := run_thread sv calls hash (calls.body c) hi
  refine ⟨es, hrpc, .cons (.invoke c rfl) (.cons (.acquire (c := c) (i := i) ?_ hearly ?_) ?_)⟩
  · simp [Sys.set_thr]
  · intro j c' p hj
    rcases Sys.set_running hj with ⟨-, hj⟩ | ⟨-, hj⟩ <;> cases hj
  · have hidle : (fun _ => .idle : ℕ → Phase C Q R A) = Function.update
        (Function.update (Function.update (fun _ => .idle) i (.waiting c)) i
          (.running c (calls.body c))) i .idle := by
      funext j
      simp [Function.update_apply]
    simpa [Sys.set, Sys.start, ← hidle] using hes

/-- No other call is made in such a run. -/
theorem invoke_of_alone {es : List (Event C Q R A)} {i j : ℕ} {c c' : C} {a : A}
    (hrpc : ∀ e ∈ es, ∃ q r, e = .rpc i c q r)
    (h : .invoke j c' ∈ .invoke i c :: .acquire i c :: es ++ [.ret i c a]) : c' = c := by
  rcases List.mem_cons.1 h with heq | h
  · cases heq
    rfl
  · have hes : .invoke j c' ∈ es := by simpa using h
    obtain ⟨q, r, heq⟩ := hrpc _ hes
    cases heq

end Interaction
