import Mathlib

/-!
# Programs that talk to a server

A handler that does its work through a server — a daemon answering remote
procedure calls, say — is a tree: it either returns, or issues one request and
continues with the answer.  `Prog` is that tree, so a handler written with `do`
is data, and every question about it can be asked one request at a time.

* `Prog.run` — the handler on a server that works; `Prog.Runs` — every run of it
  on a server that may also refuse a request and change nothing
  (`Server.Step`).  The first is one of the second (`Prog.runs_run`).
* `Prog.Logged` — the runs together with all requests and answers.
* `Prog.embed` — a program on a server that can do more; `Prog.Only` — which requests
  a program makes at all.
* `Prog.forE` — the loop `for … { if err := …; err != nil { return err } }`, with
  the laws that flatten nested loops into one.
* `Prog.Safe` — the **proof outline** of a handler that is not alone: between any
  two of its requests other parties may move the server along `rely`, every
  request it issues is one it `may` issue in the state it is issued in, and when
  it returns `post` holds.  `safe_bind` and `safe_forE` are the composition
  rules, `Safe.runs` is what the outline says about a run without interference, and
  `Safe.run_simulated` takes such a run to another server.

Nothing in this file knows what the server is.
-/

namespace Interaction

/-- A program over requests `Q`, where the request `q` is answered by an
`R q`. -/
inductive Prog (Q : Type) (R : Q → Type) (α : Type) where
  /-- Return. -/
  | ret (a : α)
  /-- Issue `q` and continue with its answer. -/
  | call (q : Q) (k : R q → Prog Q R α)

namespace Prog

variable {Q : Type} {R : Q → Type} {α β γ ε : Type}

/-- Sequencing. -/
def bind : Prog Q R α → (α → Prog Q R β) → Prog Q R β
  | .ret a, f => f a
  | .call q k, f => .call q fun r => (k r).bind f

instance : Monad (Prog Q R) where
  pure := .ret
  bind := Prog.bind

@[simp] theorem pure_eq (a : α) : (pure a : Prog Q R α) = .ret a := rfl

@[simp] theorem bind_eq (p : Prog Q R α) (f : α → Prog Q R β) : p >>= f = p.bind f := rfl

@[simp] theorem ret_bind (a : α) (f : α → Prog Q R β) : (Prog.ret a).bind f = f a := rfl

@[simp] theorem call_bind (q : Q) (k : R q → Prog Q R α) (f : α → Prog Q R β) :
    (Prog.call q k).bind f = .call q fun r => (k r).bind f := rfl

theorem bind_assoc (p : Prog Q R α) (f : α → Prog Q R β) (g : β → Prog Q R γ) :
    (p.bind f).bind g = p.bind fun a => (f a).bind g := by
  induction p with
  | ret a => rfl
  | call q k ih => simp only [call_bind, ih]

/-- The program on a server that has other requests as well: `f` says which of them the
request `q` becomes, and `g` reads its answer. -/
def embed {Q' : Type} {R' : Q' → Type} (f : Q → Q') (g : (q : Q) → R' (f q) → R q) :
    Prog Q R α → Prog Q' R' α
  | .ret a => .ret a
  | .call q k => .call (f q) fun r => (k (g q r)).embed f g

/-! ## Loops that stop at the first error -/

/-- Run `f` on every element; stop at the first error and return it. -/
def forE (f : α → Prog Q R (Except ε Unit)) : List α → Prog Q R (Except ε Unit)
  | [] => .ret (.ok ())
  | x :: xs => (f x).bind fun
      | .error e => .ret (.error e)
      | .ok () => forE f xs

theorem forE_cons (f : α → Prog Q R (Except ε Unit)) (x : α) (xs : List α) :
    forE f (x :: xs) = (f x).bind fun
      | .error e => .ret (.error e)
      | .ok () => forE f xs := rfl

theorem forE_append (f : α → Prog Q R (Except ε Unit)) (xs ys : List α) :
    forE f (xs ++ ys) = (forE f xs).bind fun
      | .error e => .ret (.error e)
      | .ok () => forE f ys := by
  induction xs with
  | nil => rfl
  | cons x xs ih =>
    rw [List.cons_append, forE_cons, forE_cons, bind_assoc]
    refine congrArg _ (funext fun r => ?_)
    cases r with
    | error e => rfl
    | ok u => exact ih

/-- **Nested loops are one loop**: looping over `g x` for every `x` is looping
over all of them in a row. -/
theorem forE_flatMap (f : β → Prog Q R (Except ε Unit)) (g : α → List β) (xs : List α) :
    forE f (xs.flatMap g) = forE (fun x => forE f (g x)) xs := by
  induction xs with
  | nil => rfl
  | cons x xs ih => rw [List.flatMap_cons, forE_append, ih, forE_cons]

end Prog

/-! ## Servers -/

/-- A server with states `S`: what each request does when it works, and the
answers the server may give instead without doing anything. -/
structure Server (Q : Type) (R : Q → Type) (S : Type) where
  /-- The answer to a request and the state it leaves. -/
  exec : (q : Q) → S → R q × S
  /-- The answers that stand for a failure without effect. -/
  Fault : (q : Q) → R q → Prop

variable {Q : Type} {R : Q → Type} {S : Type} {α β ε : Type}

/-- One request: it is carried out, or it fails without effect. -/
def Server.Step (sv : Server Q R S) (q : Q) (s : S) (r : R q) (s' : S) : Prop :=
  (r = (sv.exec q s).1 ∧ s' = (sv.exec q s).2) ∨ (sv.Fault q r ∧ s' = s)

theorem Server.step_exec (sv : Server Q R S) (q : Q) (s : S) :
    sv.Step q s (sv.exec q s).1 (sv.exec q s).2 := Or.inl ⟨rfl, rfl⟩

namespace Prog

/-- The run of a program on a server that works. -/
def run (sv : Server Q R S) : Prog Q R α → S → α × S
  | .ret a, s => (a, s)
  | .call q k, s => run sv (k (sv.exec q s).1) (sv.exec q s).2

@[simp] theorem run_ret (sv : Server Q R S) (a : α) (s : S) :
    run sv (.ret a : Prog Q R α) s = (a, s) := rfl

theorem run_call (sv : Server Q R S) (q : Q) (k : R q → Prog Q R α) (s : S) :
    run sv (.call q k) s = run sv (k (sv.exec q s).1) (sv.exec q s).2 := rfl

theorem run_bind (sv : Server Q R S) (p : Prog Q R α) (f : α → Prog Q R β) (s : S) :
    run sv (p.bind f) s = run sv (f (run sv p s).1) (run sv p s).2 := by
  induction p generalizing s with
  | ret a => rfl
  | call q k ih => rw [call_bind, run_call, run_call, ih]

/-- The runs of a program on a server any of whose answers may be a fault. -/
inductive Runs (sv : Server Q R S) : Prog Q R α → S → α → S → Prop where
  | ret (a : α) (s : S) : Runs sv (.ret a) s a s
  | call {q : Q} {k : R q → Prog Q R α} {s s₁ s₂ : S} {r : R q} {a : α} :
      sv.Step q s r s₁ → Runs sv (k r) s₁ a s₂ → Runs sv (.call q k) s a s₂

theorem runs_run (sv : Server Q R S) (p : Prog Q R α) (s : S) :
    Runs sv p s (run sv p s).1 (run sv p s).2 := by
  induction p generalizing s with
  | ret a => exact .ret a s
  | call q k ih => exact .call (sv.step_exec q s) (ih _ _)

theorem runs_ret_iff {sv : Server Q R S} {a b : α} {s s' : S} :
    Runs sv (.ret a : Prog Q R α) s b s' ↔ b = a ∧ s' = s := by
  constructor
  · intro h; cases h; exact ⟨rfl, rfl⟩
  · rintro ⟨rfl, rfl⟩; exact .ret _ _

theorem runs_call_iff {sv : Server Q R S} {q : Q} {k : R q → Prog Q R α} {s s' : S} {a : α} :
    Runs sv (.call q k) s a s' ↔ ∃ r s₁, sv.Step q s r s₁ ∧ Runs sv (k r) s₁ a s' := by
  constructor
  · intro h
    cases h with
    | call h₁ h₂ => exact ⟨_, _, h₁, h₂⟩
  · rintro ⟨r, s₁, h₁, h₂⟩
    exact .call h₁ h₂

/-- A run of a sequence is a run of its first part followed by one of its
second. -/
theorem runs_bind_iff {sv : Server Q R S} {p : Prog Q R α} {f : α → Prog Q R β} {s s' : S}
    {b : β} : Runs sv (p.bind f) s b s' ↔ ∃ a s₁, Runs sv p s a s₁ ∧ Runs sv (f a) s₁ b s' := by
  induction p generalizing s with
  | ret a =>
    constructor
    · intro h; exact ⟨a, s, .ret a s, h⟩
    · rintro ⟨a', s₁, h, h'⟩
      obtain ⟨rfl, rfl⟩ := runs_ret_iff.1 h
      exact h'
  | call q k ih =>
    rw [call_bind, runs_call_iff]
    constructor
    · rintro ⟨r, s₁, hstep, h⟩
      obtain ⟨a, s₂, h₁, h₂⟩ := (ih r).1 h
      exact ⟨a, s₂, .call hstep h₁, h₂⟩
    · rintro ⟨a, s₂, h₁, h₂⟩
      obtain ⟨r, s₁, hstep, h⟩ := runs_call_iff.1 h₁
      exact ⟨r, s₁, hstep, (ih r).2 ⟨a, s₂, h, h₂⟩⟩

/-! ### Runs with their requests -/

/-- A request, the state it met and the answer it got. -/
structure Exchange (Q : Type) (R : Q → Type) (S : Type) where
  state : S
  request : Q
  reply : R request

/-- The runs of a program, with all that was said on the way. -/
inductive Logged (sv : Server Q R S) : Prog Q R α → S → List (Exchange Q R S) → α → S → Prop where
  | ret (a : α) (s : S) : Logged sv (.ret a) s [] a s
  | call {q : Q} {k : R q → Prog Q R α} {s s₁ s₂ : S} {r : R q} {a : α}
      {log : List (Exchange Q R S)} :
      sv.Step q s r s₁ → Logged sv (k r) s₁ log a s₂ →
      Logged sv (.call q k) s (⟨s, q, r⟩ :: log) a s₂

theorem Logged.runs {sv : Server Q R S} {p : Prog Q R α} {s s' : S} {a : α}
    {log : List (Exchange Q R S)} (h : Logged sv p s log a s') : Runs sv p s a s' := by
  induction h with
  | ret a s => exact .ret a s
  | call hstep _ ih => exact .call hstep ih

theorem logged_ret_iff {sv : Server Q R S} {a b : α} {s s' : S} {log : List (Exchange Q R S)} :
    Logged sv (.ret a : Prog Q R α) s log b s' ↔ log = [] ∧ b = a ∧ s' = s := by
  constructor
  · intro h; cases h; exact ⟨rfl, rfl, rfl⟩
  · rintro ⟨rfl, rfl, rfl⟩; exact .ret _ _

theorem logged_call_iff {sv : Server Q R S} {q : Q} {k : R q → Prog Q R α} {s s' : S} {a : α}
    {log : List (Exchange Q R S)} :
    Logged sv (.call q k) s log a s' ↔ ∃ r s₁ log', sv.Step q s r s₁ ∧
      Logged sv (k r) s₁ log' a s' ∧ log = ⟨s, q, r⟩ :: log' := by
  constructor
  · intro h
    cases h with
    | call h₁ h₂ => exact ⟨_, _, _, h₁, h₂, rfl⟩
  · rintro ⟨r, s₁, log', h₁, h₂, rfl⟩
    exact .call h₁ h₂

theorem logged_bind_iff {sv : Server Q R S} {p : Prog Q R α} {f : α → Prog Q R β} {s s' : S}
    {b : β} {log : List (Exchange Q R S)} :
    Logged sv (p.bind f) s log b s' ↔ ∃ a s₁ log₁ log₂, Logged sv p s log₁ a s₁ ∧
      Logged sv (f a) s₁ log₂ b s' ∧ log = log₁ ++ log₂ := by
  induction p generalizing s log with
  | ret a =>
    constructor
    · intro h; exact ⟨a, s, [], log, .ret a s, h, rfl⟩
    · rintro ⟨a', s₁, log₁, log₂, h, h', rfl⟩
      obtain ⟨rfl, rfl, rfl⟩ := logged_ret_iff.1 h
      exact h'
  | call q k ih =>
    rw [call_bind, logged_call_iff]
    constructor
    · rintro ⟨r, s₁, log', hstep, h, rfl⟩
      obtain ⟨a, s₂, log₁, log₂, h₁, h₂, rfl⟩ := (ih r).1 h
      exact ⟨a, s₂, _, log₂, .call hstep h₁, h₂, rfl⟩
    · rintro ⟨a, s₂, log₁, log₂, h₁, h₂, rfl⟩
      obtain ⟨r, s₁, log', hstep, h, rfl⟩ := logged_call_iff.1 h₁
      exact ⟨r, s₁, _, hstep, (ih r).2 ⟨a, s₂, log', log₂, h, h₂, rfl⟩, rfl⟩

/-- All requests of the program are in `A`. -/
def Only (A : Q → Prop) : Prog Q R α → Prop
  | .ret _ => True
  | .call q k => A q ∧ ∀ r, (k r).Only A

theorem only_bind {A : Q → Prop} {p : Prog Q R α} {f : α → Prog Q R β} (hp : p.Only A)
    (hf : ∀ a, (f a).Only A) : (p.bind f).Only A := by
  induction p with
  | ret a => exact hf a
  | call q k ih => exact ⟨hp.1, fun r => ih r (hp.2 r)⟩

theorem only_embed {Q' : Type} {R' : Q' → Type} {A : Q' → Prop} {f : Q → Q'}
    {g : (q : Q) → R' (f q) → R q} (hf : ∀ q, A (f q)) (p : Prog Q R α) :
    (p.embed f g).Only A := by
  induction p with
  | ret a => trivial
  | call q k ih => exact ⟨hf q, fun r => ih (g q r)⟩

theorem only_forE {A : Q → Prop} {f : α → Prog Q R (Except ε Unit)} (hf : ∀ x, (f x).Only A)
    (xs : List α) : (forE f xs).Only A := by
  induction xs with
  | nil => trivial
  | cons x xs ih =>
    refine only_bind (hf x) fun r => ?_
    cases r with
    | error e => trivial
    | ok u => exact ih

theorem Logged.only {sv : Server Q R S} {A : Q → Prop} {p : Prog Q R α} {s s' : S} {a : α}
    {log : List (Exchange Q R S)} (h : Logged sv p s log a s') (hp : p.Only A) :
    ∀ x ∈ log, A x.request := by
  induction h with
  | ret a s => simp
  | call _ _ ih => exact List.forall_mem_cons.2 ⟨hp.1, ih (hp.2 _)⟩

/-- What no request of the program breaks. -/
theorem Runs.keeps {sv : Server Q R S} {A : Q → Prop} {P : S → Prop}
    (hkeep : ∀ q s r s', A q → sv.Step q s r s' → P s → P s') {p : Prog Q R α} {s s' : S} {a : α}
    (hp : p.Only A) (hrun : Runs sv p s a s') (hs : P s) : P s' := by
  induction hrun with
  | ret a s => exact hs
  | call hstep _ ih => exact ih (hp.2 _) (hkeep _ _ _ _ hp.1 hstep hs)

/-- An embedded program does on its part of the server what it does alone. -/
theorem run_embed {Q' : Type} {R' : Q' → Type} {S' : Type} {sv : Server Q R S}
    {sv' : Server Q' R' S'} {f : Q → Q'} {g : (q : Q) → R' (f q) → R q} {part : S' → S}
    (hreply : ∀ q t, g q (sv'.exec (f q) t).1 = (sv.exec q (part t)).1)
    (hstate : ∀ q t, part (sv'.exec (f q) t).2 = (sv.exec q (part t)).2) (p : Prog Q R α) (t : S') :
    (run sv' (p.embed f g) t).1 = (run sv p (part t)).1 ∧
      part (run sv' (p.embed f g) t).2 = (run sv p (part t)).2 := by
  induction p generalizing t with
  | ret a => exact ⟨rfl, rfl⟩
  | call q k ih =>
    rw [embed, run_call, run_call, ← hreply, ← hstate]
    exact ih _ _

/-! ## Proof outlines under interference -/

/-- The proof outline of a program that shares its server.  Before each of its
steps the others may have moved the server along `rely`; then the program only
issues a request it `may` issue there, and returns only where `post` holds. -/
def Safe (sv : Server Q R S) (rely : S → S → Prop) (may : S → Q → Prop)
    (post : α → S → Prop) : Prog Q R α → S → Prop
  | .ret a, s => ∀ s', rely s s' → post a s'
  | .call q k, s => ∀ s', rely s s' →
      may s' q ∧ ∀ r s'', sv.Step q s' r s'' → Safe sv rely may post (k r) s''

section Safe

variable {sv : Server Q R S} {rely : S → S → Prop} {may : S → Q → Prop}

/-- An outline survives what the others do. -/
theorem Safe.stable (htrans : ∀ s₁ s₂ s₃, rely s₁ s₂ → rely s₂ s₃ → rely s₁ s₃)
    {post : α → S → Prop} {p : Prog Q R α} {s s' : S} (h : Safe sv rely may post p s)
    (hr : rely s s') : Safe sv rely may post p s' := by
  cases p with
  | ret a => exact fun s'' h' => h s'' (htrans _ _ _ hr h')
  | call q k => exact fun s'' h' => h s'' (htrans _ _ _ hr h')

theorem Safe.mono {post post' : α → S → Prop} {p : Prog Q R α} {s : S}
    (h : Safe sv rely may post p s) (himp : ∀ a s', post a s' → post' a s') :
    Safe sv rely may post' p s := by
  induction p generalizing s with
  | ret a => exact fun s' hr => himp a s' (h s' hr)
  | call q k ih =>
    intro s' hr
    exact ⟨(h s' hr).1, fun r s'' hstep => ih r ((h s' hr).2 r s'' hstep)⟩

/-- The rule for a single request whose continuation is given. -/
theorem safe_call {post : α → S → Prop} {q : Q} {k : R q → Prog Q R α} {s : S}
    (hmay : ∀ s', rely s s' → may s' q)
    (hk : ∀ s' r s'', rely s s' → sv.Step q s' r s'' → Safe sv rely may post (k r) s'') :
    Safe sv rely may post (.call q k) s :=
  fun s' hr => ⟨hmay s' hr, fun r s'' hstep => hk s' r s'' hr hstep⟩

/-- **Sequencing.**  The first part has to establish the outline of the rest. -/
theorem safe_bind (hrefl : ∀ s, rely s s) {post : β → S → Prop} {p : Prog Q R α}
    {f : α → Prog Q R β} {s : S}
    (h : Safe sv rely may (fun a s' => Safe sv rely may post (f a) s') p s) :
    Safe sv rely may post (p.bind f) s := by
  induction p generalizing s with
  | ret a => exact h s (hrefl s)
  | call q k ih =>
    intro s' hr
    exact ⟨(h s' hr).1, fun r s'' hstep => ih r ((h s' hr).2 r s'' hstep)⟩

/-- Only the answer is wrapped. -/
theorem safe_map {post : β → S → Prop} {p : Prog Q R α} {f : α → β} {s : S}
    (h : Safe sv rely may (fun a s' => post (f a) s') p s) :
    Safe sv rely may post (p.bind fun a => .ret (f a)) s := by
  induction p generalizing s with
  | ret a => exact h
  | call q k ih =>
    intro s' hr
    exact ⟨(h s' hr).1, fun r s'' hstep => ih r ((h s' hr).2 r s'' hstep)⟩

/-- **The loop rule.**  `I xs` is what holds when the elements `xs` are still to
come. -/
theorem safe_forE (hrefl : ∀ s, rely s s) {post : Except ε Unit → S → Prop}
    {f : α → Prog Q R (Except ε Unit)} (I : List α → S → Prop)
    (hnil : ∀ s s', I [] s → rely s s' → post (.ok ()) s')
    (hcons : ∀ x xs s, I (x :: xs) s → Safe sv rely may (fun r s' => match r with
      | .ok () => I xs s'
      | .error e => ∀ s'', rely s' s'' → post (.error e) s'') (f x) s)
    {xs : List α} {s : S} (h : I xs s) : Safe sv rely may post (forE f xs) s := by
  induction xs generalizing s with
  | nil => exact fun s' hr => hnil s s' h hr
  | cons x xs ih =>
    rw [forE_cons]
    refine safe_bind hrefl ((hcons x xs s h).mono ?_)
    intro r s' hpost
    cases r with
    | error e => exact hpost
    | ok u => exact ih hpost

/-- What an outline says when nobody interferes: a run passes only through
requests the program may issue, and ends in `post`. -/
theorem Safe.runs (hrefl : ∀ s, rely s s) {post : α → S → Prop} {p : Prog Q R α} {s s' : S}
    {a : α} (h : Safe sv rely may post p s) (hrun : Runs sv p s a s') :
    Relation.ReflTransGen (fun t t' => ∃ q r, may t q ∧ sv.Step q t r t') s s' ∧ post a s' := by
  induction hrun with
  | ret a s => exact ⟨.refl, h s (hrefl s)⟩
  | call hstep _ ih =>
    obtain ⟨hmay, hnext⟩ := h _ (hrefl _)
    obtain ⟨hmoves, hpost⟩ := ih (hnext _ _ hstep)
    exact ⟨.head ⟨_, _, hmay, hstep⟩ hmoves, hpost⟩

/-- **Simulation.**  If another server gives the same answers to all requests that the program may
issue, and stays related to this one, then the program cannot tell them apart. -/
theorem Safe.run_simulated {T : Type} {sv' : Server Q R T} {rel : S → T → Prop}
    (hrefl : ∀ s, rely s s)
    (hexec : ∀ q s t, may s q → rel s t →
      (sv'.exec q t).1 = (sv.exec q s).1 ∧ rel (sv.exec q s).2 (sv'.exec q t).2)
    {post : α → S → Prop} {p : Prog Q R α} {s : S} (h : Safe sv rely may post p s) {t : T}
    (ht : rel s t) : (p.run sv' t).1 = (p.run sv s).1 ∧ rel (p.run sv s).2 (p.run sv' t).2 := by
  induction p generalizing s t with
  | ret a => exact ⟨rfl, ht⟩
  | call q k ih =>
    obtain ⟨hmay, hnext⟩ := h s (hrefl s)
    obtain ⟨hreply, hrel⟩ := hexec q s t hmay ht
    have hrest := ih _ (hnext _ _ (Or.inl ⟨rfl, rfl⟩)) hrel
    simp only [run_call, hreply]
    exact hrest

end Safe

end Prog

end Interaction
