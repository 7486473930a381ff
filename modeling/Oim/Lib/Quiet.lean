import Oim.Lib.Linear
import Oim.Lib.Guarded

/-!
# Atomic calls among others

A server has many parts, and only some calls change the part that one wants to see as an atomic
object.  The others still run at the same time, and their requests may go wrong.

* `Server.reliable` — the server on which certain requests are always carried out, and all others
  may fail.
* `Prog.Safe.commits` — a call that leaves the abstract state alone takes effect with its last
  request, whatever it answers.
* `Prog.Commits.embed` — a call that works on one part of the server takes effect where its program
  does on this part alone.
-/

namespace Interaction

/-! ## Servers that work in part -/

section Reliable

variable {Q S : Type} {R : Q → Type} {sv : Server Q R S} {must : Q → Prop} {q : Q} {s s' : S}
  {r : R q}

/-- The server that carries out every request in `must`. -/
def Server.reliable (sv : Server Q R S) (must : Q → Prop) : Server Q R S :=
  ⟨sv.exec, fun q r => sv.Fault q r ∧ ¬ must q⟩

theorem Server.step_of_reliable (h : (sv.reliable must).Step q s r s') : sv.Step q s r s' := by
  rcases h with h | ⟨⟨hfault, -⟩, heq⟩
  · exact Or.inl h
  · exact Or.inr ⟨hfault, heq⟩

theorem Server.reliable_step (hq : must q) (h : (sv.reliable must).Step q s r s') :
    r = (sv.exec q s).1 ∧ s' = (sv.exec q s).2 := by
  rcases h with h | ⟨⟨-, hno⟩, -⟩
  · exact h
  · exact absurd hq hno

end Reliable

namespace Prog

variable {Q S M A α : Type} {R : Q → Type} {sv sv' : Server Q R S} {rely rely' : S → S → Prop}
  {may : S → Q → Prop} {post : α → S → Prop}

/-! ## Outlines -/

/-- An outline holds where less can happen. -/
theorem Safe.narrow {p : Prog Q R α} {s : S} (h : Safe sv rely may post p s)
    (hstep : ∀ q s r s', sv'.Step q s r s' → sv.Step q s r s')
    (hrely : ∀ s s', rely' s s' → rely s s') : Safe sv' rely' may post p s := by
  induction p generalizing s with
  | ret a => exact fun s' hr => h s' (hrely _ _ hr)
  | call q k ih =>
    intro s' hr
    obtain ⟨hmay, hk⟩ := h s' (hrely _ _ hr)
    exact ⟨hmay, fun r s'' hs => ih r (hk r s'' (hstep _ _ _ _ hs))⟩

/-- What the program never asks for, it does not ask for here. -/
theorem Safe.and_only {A : Q → Prop} {p : Prog Q R α} {s : S} (h : Safe sv rely may post p s)
    (hp : p.Only A) : Safe sv rely (fun s q => may s q ∧ A q) post p s := by
  induction p generalizing s with
  | ret a => exact h
  | call q k ih =>
    intro s' hr
    obtain ⟨hmay, hk⟩ := h s' hr
    exact ⟨⟨hmay, hp.1⟩, fun r s'' hs => ih r (hk r s'' hs) (hp.2 r)⟩

/-! ## Effects -/

/-- The program makes at least one request. -/
def Asks : Prog Q R α → Prop
  | .ret _ => False
  | .call _ _ => True

theorem Asks.bind {β : Type} {p : Prog Q R α} (h : p.Asks) (f : α → Prog Q R β) :
    (p.bind f).Asks := by
  cases p with
  | ret a => exact h.elim
  | call q k => trivial

theorem Asks.embed {Q' : Type} {R' : Q' → Type} {f : Q → Q'} {g : (q : Q) → R' (f q) → R q}
    {p : Prog Q R α} (h : p.Asks) : (p.embed f g).Asks := by
  cases p with
  | ret a => exact h.elim
  | call q k => trivial

/-- **A program without an effect** takes it with its last request, which is where its answer is
known. -/
theorem Safe.commits {Inv : S → Prop} {abs : S → M} {spec : M → A → M → Prop}
    {post : A → S → Prop} {p : Prog Q R A} {s : S} (h : Safe sv rely may post p s) (hp : p.Asks)
    (hquiet : ∀ s q r s', may s q → sv.Step q s r s' → abs s' = abs s)
    (hspec : ∀ m a, spec m a m) : p.Commits sv rely Inv abs spec none s := by
  induction p generalizing s with
  | ret a => exact hp.elim
  | call q k ih =>
    intro s' hr _ r s'' hstep
    obtain ⟨hmay, hk⟩ := h s' hr
    have habs := hquiet s' q r s'' hmay hstep
    have hrest := hk r s'' hstep
    cases hkr : k r with
    | ret a =>
      refine Or.inr ⟨a, rfl, ?_, rfl⟩
      rw [habs]
      exact hspec _ _
    | call q' k' =>
      rw [← hkr]
      exact Or.inl ⟨habs, ih r hrest (by rw [hkr]; trivial)⟩

theorem Commits.mono {Inv : S → Prop} {abs : S → M} {spec spec' : M → A → M → Prop}
    {p : Prog Q R A} {done : Option A} {s : S} (h : p.Commits sv rely Inv abs spec done s)
    (himp : ∀ m a m', spec m a m' → spec' m a m') : p.Commits sv rely Inv abs spec' done s := by
  induction p generalizing done s with
  | ret a => exact h
  | call q k ih =>
    intro s' hr hinv r s'' hstep
    rcases h s' hr hinv r s'' hstep with ⟨habs, hk⟩ | ⟨a, hdone, hspec, hk⟩
    · exact Or.inl ⟨habs, ih r hk⟩
    · exact Or.inr ⟨a, hdone, himp _ _ _ hspec, ih r hk⟩

/-- **Effects on a part of the server.** -/
theorem Commits.embed {Q' S' : Type} {R' : Q' → Type} {f : Q → Q'}
    {g : (q : Q) → R' (f q) → R q} {sv' : Server Q' R' S'} {rely' : S' → S' → Prop}
    {Inv : S → Prop} {Inv' : S' → Prop} {abs : S → M} {spec : M → A → M → Prop} (part : S' → S)
    (hrely : ∀ t t', rely' t t' → rely (part t) (part t')) (hinv : ∀ t, Inv' t → Inv (part t))
    (hstep : ∀ q t r t', sv'.Step (f q) t r t' → sv.Step q (part t) (g q r) (part t'))
    {p : Prog Q R A} {done : Option A} {t : S'}
    (h : p.Commits sv rely Inv abs spec done (part t)) :
    (p.embed f g).Commits sv' rely' Inv' (fun t => abs (part t)) spec done t := by
  induction p generalizing done t with
  | ret a => exact h
  | call q k ih =>
    intro t' hr hinv' r t'' hs
    rcases h _ (hrely _ _ hr) (hinv _ hinv') _ _ (hstep q t' r t'' hs) with
      ⟨habs, hk⟩ | ⟨a, hdone, hspec, hk⟩
    · exact Or.inl ⟨habs, ih (g q r) hk⟩
    · exact Or.inr ⟨a, hdone, hspec, ih (g q r) hk⟩

end Prog

end Interaction
