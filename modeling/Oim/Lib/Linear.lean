import Oim.Lib.KeyLock

/-!
# Calls that take effect at one moment

Calls that run concurrently under a lock per key, on a server that works, behave
like an atomic object if each of them has one request at which it takes effect.

* `Linearizes` — a sequential order of the calls of a history: every answered
  call is in it with its answer, the order respects the time between the end of
  one call and the start of another, and executing the calls of the order one
  after the other by `spec` gives these answers and the final state.
* `Prog.Commits` — the **proof outline** of a program with such a request: all
  other requests leave the abstract state alone, and at this one it moves as
  `spec` says, with the answer that the program returns in the end.
* `linearizes_run` — if every call has an outline, every run has an order.

`Server.working` is the server without faults: an answer that got lost would be
one that the abstract object cannot give.
-/

namespace Interaction

variable {C K H Q A S M : Type} {R : Q → Type}

/-! ## A server that works -/

/-- The server that carries out every request. -/
def Server.working (sv : Server Q R S) : Server Q R S := ⟨sv.exec, fun _ _ => False⟩

theorem Server.working_step {sv : Server Q R S} {q : Q} {s s' : S} {r : R q} :
    sv.working.Step q s r s' ↔ r = (sv.exec q s).1 ∧ s' = (sv.exec q s).2 := by
  simp [Server.Step, Server.working]

theorem Server.step_of_working {sv : Server Q R S} {q : Q} {s s' : S} {r : R q}
    (h : sv.working.Step q s r s') : sv.Step q s r s' := Or.inl (Server.working_step.1 h)

theorem Prog.Safe.working {α : Type} {sv : Server Q R S} {rely : S → S → Prop}
    {may : S → Q → Prop} {post : α → S → Prop} {p : Prog Q R α} {s : S}
    (h : Prog.Safe sv rely may post p s) : Prog.Safe sv.working rely may post p s := by
  induction p generalizing s with
  | ret a => exact h
  | call q k ih =>
    intro s' hr
    exact ⟨(h s' hr).1, fun r s'' hstep =>
      ih r ((h s' hr).2 r s'' (Server.step_of_working hstep))⟩

/-- A discipline does not need the faults. -/
def Discipline.working {sv : Server Q R S} {calls : Calls C K Q R A} (D : Discipline sv calls) :
    Discipline sv.working calls where
  rely := D.rely
  may := D.may
  post := D.post
  refl := D.refl
  trans := D.trans
  frame c k s q r s' hmay hstep := D.frame c k s q r s' hmay (Server.step_of_working hstep)
  outline c s hearly := (D.outline c s hearly).working

/-! ## Sequential orders of a history -/

/-- A call of a history with an answer.  Calls are told apart by the position of
their `invoke`. -/
structure Op (C A : Type) where
  start : ℕ
  thread : ℕ
  call : C
  answer : A

/-- In the history the call `o` was made, and answered at position `m`: there is
the first answer on its thread after its start. -/
structure Answered (evs : List (Event C Q R A)) (o : Op C A) (m : ℕ) : Prop where
  invoked : evs[o.start]? = some (.invoke o.thread o.call)
  after : o.start < m
  answered : evs[m]? = some (.ret o.thread o.call o.answer)
  first : ∀ k, o.start < k → k < m → ∀ c a, evs[k]? ≠ some (.ret o.thread c a)

/-- The calls `ops`, executed one after the other, give their answers and take
`m` to the last state. -/
inductive Replays (spec : C → M → A → M → Prop) : M → List (Op C A) → M → Prop where
  | nil (m : M) : Replays spec m [] m
  | cons {m m₁ m₂ : M} {o : Op C A} {ops : List (Op C A)} :
      spec o.call m o.answer m₁ → Replays spec m₁ ops m₂ → Replays spec m (o :: ops) m₂

theorem Replays.snoc {spec : C → M → A → M → Prop} {m m₁ m₂ : M} {ops : List (Op C A)}
    {o : Op C A} (h : Replays spec m ops m₁) (ho : spec o.call m₁ o.answer m₂) :
    Replays spec m (ops ++ [o]) m₂ := by
  induction h with
  | nil m => exact .cons ho (.nil _)
  | cons hstep _ ih => exact .cons hstep (ih ho)

/-- `ops` is a sequential order for the history: it holds calls of the history,
each once, among them every answered one with its answer; a call that was
answered before another one was made does not come after it; and `spec` takes the
calls in this order from `m` to `m'`. -/
structure Linearizes (spec : C → M → A → M → Prop) (evs : List (Event C Q R A))
    (ops : List (Op C A)) (m m' : M) : Prop where
  unique : (ops.map Op.start).Nodup
  invoked : ∀ o ∈ ops, evs[o.start]? = some (.invoke o.thread o.call)
  complete : ∀ o k, Answered evs o k → o ∈ ops
  ordered : ops.Pairwise fun o o' => ∀ k, Answered evs o' k → o.start < k
  replays : Replays spec m ops m'

/-! ## Histories, event by event -/

/-- The call made at position `n` on thread `i` is not answered yet. -/
def Open (evs : List (Event C Q R A)) (i n : ℕ) (c : C) : Prop :=
  evs[n]? = some (.invoke i c) ∧ ∀ k, n < k → ∀ c' a, evs[k]? ≠ some (.ret i c' a)

section History

variable {evs : List (Event C Q R A)} {e : Event C Q R A} {i n : ℕ} {c : C}

/-- A position of a longer history is an old one or the new one. -/
theorem getElem?_snoc {x : Event C Q R A} (h : (evs ++ [e])[n]? = some x) :
    (n < evs.length ∧ evs[n]? = some x) ∨ (n = evs.length ∧ e = x) := by
  rcases lt_or_ge n evs.length with hlt | hge
  · rw [List.getElem?_append_left hlt] at h
    exact Or.inl ⟨hlt, h⟩
  · rw [List.getElem?_append_right hge, List.getElem?_singleton] at h
    split_ifs at h with hn
    exact Or.inr ⟨by omega, Option.some.inj h⟩

theorem getElem?_snoc_of {x : Event C Q R A} (h : evs[n]? = some x) :
    (evs ++ [e])[n]? = some x := by
  rw [List.getElem?_append_left (List.getElem?_eq_some_iff.1 h).1, h]

theorem Open.of_snoc (h : Open (evs ++ [e]) i n c) :
    Open evs i n c ∨ (n = evs.length ∧ e = .invoke i c) := by
  rcases getElem?_snoc h.1 with ⟨-, hn⟩ | hn
  · exact Or.inl ⟨hn, fun k hk c' a hret => h.2 k hk c' a (getElem?_snoc_of hret)⟩
  · exact Or.inr hn

theorem Open.snoc (h : Open evs i n c) (he : ∀ c' a, e ≠ .ret i c' a) :
    Open (evs ++ [e]) i n c := by
  refine ⟨getElem?_snoc_of h.1, fun k hk c' a hret => ?_⟩
  rcases getElem?_snoc hret with ⟨-, hk'⟩ | ⟨-, hk'⟩
  · exact h.2 k hk c' a hk'
  · exact he c' a hk'

theorem open_invoke : Open (evs ++ [.invoke i c]) i evs.length c := by
  refine ⟨by simp, fun k hk c' a hret => ?_⟩
  rcases getElem?_snoc hret with ⟨hk', -⟩ | ⟨hk', -⟩ <;> omega

theorem not_open_ret {c' : C} {a : A} : ¬ Open (evs ++ [.ret i c' a]) i n c := by
  intro h
  rcases h.of_snoc with h' | ⟨-, he⟩
  · have hlt : n < evs.length := (List.getElem?_eq_some_iff.1 h'.1).1
    exact h.2 evs.length hlt c' a (by simp)
  · cases he

theorem Answered.of_snoc {o : Op C A} {k : ℕ} (h : Answered (evs ++ [e]) o k) :
    Answered evs o k ∨
      (k = evs.length ∧ e = .ret o.thread o.call o.answer ∧ Open evs o.thread o.start o.call) := by
  have hstart : evs[o.start]? = some (.invoke o.thread o.call) := by
    rcases getElem?_snoc h.invoked with ⟨-, hs⟩ | ⟨hs, -⟩
    · exact hs
    · have := (List.getElem?_eq_some_iff.1 h.answered).1
      have := h.after
      simp only [List.length_append, List.length_singleton] at *
      omega
  have hfirst : ∀ j, o.start < j → j < k → ∀ c a, evs[j]? ≠ some (.ret o.thread c a) :=
    fun j h₁ h₂ c a hj => h.first j h₁ h₂ c a (getElem?_snoc_of hj)
  rcases getElem?_snoc h.answered with ⟨-, hk⟩ | ⟨hk, he⟩
  · exact Or.inl ⟨hstart, h.after, hk, hfirst⟩
  · refine Or.inr ⟨hk, he, hstart, fun j hj c a hret => ?_⟩
    have hlt := (List.getElem?_eq_some_iff.1 hret).1
    exact hfirst j hj (by omega) c a hret

end History

section Order

variable {spec : C → M → A → M → Prop} {evs : List (Event C Q R A)} {e : Event C Q R A}
  {ops : List (Op C A)} {m m' m'' : M}

/-- One more event, if the call that it answers is in the order already. -/
theorem Linearizes.keep (h : Linearizes spec evs ops m m')
    (hret : ∀ o, e = .ret o.thread o.call o.answer → Open evs o.thread o.start o.call → o ∈ ops) :
    Linearizes spec (evs ++ [e]) ops m m' where
  unique := h.unique
  invoked o ho := getElem?_snoc_of (h.invoked o ho)
  complete o k hk := by
    rcases hk.of_snoc with hk | ⟨-, he, hopen⟩
    · exact h.complete o k hk
    · exact hret o he hopen
  ordered := by
    refine h.ordered.imp_of_mem fun {o o'} ho _ hoo' k hk => ?_
    rcases hk.of_snoc with hk | ⟨rfl, -, -⟩
    · exact hoo' k hk
    · exact (List.getElem?_eq_some_iff.1 (h.invoked o ho)).1
  replays := h.replays

/-- A call that takes effect goes to the end of the order: it is not answered
yet. -/
theorem Linearizes.commit (h : Linearizes spec evs ops m m') {o : Op C A}
    (hopen : Open evs o.thread o.start o.call) (hnew : ∀ o' ∈ ops, o'.start ≠ o.start)
    (hspec : spec o.call m' o.answer m'') : Linearizes spec evs (ops ++ [o]) m m'' where
  unique := by
    rw [List.map_append, List.map_singleton]
    refine h.unique.append (List.nodup_singleton _) (List.disjoint_singleton.2 fun hmem => ?_)
    obtain ⟨o', ho', heq⟩ := List.mem_map.1 hmem
    exact hnew o' ho' heq
  invoked o' ho' := by
    rcases List.mem_append.1 ho' with ho' | ho'
    · exact h.invoked o' ho'
    · rw [List.mem_singleton.1 ho']
      exact hopen.1
  complete o' k hk := List.mem_append_left _ (h.complete o' k hk)
  ordered := by
    refine List.pairwise_append.2 ⟨h.ordered, List.pairwise_singleton _ _, ?_⟩
    intro o₁ _ o₂ ho₂ k hk
    rw [List.mem_singleton.1 ho₂] at hk
    exact absurd hk.answered (hopen.2 k hk.after _ _)
  replays := h.replays.snoc hspec

end Order

/-! ## The outline of a call with one effect -/

/-- The outline of a program that takes effect at one of its requests.  `done` is
the answer of the program once it has.  The others move the server along `rely`
within `Inv`. -/
def Prog.Commits (sv : Server Q R S) (rely : S → S → Prop) (Inv : S → Prop) (abs : S → M)
    (spec : M → A → M → Prop) : Prog Q R A → Option A → S → Prop
  | .ret a, done, _ => done = some a
  | .call q k, done, s => ∀ s', rely s s' → Inv s' → ∀ r s'', sv.Step q s' r s'' →
      (abs s'' = abs s' ∧ Commits sv rely Inv abs spec (k r) done s'') ∨
      ∃ a, done = none ∧ spec (abs s') a (abs s'') ∧
        Commits sv rely Inv abs spec (k r) (some a) s''

theorem Prog.Commits.stable {sv : Server Q R S} {rely : S → S → Prop} {Inv : S → Prop}
    {abs : S → M} {spec : M → A → M → Prop}
    (htrans : ∀ s₁ s₂ s₃, rely s₁ s₂ → rely s₂ s₃ → rely s₁ s₃) {p : Prog Q R A}
    {done : Option A} {s s' : S} (h : p.Commits sv rely Inv abs spec done s) (hr : rely s s') :
    p.Commits sv rely Inv abs spec done s' := by
  cases p with
  | ret a => exact h
  | call q k => exact fun s'' h' => h s'' (htrans _ _ _ hr h')

/-- The rule for a request to a server that works. -/
theorem Prog.commits_working {sv : Server Q R S} {rely : S → S → Prop} {Inv : S → Prop}
    {abs : S → M} {spec : M → A → M → Prop} {q : Q} {k : R q → Prog Q R A} {done : Option A}
    {s : S}
    (h : ∀ s', rely s s' → Inv s' →
      (abs (sv.exec q s').2 = abs s' ∧
        (k (sv.exec q s').1).Commits sv.working rely Inv abs spec done (sv.exec q s').2) ∨
      ∃ a, done = none ∧ spec (abs s') a (abs (sv.exec q s').2) ∧
        (k (sv.exec q s').1).Commits sv.working rely Inv abs spec (some a) (sv.exec q s').2) :
    (Prog.call q k).Commits sv.working rely Inv abs spec done s := by
  intro s' hrely hinv r s'' hstep
  obtain ⟨rfl, rfl⟩ := Server.working_step.1 hstep
  exact h s' hrely hinv

/-- Only the answer is wrapped. -/
theorem Prog.Commits.map {α : Type} {sv : Server Q R S} {rely : S → S → Prop} {Inv : S → Prop}
    {abs : S → M} {spec : M → A → M → Prop} {f : α → A} {p : Prog Q R α} {done : Option α} {s : S}
    (h : p.Commits sv rely Inv abs (fun m a m' => spec m (f a) m') done s) :
    (p.bind fun a => .ret (f a)).Commits sv rely Inv abs spec (done.map f) s := by
  induction p generalizing done s with
  | ret a =>
    obtain rfl : done = some a := h
    rfl
  | call q k ih =>
    intro s' hrely hinv r s'' hstep
    rcases h s' hrely hinv r s'' hstep with ⟨habs, hnext⟩ | ⟨a, rfl, hspec, hnext⟩
    · exact Or.inl ⟨habs, ih r hnext⟩
    · exact Or.inr ⟨f a, rfl, hspec, ih r hnext⟩

/-- What has to be shown about the calls in `V`: they keep `Inv`, each has an
outline, and one that is turned away has no effect. -/
structure Atomic {sv : Server Q R S} {calls : Calls C K Q R A} (D : Discipline sv calls)
    (V : C → Prop) (Inv : S → Prop) (abs : S → M) (spec : C → M → A → M → Prop) : Prop where
  keep : ∀ c s q r s', V c → D.may c s q → sv.Step q s r s' → Inv s → Inv s'
  early : ∀ c a s, V c → calls.early c = some a → spec c (abs s) a (abs s)
  commits : ∀ c s, V c → calls.early c = none →
    (calls.body c).Commits sv (D.rely (calls.key c)) Inv abs (spec c) none s

/-! ## Every run has an order -/

/-- The thread of an event. -/
def Event.thread : Event C Q R A → ℕ
  | .invoke i _ => i
  | .acquire i _ => i
  | .rpc i _ _ _ => i
  | .ret i _ _ => i

/-- The one call of thread `i` that is not answered was made at `n`. -/
def Occupied (evs : List (Event C Q R A)) (i n : ℕ) (c : C) : Prop :=
  Open evs i n c ∧ ∀ n' c', Open evs i n' c' → n' = n

/-- The call made at `n` is in the order exactly if it has taken effect. -/
def Booked (ops : List (Op C A)) (i n : ℕ) (c : C) : Option A → Prop
  | none => ∀ o ∈ ops, o.start ≠ n
  | some a => ⟨n, i, c, a⟩ ∈ ops

section Trace

variable {sv : Server Q R S} {calls : Calls C K Q R A}

/-- Where a thread stands, as the history and the order have it. -/
def Standing (D : Discipline sv calls) (V : C → Prop) (Inv : S → Prop) (abs : S → M)
    (spec : C → M → A → M → Prop) (evs : List (Event C Q R A)) (ops : List (Op C A)) (s : S)
    (i : ℕ) : Phase C Q R A → Prop
  | .idle => ∀ n c, ¬ Open evs i n c
  | .waiting c => V c ∧ ∃ n, Occupied evs i n c ∧ Booked ops i n c none
  | .running c p => V c ∧ ∃ n done, Occupied evs i n c ∧ Booked ops i n c done ∧
      p.Commits sv (D.rely (calls.key c)) Inv abs (spec c) done s

variable {D : Discipline sv calls} {V : C → Prop} {Inv : S → Prop} {abs : S → M}
  {spec : C → M → A → M → Prop} {hash : K → H} {evs : List (Event C Q R A)}
  {e : Event C Q R A} {ops new : List (Op C A)} {s s' : S} {i n : ℕ} {c : C}

theorem Occupied.snoc (h : Occupied evs i n c) (hinv : ∀ c, e ≠ .invoke i c)
    (hret : ∀ c a, e ≠ .ret i c a) : Occupied (evs ++ [e]) i n c := by
  refine ⟨h.1.snoc hret, fun n' c' h' => ?_⟩
  rcases h'.of_snoc with h' | ⟨-, he⟩
  · exact h.2 n' c' h'
  · exact absurd he (hinv c')

/-- The answer on an occupied thread is that of its one open call. -/
theorem Occupied.eq_op (h : Occupied evs i n c) {a : A} {o : Op C A}
    (he : (.ret i c a : Event C Q R A) = .ret o.thread o.call o.answer)
    (hopen : Open evs o.thread o.start o.call) : o = ⟨n, i, c, a⟩ := by
  obtain ⟨start, thread, call, answer⟩ := o
  cases he
  obtain rfl : start = n := h.2 _ _ hopen
  rfl

/-- Calls of other threads do not matter to a call. -/
theorem Booked.append {done : Option A} (h : Booked ops i n c done)
    (hn : evs[n]? = some (.invoke i c))
    (hnew : ∀ o ∈ new, evs[o.start]? = some (.invoke o.thread o.call) ∧ o.thread ≠ i) :
    Booked (ops ++ new) i n c done := by
  cases done with
  | some a => exact List.mem_append_left _ h
  | none =>
    intro o ho heq
    rcases List.mem_append.1 ho with ho | ho
    · exact h o ho heq
    · obtain ⟨hinv, hne⟩ := hnew o ho
      rw [heq, hn] at hinv
      cases hinv
      exact hne rfl

/-- What happens on other threads leaves the standing of a thread alone. -/
theorem Standing.frame {ph : Phase C Q R A} (h : Standing D V Inv abs spec evs ops s i ph)
    (he : e.thread ≠ i)
    (hnew : ∀ o ∈ new, evs[o.start]? = some (.invoke o.thread o.call) ∧ o.thread ≠ i)
    (hrely : ∀ c p, ph = .running c p → D.rely (calls.key c) s s') :
    Standing D V Inv abs spec (evs ++ [e]) (ops ++ new) s' i ph := by
  have hinv : ∀ c, e ≠ .invoke i c := fun c heq => he (by rw [heq]; rfl)
  have hret : ∀ c a, e ≠ .ret i c a := fun c a heq => he (by rw [heq]; rfl)
  cases ph with
  | idle =>
    intro n c hopen
    rcases hopen.of_snoc with hopen | ⟨-, heq⟩
    · exact h n c hopen
    · exact hinv c heq
  | waiting c =>
    obtain ⟨hV, n, hocc, hbook⟩ := h
    exact ⟨hV, n, hocc.snoc hinv hret, hbook.append hocc.1.1 hnew⟩
  | running c p =>
    obtain ⟨hV, n, done, hocc, hbook, hcom⟩ := h
    exact ⟨hV, n, done, hocc.snoc hinv hret, hbook.append hocc.1.1 hnew,
      hcom.stable (D.trans _) (hrely c p rfl)⟩

/-- The invariant of a run with its history and an order for it. -/
structure Traced (D : Discipline sv calls) (hash : K → H) (V : C → Prop) (Inv : S → Prop)
    (abs : S → M) (spec : C → M → A → M → Prop) (m : M) (evs : List (Event C Q R A))
    (ops : List (Op C A)) (σ : Sys C Q R A S) : Prop where
  good : Good D hash σ
  inv : Inv σ.srv
  lin : Linearizes spec evs ops m (abs σ.srv)
  standing : ∀ i, Standing D V Inv abs spec evs ops σ.srv i (σ.thr i)

variable {m : M} {σ σ' : Sys C Q R A S}

theorem traced_start (h : Inv s) :
    Traced D hash V Inv abs spec (abs s) [] [] (Sys.start s) where
  good := good_start D s
  inv := h
  lin :=
    { unique := List.nodup_nil
      invoked := by simp
      complete := fun o k hk => by simpa using hk.invoked
      ordered := List.Pairwise.nil
      replays := .nil _ }
  standing _ _ _ hopen := by simpa using hopen.1

/-- An event of thread `i` moves this thread, maybe the server, and maybe puts the
call of the thread at the end of the order. -/
theorem Traced.update (h : Traced D hash V Inv abs spec m evs ops σ) {ph : Phase C Q R A}
    (hgood : Good D hash ({ σ with srv := s' }.set i ph)) (hinv : Inv s') (he : e.thread = i)
    (hnew : ∀ o ∈ new, evs[o.start]? = some (.invoke o.thread o.call) ∧ o.thread = i)
    (hrely : ∀ j c p, j ≠ i → σ.thr j = .running c p → D.rely (calls.key c) σ.srv s')
    (hlin : Linearizes spec (evs ++ [e]) (ops ++ new) m (abs s'))
    (hph : Standing D V Inv abs spec (evs ++ [e]) (ops ++ new) s' i ph) :
    Traced D hash V Inv abs spec m (evs ++ [e]) (ops ++ new) ({ σ with srv := s' }.set i ph) where
  good := hgood
  inv := hinv
  lin := hlin
  standing j := by
    rw [Sys.set_thr]
    split_ifs with hj
    · rw [hj]; exact hph
    · refine (h.standing j).frame (by rw [he]; exact Ne.symm hj) (fun o ho => ?_) fun c p =>
        hrely j c p hj
      exact ⟨(hnew o ho).1, by rw [(hnew o ho).2]; exact Ne.symm hj⟩

/-- The same with the order as it is. -/
theorem Traced.move (h : Traced D hash V Inv abs spec m evs ops σ) {ph : Phase C Q R A}
    (hgood : Good D hash ({ σ with srv := s' }.set i ph)) (hinv : Inv s') (he : e.thread = i)
    (hrely : ∀ j c p, j ≠ i → σ.thr j = .running c p → D.rely (calls.key c) σ.srv s')
    (hlin : Linearizes spec (evs ++ [e]) ops m (abs s'))
    (hph : Standing D V Inv abs spec (evs ++ [e]) ops s' i ph) :
    Traced D hash V Inv abs spec m (evs ++ [e]) ops ({ σ with srv := s' }.set i ph) := by
  rw [← List.append_nil ops] at hlin hph ⊢
  exact h.update hgood hinv he (by simp) hrely hlin hph

theorem Traced.invoke (h : Traced D hash V Inv abs spec m evs ops σ) (hi : σ.thr i = .idle)
    (hc : V c) (hgood : Good D hash (σ.set i (.waiting c))) :
    Traced D hash V Inv abs spec m (evs ++ [.invoke i c]) ops (σ.set i (.waiting c)) := by
  have hidle := h.standing i
  rw [hi] at hidle
  refine h.move hgood h.inv rfl (fun _ _ _ _ _ => D.refl _ _) (h.lin.keep (by simp))
    ⟨hc, evs.length, ⟨open_invoke, fun n c' hopen => ?_⟩, fun o ho heq => ?_⟩
  · rcases hopen.of_snoc with hopen | ⟨hn, -⟩
    · exact absurd hopen (hidle n c')
    · exact hn
  · have hlt := (List.getElem?_eq_some_iff.1 (h.lin.invoked o ho)).1
    omega

/-- A call that is turned away takes effect when it is answered. -/
theorem Traced.reject (hA : Atomic D V Inv abs spec)
    (h : Traced D hash V Inv abs spec m evs ops σ) {a : A} (hi : σ.thr i = .waiting c)
    (hearly : calls.early c = some a) (hgood : Good D hash (σ.set i .idle)) :
    ∃ o, Traced D hash V Inv abs spec m (evs ++ [.ret i c a]) (ops ++ [o]) (σ.set i .idle) := by
  have hwait := h.standing i
  rw [hi] at hwait
  obtain ⟨hV, n, hocc, hbook⟩ := hwait
  have hlin : Linearizes spec evs (ops ++ [⟨n, i, c, a⟩]) m (abs σ.srv) :=
    h.lin.commit hocc.1 hbook (hA.early c a σ.srv hV hearly)
  refine ⟨⟨n, i, c, a⟩, h.update hgood h.inv rfl ?_ (fun _ _ _ _ _ => D.refl _ _)
    (hlin.keep fun o heq hopen => ?_) fun _ _ => not_open_ret⟩
  · intro o ho
    rw [List.mem_singleton.1 ho]
    exact ⟨hocc.1.1, rfl⟩
  · rw [hocc.eq_op heq hopen]
    exact List.mem_append_right _ List.mem_cons_self

theorem Traced.acquire (hA : Atomic D V Inv abs spec)
    (h : Traced D hash V Inv abs spec m evs ops σ) (hi : σ.thr i = .waiting c)
    (hearly : calls.early c = none)
    (hgood : Good D hash (σ.set i (.running c (calls.body c)))) :
    Traced D hash V Inv abs spec m (evs ++ [.acquire i c]) ops
      (σ.set i (.running c (calls.body c))) := by
  have hwait := h.standing i
  rw [hi] at hwait
  obtain ⟨hV, n, hocc, hbook⟩ := hwait
  exact h.move hgood h.inv rfl (fun _ _ _ _ _ => D.refl _ _) (h.lin.keep (by simp))
    ⟨hV, n, none, hocc.snoc (by simp) (by simp), hbook, hA.commits c σ.srv hV hearly⟩

theorem Traced.ret (h : Traced D hash V Inv abs spec m evs ops σ) {a : A}
    (hi : σ.thr i = .running c (.ret a)) (hgood : Good D hash (σ.set i .idle)) :
    Traced D hash V Inv abs spec m (evs ++ [.ret i c a]) ops (σ.set i .idle) := by
  have hrun := h.standing i
  rw [hi] at hrun
  obtain ⟨-, n, done, hocc, hbook, hcom⟩ := hrun
  obtain rfl : done = some a := hcom
  refine h.move hgood h.inv rfl (fun _ _ _ _ _ => D.refl _ _)
    (h.lin.keep fun o heq hopen => ?_) fun _ _ => not_open_ret
  rw [hocc.eq_op heq hopen]
  exact hbook

/-- At a request the call may take effect. -/
theorem Traced.rpc (hA : Atomic D V Inv abs spec)
    (h : Traced D hash V Inv abs spec m evs ops σ) {q : Q} {k : R q → Prog Q R A} {r : R q}
    (hi : σ.thr i = .running c (.call q k)) (hsv : sv.Step q σ.srv r s')
    (hgood : Good D hash ({ σ with srv := s' }.set i (.running c (k r)))) :
    ∃ ops', Traced D hash V Inv abs spec m (evs ++ [.rpc i c q r]) ops'
      ({ σ with srv := s' }.set i (.running c (k r))) := by
  have hrun := h.standing i
  rw [hi] at hrun
  obtain ⟨hV, n, done, hocc, hbook, hcom⟩ := hrun
  have hmay : D.may c σ.srv q := (h.good.rpc_may (.rpc hi hsv)).1
  have hinv : Inv s' := hA.keep c σ.srv q r s' hV hmay hsv h.inv
  have hrely : ∀ j c' p, j ≠ i → σ.thr j = .running c' p →
      D.rely (calls.key c') σ.srv s' := by
    intro j c' p hj hthr
    refine D.frame c _ _ q r s' hmay hsv fun hkey => ?_
    exact h.good.apart j i c' p c _ hthr hi hj (by rw [hkey])
  have hocc' : Occupied (evs ++ [.rpc i c q r]) i n c := hocc.snoc (by simp) (by simp)
  rcases hcom σ.srv (D.refl _ _) h.inv r s' hsv with ⟨habs, hnext⟩ | ⟨a, rfl, hspec, hnext⟩
  · refine ⟨ops, h.move hgood hinv rfl hrely ?_ ⟨hV, n, done, hocc', hbook, hnext⟩⟩
    rw [habs]
    exact h.lin.keep (by simp)
  · refine ⟨ops ++ [⟨n, i, c, a⟩], h.update hgood hinv rfl ?_ hrely ?_
      ⟨hV, n, some a, hocc', List.mem_append_right _ List.mem_cons_self, hnext⟩⟩
    · intro o ho
      rw [List.mem_singleton.1 ho]
      exact ⟨hocc.1.1, rfl⟩
    · exact (h.lin.commit (o := ⟨n, i, c, a⟩) hocc.1 hbook hspec).keep (by simp)

/-- **One step** keeps an order, or extends it. -/
theorem Traced.step (hA : Atomic D V Inv abs spec)
    (h : Traced D hash V Inv abs spec m evs ops σ) (hstep : Step sv calls hash σ e σ')
    (hV : ∀ i c, e = .invoke i c → V c) :
    ∃ ops', Traced D hash V Inv abs spec m (evs ++ [e]) ops' σ' := by
  have hgood := h.good.step hstep
  cases hstep with
  | invoke c hi => exact ⟨_, h.invoke hi (hV _ c rfl) hgood⟩
  | reject hi hearly =>
    obtain ⟨o, ho⟩ := h.reject hA hi hearly hgood
    exact ⟨_, ho⟩
  | acquire hi hearly hfree => exact ⟨_, h.acquire hA hi hearly hgood⟩
  | rpc hi hsv => exact h.rpc hA hi hsv hgood
  | ret hi => exact ⟨_, h.ret hi hgood⟩

theorem Traced.run (hA : Atomic D V Inv abs spec) {fs : List (Event C Q R A)}
    (hrun : Run sv calls hash σ fs σ') (h : Traced D hash V Inv abs spec m evs ops σ)
    (hV : ∀ i c, .invoke i c ∈ fs → V c) :
    ∃ ops', Traced D hash V Inv abs spec m (evs ++ fs) ops' σ' := by
  induction hrun generalizing evs ops with
  | nil σ => exact ⟨ops, by rwa [List.append_nil]⟩
  | @cons σ σ₁ σ₂ e fs hstep _ ih =>
    obtain ⟨ops₁, h₁⟩ := h.step hA hstep fun i c he => hV i c (by simp [he])
    obtain ⟨ops', h₂⟩ := ih h₁ fun i c hmem => hV i c (List.mem_cons_of_mem _ hmem)
    exact ⟨ops', by simpa using h₂⟩

/-- **Every run of calls with one effect has a sequential order.** -/
theorem linearizes_run (hA : Atomic D V Inv abs spec) (h : Inv s)
    (hrun : Run sv calls hash (Sys.start s) evs σ) (hV : ∀ i c, .invoke i c ∈ evs → V c) :
    ∃ ops, Linearizes spec evs ops (abs s) (abs σ.srv) := by
  obtain ⟨ops, htr⟩ := Traced.run (D := D) hA hrun (traced_start h) hV
  exact ⟨ops, htr.lin⟩

end Trace

end Interaction
