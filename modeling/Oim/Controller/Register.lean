import Oim.Lib.Trace

/-!
# Self-registration

`Controller.Start` runs a loop that registers the controller with the OIM registry, again
and again (`pkg/oim-controller/controller.go`).  The loop waits for one of three things:
that it is told to stop, that the last attempt is done, or that it is time for the next
one, which then runs in a goroutine of its own.

* `State`, `Step` — the loop, its timer, the goroutines that are inside `register` or
  about to report on the unbuffered channel `done`, and one call of `Close`.
* `Step.token` — a token travels from the timer to a goroutine and back: while the loop
  runs, there is one attempt or a timer, never both.
* `registration_token` — so registration neither doubles nor stalls, and ends with the
  loop.
* `close_ends_registration_iff` — but `Close` only waits for the loop: what it promises
  holds if nothing is under way when the loop stops, and if dialling never fails.
-/

namespace Oim.Registration

open Lts

/-! ## The code -/

/-- Where a goroutine stands that the loop has started. -/
inductive Attempt where
  /-- In `register`, up to `grpc.DialContext`. -/
  | dialing
  /-- In `register`, connected and about to call `SetValue`. -/
  | connected
  /-- In `register`, waiting for the reply to `SetValue`. -/
  | calling
  /-- `register` has returned, and the goroutine sends to `done`. -/
  | finished
  deriving DecidableEq

/-- The channel `again`. -/
inductive Timer where
  /-- Made by `time.After`, not expired yet. -/
  | armed
  /-- Expired, and the value not received yet. -/
  | fired
  /-- The value was received; nothing more will come. -/
  | drained
  deriving DecidableEq

/-- Where `Close` stands. -/
inductive Closing where
  | uncalled
  /-- `stop` is closed, and `Close` waits for the loop. -/
  | waiting
  | returned
  deriving DecidableEq

/-- Where the loop stands. -/
inductive Loop where
  /-- At the `select`. -/
  | selecting
  /-- It has taken the stop branch. -/
  | stopping
  /-- Its deferred functions have run: the context of the attempts is cancelled, and the
  wait group is done. -/
  | returned
  deriving DecidableEq

/-- The state of the loop and of everything around it. -/
structure State where
  loop : Loop
  timer : Timer
  /-- The goroutines that the loop has started and that still exist. -/
  attempts : Multiset Attempt
  closing : Closing
  /-- The process has died. -/
  panicked : Bool

/-- After `Start`: "Register for the first time immediately." -/
def State.init : State := ⟨.selecting, .armed, 0, .uncalled, false⟩

/-- What happens. -/
inductive Event where
  /-- The timer expires. -/
  | fire
  /-- The loop receives from `again` and starts an attempt. -/
  | tick
  /-- `grpc.DialContext` returns. -/
  | dial (ok : Bool)
  /-- `SetValue` is called. -/
  | setValue
  /-- `SetValue` returns. -/
  | reply (ok : Bool)
  /-- The loop receives from `done` and arms the timer again. -/
  | handOver
  /-- The loop takes the stop branch. -/
  | stop
  /-- The deferred functions of the loop run. -/
  | leave
  /-- `Close` is called. -/
  | close
  /-- `Close` returns. -/
  | closed
  deriving DecidableEq

/-- The steps.

An error from dialling is logged and nothing else: the connection is nil, and both
`SetValue` and the deferred `Close` panic on it.  Dialling with a cancelled context is an
error.  What `SetValue` returns is ignored. -/
inductive Step : State → Event → State → Prop where
  | fire {s : State} : s.panicked = false → s.timer = .armed →
      Step s .fire { s with timer := .fired }
  | tick {s : State} : s.panicked = false → s.loop = .selecting → s.timer = .fired →
      Step s .tick { s with timer := .drained, attempts := .dialing ::ₘ s.attempts }
  | dialed {s : State} {rest : Multiset Attempt} : s.panicked = false → s.loop ≠ .returned →
      s.attempts = .dialing ::ₘ rest →
      Step s (.dial true) { s with attempts := .connected ::ₘ rest }
  | dialFailed {s : State} : s.panicked = false → .dialing ∈ s.attempts →
      Step s (.dial false) { s with panicked := true }
  | setValue {s : State} {rest : Multiset Attempt} : s.panicked = false →
      s.attempts = .connected ::ₘ rest →
      Step s .setValue { s with attempts := .calling ::ₘ rest }
  | reply {s : State} {rest : Multiset Attempt} (ok : Bool) : s.panicked = false →
      s.attempts = .calling ::ₘ rest →
      Step s (.reply ok) { s with attempts := .finished ::ₘ rest }
  | handOver {s : State} {rest : Multiset Attempt} : s.panicked = false →
      s.loop = .selecting → s.attempts = .finished ::ₘ rest →
      Step s .handOver { s with timer := .armed, attempts := rest }
  | stop {s : State} : s.panicked = false → s.loop = .selecting → s.closing ≠ .uncalled →
      Step s .stop { s with loop := .stopping }
  | leave {s : State} : s.panicked = false → s.loop = .stopping →
      Step s .leave { s with loop := .returned }
  | close {s : State} : s.panicked = false → s.closing = .uncalled →
      Step s .close { s with closing := .waiting }
  | closed {s : State} : s.panicked = false → s.closing = .waiting → s.loop = .returned →
      Step s .closed { s with closing := .returned }

/-- The timer for the next attempt is armed, or has fired and was not received. -/
def State.pending (s : State) : Prop := s.timer ≠ .drained

/-- How many goroutines are inside `register`. -/
def State.running (s : State) : ℕ := s.attempts.countP (· ≠ .finished)

/-- How many goroutines wait to hand over on `done`. -/
def State.handing (s : State) : ℕ := s.attempts.countP (· = .finished)

/-! ## The token -/

/-- While the loop runs, there is a timer and no attempt, or one attempt and no timer. -/
def Token (s : State) : Prop :=
  s.loop = .selecting →
    (s.pending ∧ s.attempts.card = 0) ∨ (¬ s.pending ∧ s.attempts.card = 1)

/-- **One step hands on the token.** -/
theorem Step.token {s s' : State} {e : Event} (h : Step s e s') (ht : Token s) : Token s' := by
  cases h with
  | fire _ htimer =>
    intro hloop
    exact .inl ⟨by simp [State.pending], by simpa [State.pending, htimer] using ht hloop⟩
  | tick _ hloop htimer =>
    intro _
    have hnone : s.attempts.card = 0 := by simpa [State.pending, htimer] using ht hloop
    exact .inr ⟨by simp [State.pending], by simp [hnone]⟩
  | dialed _ _ hattempts | setValue _ hattempts | reply _ _ hattempts =>
    simpa [Token, State.pending, hattempts] using ht
  | dialFailed _ _ | close _ _ | closed _ _ _ => exact ht
  | handOver _ hloop hattempts =>
    intro _
    rcases ht hloop with ⟨-, hnone⟩ | ⟨-, hone⟩
    · exact absurd hnone (by simp [hattempts])
    · exact .inl ⟨by simp [State.pending], by simpa [hattempts] using hone⟩
  | stop _ _ _ | leave _ _ => exact fun hloop => nomatch hloop

theorem token_init : Token .init := fun _ => .inl ⟨by simp [State.pending, State.init], rfl⟩

/-- A stopped loop stays stopped, and neither starts an attempt nor receives one. -/
theorem Step.stopped {s s' : State} {e : Event} (h : Step s e s') (hloop : s.loop ≠ .selecting) :
    s'.loop ≠ .selecting ∧ e ≠ .tick ∧ e ≠ .handOver := by
  cases h with
  | tick _ hsel _ | handOver _ hsel _ | stop _ hsel _ => exact absurd hsel hloop
  | leave _ _ => simp
  | _ => exact ⟨hloop, by simp, by simp⟩

theorem Step.not_selecting_iff {s s' : State} {e : Event} (h : Step s e s') :
    s'.loop ≠ .selecting ↔ s.loop ≠ .selecting ∨ e = .stop := by
  cases h with
  | leave _ hloop => simp [hloop]
  | _ => simp

/-- What happens after the loop has stopped. -/
theorem after_stop {before after : List Event} {s : State}
    (h : Trace Step .init (before ++ .stop :: after) s) :
    .tick ∉ after ∧ .handOver ∉ after := by
  obtain ⟨s₁, s₂, -, hstop, hafter⟩ := trace_middle_iff.1 h
  have hloop : s₂.loop ≠ .selecting := hstop.not_selecting_iff.2 (.inr rfl)
  have hnever := hafter.forall_mem (fun _ _ _ he => he.stopped) hloop
  exact ⟨fun hmem => (hnever _ hmem).1 rfl, fun hmem => (hnever _ hmem).2 rfl⟩

/-- **Registration neither doubles nor stalls.**  In every state that the loop can reach, and as
long as it has not taken the stop branch, there is exactly one of: a timer for the next
attempt, a running attempt, and a finished one that waits to hand over.  After the stop
branch no attempt is started. -/
theorem registration_token {events : List Event} {s : State} (h : Trace Step .init events s) :
    (s.loop = .selecting →
      (s.pending ∧ s.running = 0 ∧ s.handing = 0) ∨
      (¬ s.pending ∧ s.running = 1 ∧ s.handing = 0) ∨
      (¬ s.pending ∧ s.running = 0 ∧ s.handing = 1)) ∧
    ∀ before after, events = before ++ .stop :: after → .tick ∉ after := by
  constructor
  · intro hloop
    have htoken : Token s := h.invariant (fun _ _ _ he => he.token) token_init
    have hcard : s.attempts.card = s.running + s.handing := by
      simpa [State.running, State.handing] using
        Multiset.card_eq_countP_add_countP (· ≠ Attempt.finished) s.attempts
    rcases htoken hloop with ⟨htimer, hzero⟩ | ⟨htimer, hone⟩
    · exact .inl ⟨htimer, by omega, by omega⟩
    · have hcases : (s.running = 1 ∧ s.handing = 0) ∨ (s.running = 0 ∧ s.handing = 1) := by
        omega
      exact .inr (hcases.imp (⟨htimer, ·⟩) (⟨htimer, ·⟩))
  · rintro before after rfl
    exact (after_stop h).1

/-- One whole round: the second attempt is under way. -/
theorem registration_token_again :
    ∃ s, Trace Step .init [.fire, .tick, .dial true, .setValue, .reply false, .handOver, .fire,
        .tick] s ∧ ¬ s.pending ∧ s.running = 1 ∧ s.handing = 0 := by
  have h : Trace Step .init [.fire, .tick, .dial true, .setValue, .reply false, .handOver,
      .fire, .tick] ⟨.selecting, .drained, {.dialing}, .uncalled, false⟩ :=
    (((((((Trace.nil State.init).snoc (.fire rfl rfl)).snoc (.tick rfl rfl rfl)).snoc
      (.dialed rfl (by decide) rfl)).snoc (.setValue rfl rfl)).snoc (.reply false rfl rfl)).snoc
      (.handOver rfl rfl rfl)).snoc (.fire rfl rfl) |>.snoc (.tick rfl rfl rfl)
  rcases (registration_token h).1 rfl with ⟨htimer, -⟩ | hrunning | ⟨-, hrunning, -⟩
  · exact absurd rfl htimer
  · exact ⟨_, h, hrunning⟩
  · exact absurd hrunning (by decide)

/-! ## What `Close` waits for -/

theorem Step.panicked_iff {s s' : State} {e : Event} (h : Step s e s') :
    s'.panicked = true ↔ s.panicked = true ∨ e = .dial false := by
  cases h with
  | _ => simp

theorem Step.returned_iff {s s' : State} {e : Event} (h : Step s e s') :
    s'.closing = .returned ↔ s.closing = .returned ∨ e = .closed := by
  cases h with
  | close _ hclosing => simp [hclosing]
  | _ => simp

theorem panicked_iff {events : List Event} {s : State} (h : Trace Step .init events s) :
    s.panicked = true ↔ .dial false ∈ events := by
  simpa using h.latch (fun _ _ _ he => he.panicked_iff) (by simp [State.init])

theorem returned_iff {events : List Event} {s : State} (h : Trace Step .init events s) :
    s.closing = .returned ↔ .closed ∈ events := by
  simpa using h.latch (fun _ _ _ he => he.returned_iff) (by simp [State.init])

/-- `Close` only returns after the loop has stopped. -/
theorem stop_of_returned {events : List Event} {s : State} (h : Trace Step .init events s)
    (hreturned : s.closing = .returned) : .stop ∈ events := by
  have hloop : s.closing = .returned → s.loop ≠ .selecting := by
    refine h.invariant (I := fun s => s.closing = .returned → s.loop ≠ .selecting)
      (fun s e s' he hinv hret => ?_) (by simp [State.init])
    cases he with
    | tick _ hsel _ | handOver _ hsel _ => exact absurd hsel (hinv hret)
    | stop _ _ _ | leave _ _ => simp
    | close _ _ => exact nomatch hret
    | closed _ _ hloop => simp [hloop]
    | _ => exact hinv hret
  simpa using
    (h.latch (fun _ _ _ he => he.not_selecting_iff) (by simp [State.init])).1 (hloop hreturned)

/-- Every attempt that was started and not received is there still. -/
theorem card_attempts {events : List Event} {s : State} (h : Trace Step .init events s) :
    events.count .tick = events.count .handOver + s.attempts.card := by
  induction h with
  | nil => rfl
  | snoc _ hlast ih =>
    cases hlast with
    | tick _ _ _ => simp [ih, add_assoc]
    | dialed _ _ hattempts | setValue _ hattempts | reply _ _ hattempts =>
      simpa [hattempts] using ih
    | handOver _ _ hattempts =>
      rw [hattempts, Multiset.card_cons] at ih
      simpa [add_assoc, add_comm, add_left_comm] using ih
    | _ => simpa using ih

/-- The attempts that were under way when the loop stopped never get rid of themselves. -/
theorem card_attempts_of_stop {before after : List Event} {s : State}
    (h : Trace Step .init (before ++ .stop :: after) s) :
    before.count .tick = before.count .handOver + s.attempts.card := by
  have hcard := card_attempts h
  simpa [List.count_eq_zero_of_not_mem (after_stop h).1,
    List.count_eq_zero_of_not_mem (after_stop h).2] using hcard

/-- Once the loop has stopped with nothing under way, `SetValue` is not called. -/
theorem setValue_not_mem {events : List Event} {s s' : State} (h : Trace Step s events s')
    (hloop : s.loop ≠ .selecting) (hnone : s.attempts = 0) : .setValue ∉ events := by
  have hnever : ∀ e ∈ events, e ≠ .setValue := by
    refine h.forall_mem (I := fun s => s.loop ≠ .selecting ∧ s.attempts = 0)
      (fun s e s' he ⟨hloop, hnone⟩ => ?_) ⟨hloop, hnone⟩
    have hloop' := (he.stopped hloop).1
    cases he with
    | tick _ hsel _ | handOver _ hsel _ => exact absurd hsel hloop
    | dialed _ _ hattempts | setValue _ hattempts | reply _ _ hattempts =>
      exact absurd (hattempts.symm.trans hnone) Multiset.cons_ne_zero
    | _ => exact ⟨⟨hloop', hnone⟩, by simp⟩
  exact fun hmem => hnever _ hmem rfl

/-- **When `Close` really ends registration.**  The process lives, nothing that the loop has
started outlives `Close`, and no `SetValue` is called after it, if and only if no attempt
failed to dial and, when the loop stopped before `Close` returned, every attempt it had
started was handed over. -/
theorem close_ends_registration_iff {events : List Event} {s : State}
    (h : Trace Step .init events s) :
    (s.panicked = false ∧ (s.closing = .returned → s.attempts = 0) ∧
      ∀ before after, events = before ++ .closed :: after → .setValue ∉ after) ↔
    .dial false ∉ events ∧
      (.closed ∈ events → ∀ before after, events = before ++ .stop :: after →
        before.count .tick = before.count .handOver) := by
  rw [← Bool.not_eq_true, panicked_iff h, ← returned_iff h]
  refine and_congr_right fun _ => ⟨?_, ?_⟩
  · rintro ⟨hnone, -⟩ hreturned before after rfl
    simpa [hnone hreturned] using card_attempts_of_stop h
  · intro hover
    -- The loop has stopped, and the number of attempts is the same since.
    have hnone : ∀ {es s₁}, Trace Step .init es s₁ → es <+: events → .closed ∈ es →
        s₁.attempts = 0 := by
      rintro es s₁ h₁ ⟨rest, rfl⟩ hclosed
      have hstop := stop_of_returned h₁ ((returned_iff h₁).2 hclosed)
      obtain ⟨before, after, rfl⟩ := List.append_of_mem hstop
      have hcount := hover ((returned_iff h).2 (List.mem_append_left _ hclosed)) before
        (after ++ rest) (by simp)
      exact Multiset.card_eq_zero.1 (by have := card_attempts_of_stop h₁; omega)
    refine ⟨fun hreturned => hnone h (List.prefix_refl _) ((returned_iff h).1 hreturned), ?_⟩
    rintro before after rfl
    obtain ⟨s₁, s₂, hbefore, hclosed, hafter⟩ := trace_middle_iff.1 h
    have hloop : s₂.loop ≠ .selecting := by cases hclosed with | closed _ _ hloop => simp [hloop]
    exact setValue_not_mem hafter hloop
      (hnone (hbefore.snoc hclosed) ⟨after, by simp⟩ (by simp))

/-- `Close` between two attempts. -/
theorem close_ends_registration_iff_idle :
    ∃ s, Trace Step .init [.fire, .tick, .dial true, .setValue, .reply true, .handOver, .close,
        .stop, .leave, .closed] s ∧
      s.panicked = false ∧ s.closing = .returned ∧ s.attempts = 0 := by
  have h : Trace Step .init [.fire, .tick, .dial true, .setValue, .reply true, .handOver,
      .close, .stop, .leave, .closed] ⟨.returned, .armed, 0, .returned, false⟩ :=
    ((((((((((Trace.nil State.init).snoc (.fire rfl rfl)).snoc (.tick rfl rfl rfl)).snoc
      (.dialed rfl (by decide) rfl)).snoc (.setValue rfl rfl)).snoc (.reply true rfl rfl)).snoc
      (.handOver rfl rfl rfl)).snoc (.close rfl rfl)).snoc (.stop rfl rfl (by decide))).snoc
      (.leave rfl rfl)).snoc (.closed rfl rfl rfl)
  have hover : ∀ before after : List Event, [Event.fire, .tick, .dial true, .setValue,
      .reply true, .handOver, .close, .stop, .leave, .closed] = before ++ .stop :: after →
      before.count .tick = before.count .handOver := by
    intro before after heq
    have hcut := card_attempts_of_stop (heq ▸ h)
    simpa using hcut
  obtain ⟨hpanicked, hnone, -⟩ :=
    (close_ends_registration_iff h).2 ⟨by decide, fun _ => hover⟩
  exact ⟨_, h, hpanicked, rfl, hnone rfl⟩

/-- An attempt that fails to dial kills the controller; and one that has connected when the
loop stops calls `SetValue` after `Close` has returned. -/
theorem registration_outlives_close :
    (∃ s, Trace Step .init [.fire, .tick, .dial false] s ∧ s.panicked = true) ∧
    ∃ s, Trace Step .init [.fire, .tick, .dial true, .close, .stop, .leave, .closed, .setValue] s ∧
      s.closing = .returned ∧ .calling ∈ s.attempts := by
  have hdialing : Trace Step .init [.fire, .tick]
      ⟨.selecting, .drained, .dialing ::ₘ 0, .uncalled, false⟩ :=
    ((Trace.nil State.init).snoc (.fire rfl rfl)).snoc (.tick rfl rfl rfl)
  have hconnected : Trace Step .init [.fire, .tick, .dial true]
      ⟨.selecting, .drained, .connected ::ₘ 0, .uncalled, false⟩ :=
    hdialing.snoc (.dialed rfl (by decide) rfl)
  have hclosed : Trace Step .init [.fire, .tick, .dial true, .close, .stop, .leave, .closed]
      ⟨.returned, .drained, .connected ::ₘ 0, .returned, false⟩ :=
    (((hconnected.snoc (.close rfl rfl)).snoc (.stop rfl rfl (by decide))).snoc
      (.leave rfl rfl)).snoc (.closed rfl rfl rfl)
  have hcalled : Trace Step .init
      [.fire, .tick, .dial true, .close, .stop, .leave, .closed, .setValue]
      ⟨.returned, .drained, .calling ::ₘ 0, .returned, false⟩ :=
    hclosed.snoc (.setValue rfl rfl)
  exact ⟨⟨_, hdialing.snoc (.dialFailed rfl (by simp)), rfl⟩, ⟨_, hcalled, rfl, by simp⟩⟩

end Oim.Registration
