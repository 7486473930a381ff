import Oim.Lib.Slice

/-!
# The simple logger

`pkg/log`: a logger carries key/value pairs, `With` makes another logger that carries more,
and each line shows the pairs of the logger and those of the call.  The pairs are a Go
slice, and `Fields.Clone` is an `append` to it.

* `State.call` — the loggers of one tree, and what the calls on them do.
* `Tree.call` — what they are meant to do: a logger is its list of pairs.
* `perform_shows_iff` — a call does what it is meant to, unless it appends in the middle
  of what another logger carries.
* `loggers_immutable_iff` — the same for all calls, in any order.
-/

namespace Oim.Log

open Go

variable {V : Type}

/-! ## The code -/

/-- `level.Threshold`. -/
inductive Threshold where
  | debug | info | warn | error | fatal | panic
  deriving DecidableEq

namespace Threshold

/-- The number behind the constant. -/
def toNat : Threshold → ℕ
  | debug => 0
  | info => 1
  | warn => 2
  | error => 3
  | fatal => 4
  | panic => 5

/-- `Threshold.String`. -/
def text : Threshold → String
  | debug => "DEBUG"
  | info => "INFO"
  | warn => "WARN"
  | error => "ERROR"
  | fatal => "FATAL"
  | panic => "PANIC"

end Threshold

/-- A key/value pair. -/
structure Field (V : Type) where
  key : V
  value : V

/-- The part of the package `fmt` that is used: how values become text. -/
structure Fmt (V : Type) where
  /-- The verb `%s`. -/
  verb : V → String
  sprint : List V → String
  sprintf : String → List V → String

/-- `Fields.Clone`: what is left over at the end is dropped. -/
def clone (grow : ℕ → ℕ) : Heap (Field V) → Slice → List V → Heap (Field V) × Slice
  | h, f, key :: value :: rest =>
    clone grow (append grow h f ⟨key, value⟩).1 (append grow h f ⟨key, value⟩).2 rest
  | h, f, _ => (h, f)

/-- What `Printw` has collected. -/
structure Parts where
  time : String
  level : String
  places : List String
  additional : List (String × String)

/-- The loop body of `Printw`: the special keys are `time`, `at` and `level`. -/
def Parts.add (F : Fmt V) (p : Parts) (field : Field V) : Parts :=
  match F.verb field.key with
  | "time" => { p with time := F.verb field.value }
  | "at" => { p with places := p.places ++ [F.verb field.value] }
  | "level" => { p with level := F.verb field.value }
  | key => { p with additional := p.additional ++ [(key, F.verb field.value)] }

/-- The second half of `Printw`. -/
def Parts.line (p : Parts) (msg : String) : String :=
  " ".intercalate
    ((if p.time ≠ "" then [p.time] else []) ++ [p.level] ++
      (if p.places ≠ [] then ["/".intercalate p.places ++ ":"] else []) ++
      (if msg ≠ "" then msg :: (if p.additional ≠ [] then ["|"] else []) else []) ++
      p.additional.flatMap fun (key, value) => [key ++ ":", value]) ++ "\n"

/-- The line that shows these pairs. -/
def line (F : Fmt V) (threshold : Threshold) (msg : String) (all : List (Field V)) : String :=
  (all.foldl (Parts.add F) ⟨"", threshold.text, [], []⟩).line msg

/-- `Formatter.Printw`. -/
def printw (F : Fmt V) (grow : ℕ → ℕ) (h : Heap (Field V)) (threshold : Threshold)
    (fields : Slice) (msg : String) (keysAndValues : List V) : Heap (Field V) × String :=
  let all := clone grow h fields keysAndValues
  (all.1, line F threshold msg (read all.1 all.2))

/-- `Formatter.Print`. -/
def print (F : Fmt V) (grow : ℕ → ℕ) (h : Heap (Field V)) (threshold : Threshold)
    (fields : Slice) (args : List V) : Heap (Field V) × String :=
  printw F grow h threshold fields (F.sprint args) []

/-- `Formatter.Printf`. -/
def printf (F : Fmt V) (grow : ℕ → ℕ) (h : Heap (Field V)) (threshold : Threshold)
    (fields : Slice) (format : String) (args : List V) : Heap (Field V) × String :=
  printw F grow h threshold fields (F.sprintf format args) []

/-- `simpleLogger`.  All loggers of a tree write to the same place. -/
structure SimpleLogger where
  /-- `config.Level`. -/
  level : Threshold
  fields : Slice

/-- The process: its memory, the loggers in the order in which they were made, and what
they have written. -/
structure State (V : Type) where
  heap : Heap (Field V)
  loggers : List SimpleLogger
  written : List String
  exited : Bool

/-- `NewSimpleLogger`.  The fields are nil: a slice on an array without room. -/
def newSimpleLogger (level : Threshold) : State V :=
  ⟨[⟨[], 0, le_rfl⟩], [⟨level, ⟨0, 0⟩⟩], [], false⟩

/-- How a call ends. -/
inductive Ending where
  | returns | exits | panics
  deriving DecidableEq

/-- `checkThreshold`. -/
def checkThreshold : Threshold → Ending
  | .fatal => .exits
  | .panic => .panics
  | _ => .returns

/-- The frame of `Output`, `Outputf` and `Outputw`: below the level of the logger nothing is
even formatted.  A panic may be recovered from, so that it does not end the process. -/
def State.emit (s : State V) (sl : SimpleLogger) (threshold : Threshold)
    (printed : Heap (Field V) × String) : State V :=
  let s' := if sl.level.toNat ≤ threshold.toNat then
      { s with heap := printed.1, written := s.written ++ [printed.2] }
    else s
  { s' with exited := checkThreshold threshold = .exits }

/-- `With`. -/
def State.withFields (grow : ℕ → ℕ) (s : State V) (sl : SimpleLogger) (keysAndValues : List V) :
    State V :=
  let fields := clone grow s.heap sl.fields keysAndValues
  { s with heap := fields.1, loggers := s.loggers ++ [⟨sl.level, fields.2⟩] }

/-- The methods of a logger. -/
inductive Method (V : Type) where
  | withFields (keysAndValues : List V)
  | output (threshold : Threshold) (args : List V)
  | outputf (threshold : Threshold) (format : String) (args : List V)
  | outputw (threshold : Threshold) (msg : String) (keysAndValues : List V)

/-- A method is called on a logger. -/
def State.perform (F : Fmt V) (grow : ℕ → ℕ) (s : State V) (sl : SimpleLogger) :
    Method V → State V
  | .withFields keysAndValues => s.withFields grow sl keysAndValues
  | .output threshold args =>
    s.emit sl threshold (print F grow s.heap threshold sl.fields args)
  | .outputf threshold format args =>
    s.emit sl threshold (printf F grow s.heap threshold sl.fields format args)
  | .outputw threshold msg keysAndValues =>
    s.emit sl threshold (printw F grow s.heap threshold sl.fields msg keysAndValues)

/-- A call: the logger is given by its number. -/
structure Call (V : Type) where
  logger : ℕ
  method : Method V

/-- One call, if there is such a logger and the process still lives. -/
def State.call (F : Fmt V) (grow : ℕ → ℕ) (s : State V) (c : Call V) : State V :=
  if s.exited then s else
    match s.loggers[c.logger]? with
    | some sl => s.perform F grow sl c.method
    | none => s

/-- The calls one after the other, on the tree of a new simple logger. -/
def run (F : Fmt V) (grow : ℕ → ℕ) (level : Threshold) (calls : List (Call V)) : State V :=
  calls.foldl (State.call F grow) (newSimpleLogger level)

/-! ## What loggers are for -/

/-- The pairs among the arguments of a call. -/
def pairs : List V → List (Field V)
  | key :: value :: rest => ⟨key, value⟩ :: pairs rest
  | _ => []

/-- A tree of loggers that cannot change: each is the list of the pairs of the `With` calls
on the path from the root to it. -/
structure Tree (V : Type) where
  paths : List (List (Field V))
  written : List String
  exited : Bool

namespace Tree

/-- Writes a line, if the threshold is high enough. -/
def emit (level : Threshold) (t : Tree V) (threshold : Threshold) (line : String) : Tree V where
  paths := t.paths
  written := if level.toNat ≤ threshold.toNat then t.written ++ [line] else t.written
  exited := checkThreshold threshold = .exits

/-- A method is called on the logger with these pairs. -/
def perform (F : Fmt V) (level : Threshold) (t : Tree V) (path : List (Field V)) :
    Method V → Tree V
  | .withFields keysAndValues => { t with paths := t.paths ++ [path ++ pairs keysAndValues] }
  | .output threshold args => t.emit level threshold (line F threshold (F.sprint args) path)
  | .outputf threshold format args =>
    t.emit level threshold (line F threshold (F.sprintf format args) path)
  | .outputw threshold msg keysAndValues =>
    t.emit level threshold (line F threshold msg (path ++ pairs keysAndValues))

def call (F : Fmt V) (level : Threshold) (t : Tree V) (c : Call V) : Tree V :=
  if t.exited then t else
    match t.paths[c.logger]? with
    | some path => t.perform F level path c.method
    | none => t

def run (F : Fmt V) (level : Threshold) (calls : List (Call V)) : Tree V :=
  calls.foldl (call F level) ⟨[[]], [], false⟩

end Tree

/-- The tree that the loggers show. -/
def State.shows (s : State V) : Tree V :=
  ⟨s.loggers.map fun sl => read s.heap sl.fields, s.written, s.exited⟩

/-! ## One call -/

/-- The pairs that a call appends to the fields of a logger of this level. -/
def Method.appended (level : Threshold) : Method V → List (Field V)
  | .withFields keysAndValues => pairs keysAndValues
  | .outputw threshold _ keysAndValues =>
    if level.toNat ≤ threshold.toNat then pairs keysAndValues else []
  | _ => []

/-- The call leaves the other loggers alone: what it appends behind the fields of its logger,
every logger that has more fields in the same array carries there already. -/
def Undisturbed (s : State V) (c : Call V) : Prop :=
  s.exited = false → ∀ sl, s.loggers[c.logger]? = some sl →
    ∀ other ∈ s.loggers, other.fields.array = sl.fields.array →
      ∀ j x y, (c.method.appended sl.level)[j]? = some x →
        (read s.heap other.fields)[sl.fields.len + j]? = some y → x = y

/-- The loggers are those of a tree. -/
def Sound (level : Threshold) (s : State V) : Prop :=
  ∀ sl ∈ s.loggers, sl.level = level ∧ Valid s.heap sl.fields

theorem clone_eq (grow : ℕ → ℕ) (h : Heap (Field V)) (f : Slice) (keysAndValues : List V) :
    clone grow h f keysAndValues = appendAll grow h f (pairs keysAndValues) := by
  induction keysAndValues using pairs.induct generalizing h f with
  | case1 key value rest ih => rw [clone, pairs, appendAll, ih]
  | case2 rest hrest => rw [clone, pairs, appendAll] <;> exact hrest

section Perform

variable {F : Fmt V} {grow : ℕ → ℕ} {level : Threshold} {s : State V} {sl : SimpleLogger}

variable (F grow s sl) in
/-- What every method does to the memory and to the list of loggers. -/
theorem perform_heap (m : Method V) :
    (s.perform F grow sl m).heap =
      (appendAll grow s.heap sl.fields (m.appended sl.level)).1 ∧
    ∃ new, (s.perform F grow sl m).loggers = s.loggers ++ new ∧
      ∀ sl' ∈ new, sl'.level = sl.level ∧
        sl'.fields = (appendAll grow s.heap sl.fields (m.appended sl.level)).2 := by
  cases m with
  | withFields keysAndValues =>
    simp [State.perform, State.withFields, clone_eq, Method.appended]
  | output threshold args =>
    simp only [State.perform, State.emit, Method.appended, print, printw, clone, appendAll]
    split_ifs <;> exact ⟨rfl, [], by simp⟩
  | outputf threshold format args =>
    simp only [State.perform, State.emit, Method.appended, printf, printw, clone, appendAll]
    split_ifs <;> exact ⟨rfl, [], by simp⟩
  | outputw threshold msg keysAndValues =>
    simp only [State.perform, State.emit, Method.appended, printw, clone_eq]
    split_ifs <;> exact ⟨rfl, [], by simp⟩

theorem sound_perform (hs : Sound level s) (hsl : sl ∈ s.loggers) (m : Method V) :
    Sound level (s.perform F grow sl m) := by
  obtain ⟨hheap, new, hloggers, hnew⟩ := perform_heap F grow s sl m
  intro other hother
  rw [hheap]
  rw [hloggers] at hother
  rcases List.mem_append.1 hother with hold | hadded
  · exact ⟨(hs other hold).1, valid_appendAll_other (hs sl hsl).2 (hs other hold).2⟩
  · obtain ⟨hlevel, hfields⟩ := hnew other hadded
    exact ⟨hlevel.trans (hs sl hsl).1, hfields ▸ valid_appendAll (hs sl hsl).2⟩

/-- Apart from the loggers that are there already, a method does what it is meant to. -/
theorem perform_shows (hs : Sound level s) (hsl : sl ∈ s.loggers) (m : Method V) :
    (s.perform F grow sl m).shows = s.shows.perform F level (read s.heap sl.fields) m ↔
      s.loggers.map (fun other => read (s.perform F grow sl m).heap other.fields) =
        s.loggers.map (fun other => read s.heap other.fields) := by
  obtain ⟨rfl, hvalid⟩ := hs sl hsl
  cases m with
  | withFields keysAndValues =>
    simp only [State.perform, State.withFields, State.shows, Tree.perform, clone_eq,
      Tree.mk.injEq, List.map_append, List.map_cons, List.map_nil, and_true,
      read_appendAll hvalid]
    exact List.append_left_inj _
  | output threshold args =>
    simp only [State.perform, State.emit, State.shows, Tree.perform, Tree.emit, print, printw,
      clone, Tree.mk.injEq]
    split_ifs <;> simp
  | outputf threshold format args =>
    simp only [State.perform, State.emit, State.shows, Tree.perform, Tree.emit, printf, printw,
      clone, Tree.mk.injEq]
    split_ifs <;> simp
  | outputw threshold msg keysAndValues =>
    simp only [State.perform, State.emit, State.shows, Tree.perform, Tree.emit, printw,
      clone_eq, Tree.mk.injEq, read_appendAll hvalid]
    split_ifs <;> simp

/-- **A method does what it is meant to if and only if it leaves the others alone.** -/
theorem perform_shows_iff (hs : Sound level s) (hsl : sl ∈ s.loggers) (m : Method V) :
    (s.perform F grow sl m).shows = s.shows.perform F level (read s.heap sl.fields) m ↔
      ∀ other ∈ s.loggers, other.fields.array = sl.fields.array →
        ∀ j x y, (m.appended sl.level)[j]? = some x →
          (read s.heap other.fields)[sl.fields.len + j]? = some y → x = y := by
  rw [perform_shows hs hsl, List.map_inj_left, (perform_heap F grow s sl m).1]
  refine forall₂_congr fun other hother => ?_
  rw [read_appendAll_other (hs sl hsl).2 (hs other hother).2, ← overwrite_eq_self_iff]
  split_ifs with harray <;> simp [harray]

end Perform

/-! ## Many calls -/

section Run

variable {F : Fmt V} {grow : ℕ → ℕ} {level : Threshold} {s : State V}

theorem sound_call (hs : Sound level s) (c : Call V) : Sound level (s.call F grow c) := by
  unfold State.call
  split_ifs with hexited
  · exact hs
  · cases hsl : s.loggers[c.logger]? with
    | none => exact hs
    | some sl => exact sound_perform hs (List.mem_of_getElem? hsl) c.method

theorem call_shows_iff (hs : Sound level s) (c : Call V) :
    (s.call F grow c).shows = s.shows.call F level c ↔ Undisturbed s c := by
  unfold State.call Tree.call Undisturbed
  by_cases hexited : s.exited = true
  · simp [State.shows, hexited]
  · have hpath : s.shows.paths[c.logger]? =
        s.loggers[c.logger]?.map fun sl => read s.heap sl.fields := List.getElem?_map
    have hlives : s.shows.exited = false := by simpa [State.shows] using hexited
    rw [if_neg hexited, hlives, hpath]
    cases hsl : s.loggers[c.logger]? with
    | none => simp
    | some sl =>
      simpa [hexited] using perform_shows_iff hs (List.mem_of_getElem? hsl) c.method

variable (F grow level)

theorem sound_run (calls : List (Call V)) : Sound level (run F grow level calls) := by
  induction calls using List.reverseRecOn with
  | nil =>
    intro sl hsl
    obtain rfl : sl = _ := List.mem_singleton.1 hsl
    exact ⟨rfl, ⟨_, rfl, le_rfl⟩⟩
  | append_singleton calls c ih =>
    rw [run, List.foldl_append]
    exact sound_call ih c

theorem run_append_singleton (calls : List (Call V)) (c : Call V) :
    run F grow level (calls ++ [c]) = (run F grow level calls).call F grow c := by
  simp [run]

theorem Tree.run_append_singleton (calls : List (Call V)) (c : Call V) :
    Tree.run F level (calls ++ [c]) = (Tree.run F level calls).call F level c := by
  simp [Tree.run]

/-- **Loggers are immutable as long as no call appends in the middle of another logger.**
After each of the calls every logger carries the pairs of its path and every line that was
written shows the pairs of the logger and of the call, if and only if each call leaves the
other loggers of its array alone. -/
theorem loggers_immutable_iff (calls : List (Call V)) :
    (∀ done, done <+: calls → (run F grow level done).shows = Tree.run F level done) ↔
      ∀ done c, done ++ [c] <+: calls → Undisturbed (run F grow level done) c := by
  constructor
  · intro himmutable done c hdone
    have hbefore := himmutable done ((List.prefix_append done [c]).trans hdone)
    have hafter := himmutable _ hdone
    rw [run_append_singleton, Tree.run_append_singleton, ← hbefore] at hafter
    exact (call_shows_iff (sound_run F grow level done) c).1 hafter
  · intro hundisturbed done hdone
    induction done using List.reverseRecOn with
    | nil => rfl
    | append_singleton done c ih =>
      have hbefore := ih ((List.prefix_append done [c]).trans hdone)
      rw [run_append_singleton, Tree.run_append_singleton, ← hbefore]
      exact (call_shows_iff (sound_run F grow level done) c).2 (hundisturbed done c hdone)

end Run

/-- Text as values. -/
def plainText : Fmt String := ⟨id, String.join, fun format _ => format⟩

/-- Three pairs in an array for four, as Go's runtime allocates it, and two loggers made from
that one: the first shows the pair of the second. -/
theorem sibling_overwrites :
    let grow : ℕ → ℕ := fun array => if array = 3 then 1 else 0
    let calls : List (Call String) :=
      [⟨0, .withFields ["a", "1", "b", "2", "c", "3"]⟩, ⟨1, .withFields ["x", "4"]⟩,
        ⟨1, .withFields ["y", "5"]⟩, ⟨2, .output .info ["hello"]⟩]
    (run plainText grow .info calls).written = ["INFO hello | a: 1 b: 2 c: 3 y: 5\n"] ∧
      (Tree.run plainText .info calls).written = ["INFO hello | a: 1 b: 2 c: 3 x: 4\n"] := by
  decide +kernel

end Oim.Log
