import Oim.Csi.EndToEnd

/-!
# Do the two backends behave alike?

Both backends keep a table of volumes with their sizes.  That table is the
abstract model here (`Table`); it leaves open which existing volume is good enough
for a request, because that is where the backends differ: the local one takes any
volume that is large enough, the remote one only a volume of exactly the size it
would have made itself.

* `performAll_refines` — on an SPDK that works, a backend **is** the table with its
  own rule (`Backend.reuses`), over whole sequences of calls.
* `backends_agree` — hence the volumes and sizes are always the same with both, and
  so is every outcome, except where the local rule takes an existing volume and the
  remote one does not.
-/

namespace Oim.Csi

open Interaction
open Spdk (Client State Disk server ConstructRBDBDevArgs)

/-! ## Calls and outcomes -/

/-- A call of `OIMBackend`. -/
inductive VolumeCall where
  | createVolume (volumeID : String) (requiredBytes : Int64)
  | deleteVolume (volumeID : String)
  | checkVolumeExists (volumeID : String)
  deriving DecidableEq

/-- The calls that the CSI handlers make of sensible requests: with a name, and
without negative sizes. -/
def VolumeCall.Valid : VolumeCall → Prop
  | .createVolume v r => v ≠ "" ∧ 0 ≤ r.toInt
  | .deleteVolume v => v ≠ ""
  | .checkVolumeExists v => v ≠ ""

instance : DecidablePred VolumeCall.Valid
  | .createVolume v r => inferInstanceAs (Decidable (v ≠ "" ∧ 0 ≤ r.toInt))
  | .deleteVolume v => inferInstanceAs (Decidable (v ≠ ""))
  | .checkVolumeExists v => inferInstanceAs (Decidable (v ≠ ""))

/-- The outcome of a call: a capacity, plain success, or an error. -/
inductive Outcome where
  | capacity (c : ℤ)
  | done
  | failed
  deriving DecidableEq

def Outcome.ofCapacity : Option ℤ → Outcome
  | some c => .capacity c
  | none => .failed

def Outcome.ofUnit : Except Status Unit → Outcome
  | .ok () => .done
  | .error _ => .failed

/-- One call on a backend. -/
def Backend.perform (b : Backend) : VolumeCall → Client Outcome
  | .createVolume v r => return .ofCapacity (capacity (← b.createVolume v r))
  | .deleteVolume v => return .ofUnit (← b.deleteVolume v)
  | .checkVolumeExists v => return .ofUnit (← b.checkVolumeExists v)

/-- A sequence of calls on an SPDK that works: the outcomes, and SPDK afterwards. -/
def Backend.performAll (b : Backend) (images : ConstructRBDBDevArgs → Option UInt64) :
    List VolumeCall → State → List Outcome × State
  | [], s => ([], s)
  | call :: calls, s =>
    let out := (b.perform call).run (server images) s
    let rest := b.performAll images calls out.2
    (out.1 :: rest.1, rest.2)

/-! ## The table of volumes -/

/-- The size of each volume. -/
abbrev Table : Type := String → Option ℤ

/-- A call on the table.  `reuses c r` says whether an existing volume of `c` bytes
is taken for a request of `r` bytes. -/
def Table.step (reuses : ℤ → ℤ → Bool) (t : Table) : VolumeCall → Outcome × Table
  | .createVolume v r =>
    match t v with
    | some c => (if reuses c r.toInt then .capacity c else .failed, t)
    | none =>
      if r.toInt < 2 ^ 40 then
        (.capacity (512 * blocksFor r.toInt), Function.update t v (some (512 * blocksFor r.toInt)))
      else (.failed, t)
  | .deleteVolume v => (.done, Function.update t v none)
  | .checkVolumeExists v => (if (t v).isSome then .done else .failed, t)

/-- A sequence of calls on the table. -/
def Table.steps (reuses : ℤ → ℤ → Bool) : List VolumeCall → Table → List Outcome × Table
  | [], t => ([], t)
  | call :: calls, t =>
    let out := t.step reuses call
    let rest := Table.steps reuses calls out.2
    (out.1 :: rest.1, rest.2)

/-- The rule does not matter for what is in the table. -/
theorem Table.step_table (reuses reuses' : ℤ → ℤ → Bool) (t : Table) (call : VolumeCall) :
    (t.step reuses call).2 = (t.step reuses' call).2 := by
  cases call with
  | createVolume v r =>
    simp only [Table.step]
    cases t v <;> rfl
  | deleteVolume v => rfl
  | checkVolumeExists v => rfl

theorem Table.steps_table (reuses reuses' : ℤ → ℤ → Bool) (calls : List VolumeCall) (t : Table) :
    (Table.steps reuses calls t).2 = (Table.steps reuses' calls t).2 := by
  induction calls generalizing t with
  | nil => rfl
  | cons call calls ih =>
    simp only [Table.steps, Table.step_table reuses reuses' t call]
    exact ih _

/-- The rule matters for `createVolume` of a volume that exists. -/
theorem Table.step_outcome {reuses reuses' : ℤ → ℤ → Bool} {t : Table} {call : VolumeCall}
    (h : ∀ v r c, call = .createVolume v r → t v = some c →
      reuses c r.toInt = reuses' c r.toInt) :
    (t.step reuses call).1 = (t.step reuses' call).1 := by
  cases call with
  | createVolume v r =>
    simp only [Table.step]
    cases hc : t v with
    | none => rfl
    | some c =>
      simp only
      rw [h v r c rfl hc]
  | deleteVolume v => rfl
  | checkVolumeExists v => rfl

/-! ## A backend is the table -/

variable {images : ConstructRBDBDevArgs → Option UInt64} {s : State}

/-- The volumes of an SPDK with their sizes. -/
def volumes (s : State) : Table := fun v => (s.bdev? v).map fun d => (d.bytes : ℤ)

/-- All BDevs have sizes that `createVolume` gives. -/
def Managed (s : State) : Prop := ∀ v d, s.bdev? v = some d → WellSized d

theorem managed_of_empty (h : s.bdevs = []) : Managed s := by
  intro v d hd
  simp [State.bdev?, h] at hd

theorem volumes_update {s' : State} {v : String} {x : Option Disk}
    (h : ∀ n, s'.bdev? n = if n = v then x else s.bdev? n) :
    volumes s' = Function.update (volumes s) v (x.map fun d => (d.bytes : ℤ)) := by
  funext n
  rw [Function.update_apply]
  unfold volumes
  rw [h]
  split_ifs <;> rfl

theorem Managed.update {s' : State} {v : String} {x : Option Disk} (hm : Managed s)
    (h : ∀ n, s'.bdev? n = if n = v then x else s.bdev? n) (hx : ∀ d, x = some d → WellSized d) :
    Managed s' := by
  intro n d hd
  rw [h] at hd
  split_ifs at hd
  · exact hx d hd
  · exact hm n d hd

/-- `deleteVolume` deletes, with both backends. -/
theorem run_deleteVolume {b : Backend} (hb : b.Works) {v : String} (hne : v ≠ "") :
    (b.deleteVolume v).run (server images) s = (.ok (), s.deleteBDev v) := by
  cases b with
  | localSPDK connectErr =>
    obtain rfl : connectErr = none := hb
    show (Local.deleteVolume v).run (server images) s = _
    simp only [Local.deleteVolume, Prog.bind_eq, Client.run_deleteBDev, Spdk.execDelete]
    cases hd : s.bdev? v with
    | none =>
      have hjson : Spdk.isJSONError (Spdk.invalidParams "Invalid parameters")
          Spdk.errorInvalidParams = true := by decide
      simp only [hjson, Bool.true_eq_false, if_false, State.deleteBDev_of_none hd]
      rfl
    | some d => rfl
  | remoteSPDK link c =>
    obtain ⟨rfl, hconn⟩ := hb
    exact run_provision_zero hne hconn

/-- `checkVolumeExists` looks for the BDev, with both backends. -/
theorem run_checkVolumeExists {b : Backend} (hb : b.Works) {v : String} (hne : v ≠ "")
    (hm : Managed s) : (b.checkVolumeExists v).run (server images) s =
      (if (s.bdev? v).isSome then .ok () else .error ⟨.notFound, ""⟩, s) := by
  have hlocal : (Local.checkVolumeExists v).run (server images) s =
      (if (s.bdev? v).isSome then .ok () else .error ⟨.notFound, ""⟩, s) := by
    simp only [Local.checkVolumeExists, Prog.bind_eq, Client.run_getBDevs]
    cases hd : s.bdev? v with
    | none =>
      obtain ⟨e, he, -⟩ := getBDevs_none hne hd
      rw [he]
      rfl
    | some d =>
      obtain ⟨bd, hbd, -⟩ := getBDevs_wellSized hne hd (hm v d hd)
      rw [hbd]
      rfl
  cases b with
  | localSPDK connectErr =>
    obtain rfl : connectErr = none := hb
    exact hlocal
  | remoteSPDK link c =>
    obtain ⟨rfl, hconn⟩ := hb
    -- the controller's check is the local one
    show (c.checkMallocBDev v).run (server images) s = _
    rw [Controller.checkMallocBDev, Controller.checkName_eq_none.2 ⟨hne, hconn⟩]
    exact hlocal

variable (images) in
theorem perform_createVolume_refines {b : Backend} (hb : b.Works) {v : String} {r : Int64}
    (hne : v ≠ "") (h₀ : 0 ≤ r.toInt) (hm : Managed s) :
    Managed ((b.perform (.createVolume v r)).run (server images) s).2 ∧
      (((b.perform (.createVolume v r)).run (server images) s).1,
        volumes ((b.perform (.createVolume v r)).run (server images) s).2) =
      (volumes s).step b.reuses (.createVolume v r) := by
  simp only [Backend.perform, Prog.bind_eq, Prog.run_bind, Prog.pure_eq, Prog.run_ret, Table.step]
  cases hd : s.bdev? v with
  | some d =>
    obtain ⟨hstate, hcap⟩ := run_createVolume_some images hb hne hd (hm v d hd) h₀
    have hsize : volumes s v = some (d.bytes : ℤ) := by simp [volumes, hd]
    rw [hstate, hcap, hsize]
    refine ⟨hm, Prod.ext ?_ rfl⟩
    simp only
    split_ifs <;> rfl
  | none =>
    have hsize : volumes s v = none := by simp [volumes, hd]
    rw [hsize]
    simp only
    by_cases hr : r.toInt < 2 ^ 40
    · rw [run_createVolume_none hb hne hd h₀ hr, if_pos hr]
      refine ⟨hm.update (bdev?_newDisk hd) ?_, Prod.ext ?_ ?_⟩
      · rintro d ⟨⟩
        exact wellSized_newDisk h₀ hr
      · exact congrArg Outcome.capacity (toInt_roundCapacity hr)
      · rw [volumes_update (bdev?_newDisk hd), Option.map_some, bytes_newDisk h₀ hr]
    · obtain ⟨hstate, hcap⟩ := run_createVolume_large images hb hne hd (not_lt.1 hr)
      rw [hstate, hcap, if_neg hr]
      exact ⟨hm, rfl⟩

variable (images) in
/-- **One call refines one step of the table.** -/
theorem perform_refines {b : Backend} (hb : b.Works) {call : VolumeCall} (hv : call.Valid)
    (hm : Managed s) :
    Managed ((b.perform call).run (server images) s).2 ∧
      (((b.perform call).run (server images) s).1,
        volumes ((b.perform call).run (server images) s).2) = (volumes s).step b.reuses call := by
  cases call with
  | createVolume v r => exact perform_createVolume_refines images hb hv.1 hv.2 hm
  | deleteVolume v =>
    have hdel : ∀ n, (s.deleteBDev v).bdev? n = if n = v then none else s.bdev? n :=
      State.bdev?_deleteBDev s v
    simp only [Backend.perform, Prog.bind_eq, Prog.run_bind, Prog.pure_eq, Prog.run_ret,
      run_deleteVolume hb hv, Table.step]
    refine ⟨hm.update hdel (by simp), Prod.ext rfl ?_⟩
    exact volumes_update hdel
  | checkVolumeExists v =>
    simp only [Backend.perform, Prog.bind_eq, Prog.run_bind, Prog.pure_eq, Prog.run_ret,
      run_checkVolumeExists hb hv hm, Table.step]
    refine ⟨hm, Prod.ext ?_ rfl⟩
    cases hd : s.bdev? v with
    | none => simp [volumes, hd, Outcome.ofUnit]
    | some d => simp [volumes, hd, Outcome.ofUnit]

variable (images) in
/-- **A backend is the table with its own rule**, over whole sequences of calls. -/
theorem performAll_refines {b : Backend} (hb : b.Works) {calls : List VolumeCall}
    (hv : ∀ call ∈ calls, call.Valid) (hm : Managed s) :
    Managed (b.performAll images calls s).2 ∧
      ((b.performAll images calls s).1, volumes (b.performAll images calls s).2) =
        Table.steps b.reuses calls (volumes s) := by
  induction calls generalizing s with
  | nil => exact ⟨hm, rfl⟩
  | cons call calls ih =>
    obtain ⟨hm₁, hstep⟩ := perform_refines images hb (hv call List.mem_cons_self) hm
    obtain ⟨hm₂, hrest⟩ := ih (fun x hx => hv x (List.mem_cons_of_mem _ hx)) hm₁
    refine ⟨hm₂, ?_⟩
    simp only [Backend.performAll, Table.steps, ← hstep, ← hrest]

/-! ## The two backends -/

/-- An existing volume that only the local backend takes: it is large enough, but
not of the size that the remote one would have made. -/
def OnlyLocal (size required : ℤ) : Prop :=
  required ≤ size ∧ ¬ (required < 2 ^ 40 ∧ size = 512 * blocksFor required)

theorem reuses_eq_of_not_onlyLocal (c : Controller) {size required : ℤ}
    (h : ¬ OnlyLocal size required) :
    (Backend.localSPDK none).reuses size required =
      (Backend.remoteSPDK .up c).reuses size required := by
  refine decide_eq_decide.2 ⟨fun hle => ?_, ?_⟩
  · by_contra hne
    exact h ⟨hle, hne⟩
  · rintro ⟨-, rfl⟩
    exact le_blocksFor required

/-- **When the two backends agree.**  On an SPDK that is empty at first and works,
the same calls lead to the same volumes with the same sizes.  The next call has the
same outcome as well, unless it is a `createVolume` of a volume that exists and that
only the local backend takes: then the local one succeeds and the remote one fails. -/
theorem backends_agree (images : ConstructRBDBDevArgs → Option UInt64) (c : Controller)
    (hconn : c.connected = true) (s : State) (hempty : s.bdevs = []) (before : List VolumeCall)
    (call : VolumeCall) (hvalid : ∀ x ∈ before, x.Valid) (hcall : call.Valid) :
    let l := (Backend.localSPDK none).performAll images before s
    let m := (Backend.remoteSPDK .up c).performAll images before s
    let l' := ((Backend.localSPDK none).perform call).run (server images) l.2
    let m' := ((Backend.remoteSPDK .up c).perform call).run (server images) m.2
    volumes l.2 = volumes m.2 ∧ volumes l'.2 = volumes m'.2 ∧
      ((∀ v r size, call = .createVolume v r → volumes l.2 v = some size →
          ¬ OnlyLocal size r.toInt) → l'.1 = m'.1) ∧
      ∀ v r size, call = .createVolume v r → volumes l.2 v = some size →
        OnlyLocal size r.toInt → l'.1 = .capacity size ∧ m'.1 = .failed := by
  intro l m l' m'
  have hworks : (Backend.localSPDK none).Works := rfl
  have hworks' : (Backend.remoteSPDK .up c).Works := ⟨rfl, hconn⟩
  obtain ⟨hml, hl⟩ := performAll_refines images hworks hvalid (managed_of_empty hempty)
  obtain ⟨hmm, hm⟩ := performAll_refines images hworks' hvalid (managed_of_empty hempty)
  have hl' := (perform_refines images hworks hcall hml).2
  have hm' := (perform_refines images hworks' hcall hmm).2
  -- the tables are equal, as the rule for existing volumes does not change them
  have hsame : volumes l.2 = volumes m.2 :=
    (congrArg Prod.snd hl).trans ((Table.steps_table _ _ _ _).trans (congrArg Prod.snd hm).symm)
  have hout : l'.1 = ((volumes l.2).step (Backend.localSPDK none).reuses call).1 :=
    congrArg Prod.fst hl'
  have hout' : m'.1 = ((volumes l.2).step (Backend.remoteSPDK .up c).reuses call).1 := by
    rw [hsame]
    exact congrArg Prod.fst hm'
  refine ⟨hsame, ?_, ?_, ?_⟩
  · calc volumes l'.2
        = ((volumes l.2).step (Backend.localSPDK none).reuses call).2 := congrArg Prod.snd hl'
      _ = ((volumes m.2).step (Backend.remoteSPDK .up c).reuses call).2 := by
        rw [hsame]
        exact Table.step_table _ _ _ _
      _ = volumes m'.2 := (congrArg Prod.snd hm').symm
  · intro hnot
    rw [hout, hout']
    refine Table.step_outcome fun v r size hc hv => ?_
    exact reuses_eq_of_not_onlyLocal c (hnot v r size hc hv)
  · rintro v r size rfl hv hlocal
    rw [hout, hout']
    simp only [Table.step, hv, Backend.reuses, decide_eq_true hlocal.1, decide_eq_false hlocal.2]
    exact ⟨rfl, rfl⟩

/-- A volume of 1024 bytes is taken for 512 bytes by the local backend only, and
only the local backend makes a volume without a name. -/
theorem backends_differ_vol :
    (((Backend.localSPDK none).performAll (fun _ => none)
        [.createVolume "vol" 1024, .createVolume "vol" 512] (State.fresh "vhost.0")).1 =
      [.capacity 1024, .capacity 1024] ∧
    ((Backend.remoteSPDK .up Controller.configured).performAll (fun _ => none)
        [.createVolume "vol" 1024, .createVolume "vol" 512] (State.fresh "vhost.0")).1 =
      [.capacity 1024, .failed]) ∧
    volumes ((Backend.localSPDK none).performAll (fun _ => none)
        [.createVolume "" 1024] (State.fresh "vhost.0")).2 "Malloc0" = some 1024 ∧
    volumes ((Backend.remoteSPDK .up Controller.configured).performAll (fun _ => none)
        [.createVolume "" 1024] (State.fresh "vhost.0")).2 "Malloc0" = none := by
  decide

theorem backends_agree_vol :
    let l := (Backend.localSPDK none).performAll (fun _ => none)
      [.createVolume "vol" 1000, .deleteVolume "vol"] (State.fresh "vhost.0")
    let m := (Backend.remoteSPDK .up Controller.configured).performAll (fun _ => none)
      [.createVolume "vol" 1000, .deleteVolume "vol"] (State.fresh "vhost.0")
    volumes l.2 = volumes m.2 ∧
      (((Backend.localSPDK none).perform (.checkVolumeExists "vol")).run
          (server fun _ => none) l.2).1 =
        (((Backend.remoteSPDK .up Controller.configured).perform (.checkVolumeExists "vol")).run
          (server fun _ => none) m.2).1 := by
  obtain ⟨hsame, -, hout, -⟩ := backends_agree (fun _ => none) Controller.configured rfl
    (State.fresh "vhost.0") rfl [.createVolume "vol" 1000, .deleteVolume "vol"]
    (.checkVolumeExists "vol") (by decide) (by decide)
  exact ⟨hsame, hout (fun _ _ _ h => nomatch h)⟩

end Oim.Csi
