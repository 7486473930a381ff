import Oim.Spdk.Rpc

/-!
# NBD exports of SPDK

SPDK can make a block device available as a `/dev/nbd*` node of the same host.  The client
side is `pkg/spdk/spdk.go`, the server side `lib/nbd/nbd_rpc.c` of the vendored SPDK.

* `Exports` — which node exports what: a node exports one block device, and has a name.
* `Exports.start`, `stop`, `restrict` — the three ways in which they change, with what they do
  to each node (`on_start`, `on_stop`, `on_restrict`).
* `NbdRpc`, `execNbd` — the calls.
-/

namespace Oim.Spdk

/-- `spdk.StartNBDDiskArgs`, which is also what `get_nbd_disks` lists. -/
structure StartNBDDiskArgs where
  bdevName : String
  nbdDevice : String
  deriving DecidableEq

/-- `spdk.StopNBDDiskArgs`. -/
structure StopNBDDiskArgs where
  nbdDevice : String
  deriving DecidableEq

/-- The registered NBD disks, in the order in which they were started. -/
structure Exports where
  disks : List StartNBDDiskArgs
  nodup : (disks.map StartNBDDiskArgs.nbdDevice).Nodup
  named : ∀ d ∈ disks, d.nbdDevice ≠ ""

namespace Exports

/-- No exports. -/
def empty : Exports := ⟨[], by simp, by simp⟩

/-- What a node exports. -/
def on (e : Exports) (node : String) : Option String :=
  (e.disks.find? (·.nbdDevice = node)).map StartNBDDiskArgs.bdevName

/-- `spdk_nbd_disk_register`. -/
def start (e : Exports) (args : StartNBDDiskArgs) (hne : args.nbdDevice ≠ "")
    (hfree : e.on args.nbdDevice = none) : Exports where
  disks := e.disks ++ [args]
  nodup := by
    rw [List.map_append, List.nodup_append]
    refine ⟨e.nodup, by simp, ?_⟩
    rintro node hnode _ hargs rfl
    obtain ⟨d, hd, rfl⟩ := List.mem_map.1 hnode
    rw [on, Option.map_eq_none_iff, List.find?_eq_none] at hfree
    exact hfree d hd (by simpa using hargs)
  named := by
    intro d hd
    rcases List.mem_append.1 hd with hd | hd
    · exact e.named d hd
    · rw [List.mem_singleton.1 hd]
      exact hne

/-- Keeps the exports for which `p` holds. -/
def restrict (e : Exports) (p : StartNBDDiskArgs → Bool) : Exports where
  disks := e.disks.filter p
  nodup := e.nodup.sublist (List.filter_sublist.map _)
  named d hd := e.named d (List.mem_filter.1 hd).1

/-- `spdk_nbd_disk_unregister`. -/
def stop (e : Exports) (node : String) : Exports := e.restrict (·.nbdDevice ≠ node)

theorem on_eq_some_iff {e : Exports} {node v : String} :
    e.on node = some v ↔ ⟨v, node⟩ ∈ e.disks := by
  rw [on, Option.map_eq_some_iff]
  constructor
  · rintro ⟨d, hd, rfl⟩
    have hnode : d.nbdDevice = node := by simpa using List.find?_some hd
    subst hnode
    exact List.mem_of_find?_eq_some hd
  · intro hmem
    refine ⟨⟨v, node⟩, ?_, rfl⟩
    cases hfind : e.disks.find? (·.nbdDevice = node) with
    | none => exact absurd (List.find?_eq_none.1 hfind _ hmem) (by simp)
    | some d =>
      have hnode : d.nbdDevice = node := by simpa using List.find?_some hfind
      have hd : d ∈ e.disks := List.mem_of_find?_eq_some hfind
      rw [List.inj_on_of_nodup_map e.nodup hd hmem hnode]

theorem on_unnamed (e : Exports) : e.on "" = none := by
  rw [Option.eq_none_iff_forall_ne_some]
  intro v hv
  exact e.named _ (on_eq_some_iff.1 hv) rfl

theorem on_start {e : Exports} {args : StartNBDDiskArgs} {hne : args.nbdDevice ≠ ""}
    {hfree : e.on args.nbdDevice = none} {node v : String} :
    (e.start args hne hfree).on node = some v ↔
      e.on node = some v ∨ (node = args.nbdDevice ∧ v = args.bdevName) := by
  simp only [on_eq_some_iff, start, List.mem_append, List.mem_singleton]
  refine or_congr_right ?_
  constructor
  · rintro rfl
    exact ⟨rfl, rfl⟩
  · rintro ⟨rfl, rfl⟩
    rfl

theorem on_restrict {e : Exports} {p : StartNBDDiskArgs → Bool} {node v : String} :
    (e.restrict p).on node = some v ↔ e.on node = some v ∧ p ⟨v, node⟩ = true := by
  simp only [on_eq_some_iff, restrict, List.mem_filter]

theorem on_stop {e : Exports} {node node' v : String} :
    (e.stop node).on node' = some v ↔ e.on node' = some v ∧ node' ≠ node := by
  simp [stop, on_restrict]

end Exports

/-! ## The calls -/

/-- The methods. -/
inductive NbdRpc where
  | getNBDDisks
  | startNBDDisk (args : StartNBDDiskArgs)
  | stopNBDDisk (args : StopNBDDiskArgs)
  deriving DecidableEq

/-- What a method returns when there is no error. -/
def NbdRpc.Result : NbdRpc → Type
  | .getNBDDisks => List StartNBDDiskArgs
  | .startNBDDisk _ => Unit
  | .stopNBDDisk _ => Unit

/-- `start_nbd_disk`: the node must be free, and one that can be opened; and the block device
must exist. -/
def execStart (s : State) (e : Exports) (args : StartNBDDiskArgs) : Except String Unit × Exports :=
  if hne : args.nbdDevice = "" then (.error (invalidParams "Invalid parameters"), e)
  else if hfree : e.on args.nbdDevice = none then
    if (s.bdev? args.bdevName).isSome then (.ok (), e.start args hne hfree)
    else (.error (invalidParams "Invalid parameters"), e)
  else (.error (invalidParams "Invalid parameters"), e)

theorem execStart_cases (s : State) (e : Exports) (args : StartNBDDiskArgs) :
    (∃ hne hfree, execStart s e args = (.ok (), e.start args hne hfree)) ∨
      ∃ err, execStart s e args = (.error err, e) := by
  by_cases hne : args.nbdDevice = ""
  · exact .inr ⟨_, by rw [execStart, dif_pos hne]⟩
  · by_cases hfree : e.on args.nbdDevice = none
    · rw [execStart, dif_neg hne, dif_pos hfree]
      split_ifs with hbdev
      · exact .inl ⟨hne, hfree, rfl⟩
      · exact .inr ⟨_, rfl⟩
    · exact .inr ⟨_, by rw [execStart, dif_neg hne, dif_neg hfree]⟩

/-- `stop_nbd_disk`. -/
def execStop (e : Exports) (args : StopNBDDiskArgs) : Except String Unit × Exports :=
  match e.on args.nbdDevice with
  | none => (.error (invalidParams "Invalid parameters"), e)
  | some _ => (.ok (), e.stop args.nbdDevice)

theorem execStop_cases (e : Exports) (args : StopNBDDiskArgs) :
    ((e.on args.nbdDevice).isSome ∧ execStop e args = (.ok (), e.stop args.nbdDevice)) ∨
      (e.on args.nbdDevice = none ∧ ∃ err, execStop e args = (.error err, e)) := by
  unfold execStop
  cases e.on args.nbdDevice with
  | none => exact .inr ⟨rfl, _, rfl⟩
  | some v => exact .inl ⟨rfl, rfl⟩

/-- What each method does on a daemon that works, with the block devices of `s`. -/
def execNbd (s : State) (e : Exports) : (q : NbdRpc) → Except String q.Result × Exports
  | .getNBDDisks => (.ok e.disks, e)
  | .startNBDDisk args => execStart s e args
  | .stopNBDDisk args => execStop e args

end Oim.Spdk
