import Oim.Controller.Exclusive
import Oim.Csi.Size
import Oim.Lib.Linear

/-!
# Malloc BDevs as an atomic map

`ProvisionMallocBDev` and `CheckMallocBDev` look before they act, with other calls
in between, and take any error of SPDK for "not there".  On an SPDK that works
they are nevertheless atomic operations on a map from names to sizes.

* `MapStep` — that map, one rule for each case of the two calls.
* `commits_provision`, `commits_check` — the request at which a call takes effect:
  `ConstructMallocBDev` or `DeleteBDev` for a call that changes something, the
  `GetBDevs` before it for one that does not.
* `provision_linearizes` — every interleaving is equivalent to a sequential order
  of the calls.
-/

namespace Oim.Controller

open Interaction
open Spdk (Client Rpc State Disk server ConstructRBDBDevArgs getBDevs execMalloc execDelete)

/-! ## The map -/

/-- Sizes in bytes by name. -/
abbrev Sizes : Type := String → Option ℕ

/-- The block devices of a daemon as a map. -/
def sizes (s : State) : Sizes := fun n => (s.bdev? n).map Disk.bytes

/-- One call on the map: the call, the map before, the answer, the map after. -/
inductive MapStep : Request → Sizes → Answer → Sizes → Prop where
  | insert {n : String} {size : Int64} {m : Sizes} : n ≠ "" → 0 < size.toInt → m n = none →
      MapStep (.provisionMallocBDev n size) m (.done (.ok ()))
        (Function.update m n (some size.toInt.toNat))
  | keep {n : String} {size : Int64} {m : Sizes} : n ≠ "" → 0 < size.toInt →
      m n = some size.toInt.toNat → MapStep (.provisionMallocBDev n size) m (.done (.ok ())) m
  | conflict {n : String} {size : Int64} {m : Sizes} {actual : ℕ} : n ≠ "" → 0 < size.toInt →
      m n = some actual → actual ≠ size.toInt.toNat →
      MapStep (.provisionMallocBDev n size) m (.done (.error ⟨.alreadyExists,
        "Existing BDev " ++ n ++ " has wrong size " ++ toString actual⟩)) m
  | remove {n : String} {m : Sizes} : n ≠ "" →
      MapStep (.provisionMallocBDev n 0) m (.done (.ok ())) (Function.update m n none)
  | present {n : String} {m : Sizes} {size : ℕ} : n ≠ "" → m n = some size →
      MapStep (.checkMallocBDev n) m (.done (.ok ())) m
  | absent {n : String} {m : Sizes} : n ≠ "" → m n = none →
      MapStep (.checkMallocBDev n) m (.done (.error ⟨.notFound, ""⟩)) m
  /-- The empty string is no name. -/
  | provisionUnnamed {size : Int64} {m : Sizes} :
      MapStep (.provisionMallocBDev "" size) m (.done (.error (.new "empty BDev name"))) m
  | checkUnnamed {m : Sizes} :
      MapStep (.checkMallocBDev "") m (.done (.error (.new "empty BDev name"))) m

/-- The calls that the map is about: sizes are non-negative multiples of 512. -/
def MapCall : Request → Prop
  | .provisionMallocBDev _ size => 0 ≤ size.toInt ∧ 512 ∣ size.toInt
  | .checkMallocBDev _ => True
  | _ => False

/-- A Malloc BDev: its bytes are in memory, so their number is an `int64`. -/
def InMemory (d : Disk) : Prop := d.isMalloc = true ∧ 0 < d.bytes ∧ d.bytes < 2 ^ 63

/-- SPDK holds only Malloc BDevs. -/
def MallocOnly (s : State) : Prop := ∀ d ∈ s.bdevs, InMemory d

/-! ## What the requests do to the map -/

section Requests

variable {s : State} {v : String} {d : Disk} {size : Int64}

theorem InMemory.blockcnt_lt (h : InMemory d) : d.blockcnt.toNat < 2 ^ 63 := by
  have hpos := h.2.1
  have hlt := h.2.2
  unfold Disk.bytes at hpos hlt
  have hlen : 0 < d.blocklen.toNat := Nat.pos_of_mul_pos_right hpos
  exact lt_of_le_of_lt (Nat.le_mul_of_pos_left _ hlen) hlt

theorem MallocOnly.inMemory (h : MallocOnly s) (hd : s.bdev? v = some d) : InMemory d :=
  h d (List.mem_of_find?_eq_some hd)

/-- `GetBDevs` finds what is in the map, with its size. -/
theorem MallocOnly.getBDevs_some (h : MallocOnly s) (hne : v ≠ "") (hd : s.bdev? v = some d) :
    ∃ b, getBDevs s v = .ok [b] ∧ (b.numBlocks * b.blockSize).toInt = d.bytes := by
  have hmem := h.inMemory hd
  obtain ⟨b, hb, hsize⟩ := Csi.getBDevs_sized hne hd hmem.blockcnt_lt hmem.2.2
  exact ⟨b, hb, by rw [Int64.mul_comm]; exact hsize⟩

theorem sizes_of_none (h : s.bdev? v = none) : sizes s v = none := by
  rw [sizes, h, Option.map_none]

theorem sizes_of_some (h : s.bdev? v = some d) : sizes s v = some d.bytes := by
  rw [sizes, h, Option.map_some]

theorem sizes_addBDev (hd : s.bdev? d.name = none) :
    sizes (s.addBDev d hd) = Function.update (sizes s) d.name (some d.bytes) := by
  funext n
  unfold sizes
  rw [State.bdev?_addBDev, Function.update_apply]
  split_ifs <;> rfl

theorem sizes_deleteBDev (s : State) (v : String) :
    sizes (s.deleteBDev v) = Function.update (sizes s) v none := by
  funext n
  unfold sizes
  rw [State.bdev?_deleteBDev, Function.update_apply]
  split_ifs <;> rfl

/-- `ConstructMallocBDev` inserts the size into the map. -/
theorem execMalloc_free (hne : v ≠ "") (hnone : s.bdev? v = none) (hpos : 0 < size.toInt)
    (hdvd : 512 ∣ size.toInt) : ∃ d hd, InMemory d ∧
      execMalloc s ⟨size / 512, 512, v⟩ = (.ok v, s.addBDev d hd) ∧
      sizes (s.addBDev d hd) = Function.update (sizes s) v (some size.toInt.toNat) := by
  have hblocks := Csi.mul_toInt_div_512 hdvd
  have hlt := size.toInt_lt
  have hb : 0 < (size / 512).toInt := by omega
  have hlen : 0 ≤ (512 : Int64).toInt ∧ (512 : Int64).toInt < 2 ^ 32 := by decide
  let d : Disk := ⟨v, Spdk.mallocProduct, UInt32.ofNat (512 : Int64).toInt.toNat,
    UInt64.ofNat (size / 512).toInt.toNat⟩
  have hd : s.bdev? d.name = none := hnone
  have hbytes : (d.bytes : ℤ) = size.toInt :=
    (Csi.bytes_of_construct rfl rfl hb).trans hblocks
  refine ⟨d, hd, ⟨rfl, by omega, by omega⟩, ?_, ?_⟩
  · simp only [execMalloc, if_pos (And.intro hb hlen), Spdk.mallocName, if_neg hne]
    exact dif_pos hd
  · rw [sizes_addBDev, show d.bytes = size.toInt.toNat by omega]

/-- `DeleteBDev` removes the name from the map, whether it was there or not. -/
theorem sizes_execDelete (s : State) (v : String) :
    sizes (execDelete s v).2 = Function.update (sizes s) v none := by
  unfold execDelete
  cases hb : s.bdev? v with
  | some d => exact sizes_deleteBDev s v
  | none =>
    rw [eq_comm, Function.update_eq_self_iff]
    exact (sizes_of_none hb).symm

theorem MallocOnly.addBDev (h : MallocOnly s) (hd : s.bdev? d.name = none) (hmem : InMemory d) :
    MallocOnly (s.addBDev d hd) := by
  intro d' hd'
  rcases List.mem_append.1 hd' with hd' | hd'
  · exact h d' hd'
  · rw [List.mem_singleton.1 hd']
    exact hmem

theorem MallocOnly.deleteBDev (h : MallocOnly s) (v : String) : MallocOnly (s.deleteBDev v) :=
  fun d' hd' => h d' (List.mem_of_mem_filter hd')

end Requests

/-! ## The calls -/

variable {c : Controller} {images : ConstructRBDBDevArgs → Option UInt64} {H : Type}

/-- SPDK keeps holding only Malloc BDevs. -/
theorem MallocOnly.step {req : Request} {s s' : State} {q : Rpc} {r : q.Reply}
    (hreq : MapCall req) (hmay : Issues c req s q)
    (hstep : (server images).working.Step q s r s') (h : MallocOnly s) : MallocOnly s' := by
  obtain ⟨-, rfl⟩ := Server.working_step.1 hstep
  cases hmay with
  | getBDevs => exact h
  | getVHostControllers => exact h
  | constructRBDBDev _ _ => exact hreq.elim
  | addVHostSCSILUN _ => exact hreq.elim
  | removeVHostSCSITarget _ => exact hreq.elim
  | deleteMapped _ _ => exact hreq.elim
  | @deleteBDev v =>
    show MallocOnly (execDelete s v).2
    unfold execDelete
    cases s.bdev? v with
    | none => exact h
    | some d => exact h.deleteBDev v
  | @constructMallocBDev v size _ hne hsize =>
    have hne0 : size.toInt ≠ 0 := fun h0 => hsize (Int64.toInt_inj.1 h0)
    have hpos : 0 < size.toInt := lt_of_le_of_ne hreq.1 (Ne.symm hne0)
    show MallocOnly (execMalloc s ⟨size / 512, 512, v⟩).2
    by_cases hnone : s.bdev? v = none
    · obtain ⟨d, hd, hmem, hexec, -⟩ := execMalloc_free hne hnone hpos hreq.2
      rw [hexec]
      exact h.addBDev hd hmem
    · -- the name is in use, so SPDK refuses
      simp only [execMalloc, Spdk.mallocName, if_neg hne, Spdk.register]
      split_ifs <;> exact h

/-- The outline of a call on the map, with its effect still to come. -/
abbrev MapOutline (images : ConstructRBDBDevArgs → Option UInt64) (req : Request)
    (p : Client (Except Status Unit)) (s : State) : Prop :=
  p.Commits (server images).working (Same req.key) MallocOnly sizes
    (fun m r m' => MapStep req m (.done r) m') none s

/-- A call that has looked for the BDev: it has taken effect with that, or not yet. -/
theorem commits_getBDevs {req : Request} {name : String}
    {f : Except String (List Spdk.BDev) → Client (Except Status Unit)} {s : State}
    (h : ∀ s', MallocOnly s' → MapOutline images req (f (getBDevs s' name)) s' ∨
      ∃ r, MapStep req (sizes s') (.done r) (sizes s') ∧
        (f (getBDevs s' name)).Commits (server images).working (Same req.key) MallocOnly sizes
          (fun m r m' => MapStep req m (.done r) m') (some r) s') :
    MapOutline images req ((Client.getBDevs name).bind f) s := by
  refine Prog.commits_working fun s' _ hinv => ?_
  rcases h s' hinv with hlater | ⟨r, hstep, hnow⟩
  · exact .inl ⟨rfl, hlater⟩
  · exact .inr ⟨r, rfl, hstep, hnow⟩

/-- A call that takes effect when it makes the BDev. -/
theorem commits_constructMallocBDev {req : Request} {args : Spdk.ConstructBDevArgs}
    {f : Except String String → Client (Except Status Unit)} {s : State}
    (h : ∀ s', Same req.key s s' → ∃ r, MapStep req (sizes s') (.done r)
        (sizes (execMalloc s' args).2) ∧
      (f (execMalloc s' args).1).Commits (server images).working (Same req.key) MallocOnly sizes
        (fun m r m' => MapStep req m (.done r) m') (some r) (execMalloc s' args).2) :
    MapOutline images req ((Client.constructMallocBDev args).bind f) s := by
  refine Prog.commits_working fun s' hsame _ => ?_
  obtain ⟨r, hstep, hnow⟩ := h s' hsame
  exact .inr ⟨r, rfl, hstep, hnow⟩

/-- `CheckMallocBDev` takes effect with its only request. -/
theorem commits_check {v : String} (hne : v ≠ "") (s : State) :
    MapOutline images (.checkMallocBDev v) (checkMallocBDevLocked v) s := by
  refine commits_getBDevs fun s' hinv => .inr ?_
  cases hb : s'.bdev? v with
  | none =>
    rw [Spdk.getBDevs_named hne, hb]
    exact ⟨_, .absent hne (sizes_of_none hb), rfl⟩
  | some d =>
    obtain ⟨b, hget, -⟩ := hinv.getBDevs_some hne hb
    rw [hget]
    exact ⟨_, .present hne (sizes_of_some hb), rfl⟩

/-- `ProvisionMallocBDev` with size 0 takes effect with its only request. -/
theorem commits_delete {v : String} (hne : v ≠ "") (s : State) :
    MapOutline images (.provisionMallocBDev v 0) (provisionMallocBDevLocked v 0) s := by
  apply Prog.commits_working
  intro s' _ _
  right
  refine ⟨.ok (), rfl, ?_, rfl⟩
  show MapStep _ _ _ (sizes (execDelete s' v).2)
  rw [sizes_execDelete]
  exact .remove hne

/-- `ConstructMallocBDev` succeeds while the name is free. -/
theorem commits_construct {v : String} {size : Int64} (hne : v ≠ "") (hpos : 0 < size.toInt)
    (hdvd : 512 ∣ size.toInt) {s : State} (hnone : s.bdev? v = none) :
    MapOutline images (.provisionMallocBDev v size) (constructMalloc v size) s := by
  refine commits_constructMallocBDev fun s' hsame => ?_
  obtain ⟨d, hd, -, hexec, hsizes⟩ := execMalloc_free hne (hsame.bdev.trans hnone) hpos hdvd
  rw [hexec]
  refine ⟨.ok (), ?_, rfl⟩
  rw [hsizes]
  exact .insert hne hpos (sizes_of_none (hsame.bdev.trans hnone))

/-- `ProvisionMallocBDev` with a size takes effect when it finds the BDev, or else
when it makes it. -/
theorem commits_provision {v : String} {size : Int64} (hne : v ≠ "") (hpos : 0 < size.toInt)
    (hdvd : 512 ∣ size.toInt) (s : State) :
    MapOutline images (.provisionMallocBDev v size) (provisionMallocBDevLocked v size) s := by
  have hsize : size ≠ 0 := by
    rintro rfl
    exact absurd hpos (by decide)
  unfold provisionMallocBDevLocked
  rw [if_pos hsize]
  refine commits_getBDevs fun s' hinv => ?_
  cases hb : s'.bdev? v with
  | none =>
    left
    rw [Spdk.getBDevs_named hne, hb]
    exact commits_construct hne hpos hdvd hb
  | some d =>
    right
    obtain ⟨b, hget, hactual⟩ := hinv.getBDevs_some hne hb
    have hm := sizes_of_some hb
    rw [hget]
    by_cases heq : b.numBlocks * b.blockSize = size
    · refine ⟨.ok (), .keep hne hpos (hm.trans ?_), ?_⟩
      · rw [← heq, hactual, Int.toNat_natCast]
      · simp only [heq, ne_eq, not_true_eq_false, if_false]
        rfl
    · refine ⟨_, .conflict hne hpos hm fun he => heq ?_, ?_⟩
      · exact Int64.toInt_inj.1 (by omega)
      · simp only [ne_eq, heq, not_false_eq_true, if_true]
        show some (Except.error _) = some (Except.error _)
        rw [show toString (b.numBlocks * b.blockSize) = toString d.bytes from
          congrArg toString hactual]

/-- With SPDK connected, only the empty name is turned away. -/
theorem checkName_eq_some (hc : c.connected = true) {empty name : String} {e : Status}
    (h : c.checkName empty name = some e) : name = "" ∧ e = .new empty := by
  unfold checkName at h
  rw [hc] at h
  split_ifs at h with hname hfalse
  · exact ⟨hname, (Option.some.inj h).symm⟩
  · exact absurd hfalse (by simp)

/-- **The two calls are atomic.** -/
theorem atomic_map (hc : c.connected = true) : Atomic (discipline c images).working MapCall
    MallocOnly sizes MapStep where
  keep _ _ _ _ _ hreq hmay hstep h := h.step hreq hmay hstep
  early req a s hreq hearly := by
    cases req with
    | mapVolume v params => exact hreq.elim
    | unmapVolume v => exact hreq.elim
    | provisionMallocBDev v size =>
      obtain ⟨e, he, rfl⟩ := Option.map_eq_some_iff.1 hearly
      obtain ⟨rfl, rfl⟩ := checkName_eq_some hc he
      exact .provisionUnnamed
    | checkMallocBDev v =>
      obtain ⟨e, he, rfl⟩ := Option.map_eq_some_iff.1 hearly
      obtain ⟨rfl, rfl⟩ := checkName_eq_some hc he
      exact .checkUnnamed
  commits req s hreq hearly := by
    have hne := (key_ne_of_early hearly).1
    cases req with
    | mapVolume v params => exact hreq.elim
    | unmapVolume v => exact hreq.elim
    | checkMallocBDev v => exact (commits_check hne s).map
    | provisionMallocBDev v size =>
      by_cases hsize : size = 0
      · subst hsize
        exact (commits_delete hne s).map
      · have hne0 : size.toInt ≠ 0 := fun h0 => hsize (Int64.toInt_inj.1 h0)
        exact (commits_provision hne (lt_of_le_of_ne hreq.1 (Ne.symm hne0)) hreq.2 s).map

/-- **ProvisionMallocBDev and CheckMallocBDev implement an atomic map.**  For every
interleaving of any number of these calls, at single SPDK requests and with a lock
per name, on an SPDK that works and holds only Malloc BDevs, there is a sequential
order of the calls that respects which call ended before which other one started,
and in which the map gives every reply and ends as the BDevs of SPDK. -/
theorem provision_linearizes (c : Controller) (hc : c.connected = true)
    (images : ConstructRBDBDevArgs → Option UInt64) (hash : String → H) (s₀ : State)
    (h₀ : MallocOnly s₀) (evs : List CallEvent) (σ : CallSys)
    (hcalls : ∀ i req, .invoke i req ∈ evs → MapCall req)
    (hrun : Run (server images).working c.calls hash (Sys.start s₀) evs σ) :
    ∃ ops, Linearizes MapStep evs ops (sizes s₀) (sizes σ.srv) :=
  linearizes_run (atomic_map hc) h₀ hrun hcalls

/-- One call that makes a BDev. -/
theorem provision_linearizes_vol : ∃ evs σ ops,
    Run (server fun _ => none).working configured.calls id (Sys.start (State.fresh "vhost.0"))
      (evs ++ [.ret 0 (.provisionMallocBDev "vol" 1024) (.done (.ok ()))]) σ ∧
    Linearizes MapStep (evs ++ [.ret 0 (.provisionMallocBDev "vol" 1024) (.done (.ok ()))]) ops
      (sizes (State.fresh "vhost.0")) (sizes σ.srv) := by
  obtain ⟨es, hrpc, hrun⟩ := run_alone (server fun _ => none).working configured.calls id
    (State.fresh "vhost.0") 0 (c := .provisionMallocBDev "vol" 1024) rfl
  obtain ⟨ops, hops⟩ := provision_linearizes configured rfl (fun _ => none) id
    (State.fresh "vhost.0") (by simp [MallocOnly, State.fresh]) _ _
    (fun i req hmem => by
      rw [invoke_of_alone hrpc hmem]
      exact ⟨by decide, by decide⟩) hrun
  exact ⟨_, _, ops, hrun, hops⟩

end Oim.Controller
