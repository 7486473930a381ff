import Oim.Csi.CreateVolume

/-!
# Creating a volume, end to end

What the backends do on an SPDK that works, for requests that are not negative:
the driver rounds, the controller divides into blocks, SPDK makes the BDev, and a
later call reads its size back.  All of them agree on one number.

* `newDisk` — the BDev for a request; `WellSized` — the sizes such BDevs have.
* `run_createVolume_none`, `run_createVolume_some` — `createVolume` without and with
  an existing BDev; the backends differ in what they accept as existing volume
  (`Backend.reuses`) and in nothing else.
* `createVolume_end_to_end` — the volume is made with the least sufficient size,
  and asking again changes nothing.
-/

namespace Oim.Csi

open Interaction
open Spdk (Client State Disk BDev decodeBDev server ConstructRBDBDevArgs)

variable {images : ConstructRBDBDevArgs → Option UInt64} {v : String} {r : Int64} {s : State}

/-! ## New and existing block devices -/

/-- The BDev that is made for a request. -/
def newDisk (v : String) (r : Int64) : Disk :=
  ⟨v, Spdk.mallocProduct, 512, UInt64.ofNat (blocksFor r.toInt).toNat⟩

/-- A BDev of a size that `createVolume` gives. -/
def WellSized (d : Disk) : Prop :=
  d.blocklen = 512 ∧ 0 < d.blockcnt.toNat ∧ d.blockcnt.toNat ≤ 2 ^ 31

theorem toNat_blocks (h₀ : 0 ≤ r.toInt) (h : r.toInt < 2 ^ 40) :
    ((newDisk v r).blockcnt.toNat : ℤ) = blocksFor r.toInt := by
  have hpos := blocksFor_pos_iff.2 h₀
  have hle := blocksFor_le h
  show ((UInt64.ofNat (blocksFor r.toInt).toNat).toNat : ℤ) = _
  rw [UInt64.toNat_ofNat']
  omega

theorem bytes_newDisk (h₀ : 0 ≤ r.toInt) (h : r.toInt < 2 ^ 40) :
    ((newDisk v r).bytes : ℤ) = 512 * blocksFor r.toInt := by
  rw [Disk.bytes, Nat.cast_mul, toNat_blocks h₀ h]
  rfl

theorem wellSized_newDisk (h₀ : 0 ≤ r.toInt) (h : r.toInt < 2 ^ 40) :
    WellSized (newDisk v r) := by
  have hcnt := toNat_blocks (v := v) h₀ h
  have hpos := blocksFor_pos_iff.2 h₀
  have hle := blocksFor_le h
  exact ⟨rfl, by omega, by omega⟩

/-- A well-sized BDev is reported with its true size. -/
theorem getBDevs_wellSized {d : Disk} (hne : v ≠ "") (hd : s.bdev? v = some d)
    (hw : WellSized d) : ∃ b, Spdk.getBDevs s v = .ok [b] ∧
      (b.blockSize * b.numBlocks).toInt = d.bytes := by
  have hcnt := hw.2.2
  have hbytes : d.bytes < 2 ^ 63 := by
    rw [Disk.bytes, hw.1, show (512 : UInt32).toNat = 512 by decide]
    omega
  exact getBDevs_sized hne hd (by omega) hbytes

theorem bdev?_newDisk (hnone : s.bdev? v = none) (n : String) :
    (s.addBDev (newDisk v r) hnone).bdev? n = if n = v then some (newDisk v r) else s.bdev? n :=
  State.bdev?_addBDev s (newDisk v r) hnone n

/-- SPDK makes the BDev for a request, under a name that is not in use. -/
theorem execMalloc_mallocName
    (hnone : (Spdk.mallocName s v).2.bdev? (Spdk.mallocName s v).1 = none) (h₀ : 0 ≤ r.toInt)
    (h : r.toInt < 2 ^ 40) : Spdk.execMalloc s ⟨roundCapacity r / 512, 512, v⟩ =
      (.ok (Spdk.mallocName s v).1,
        (Spdk.mallocName s v).2.addBDev (newDisk (Spdk.mallocName s v).1 r) hnone) := by
  have hpos : 0 < (roundCapacity r / 512).toInt := by
    rw [toInt_blocks h]
    exact blocksFor_pos_iff.2 h₀
  have hlen : UInt32.ofNat (512 : Int64).toInt.toNat = 512 := by decide
  have hsize : 0 ≤ (512 : Int64).toInt ∧ (512 : Int64).toInt < 2 ^ 32 := by decide
  unfold Spdk.execMalloc
  rw [if_pos ⟨hpos, hsize⟩]
  simp only [toInt_blocks h, hlen]
  exact dif_pos hnone

theorem execMalloc_newDisk (hne : v ≠ "") (hnone : s.bdev? v = none) (h₀ : 0 ≤ r.toInt)
    (h : r.toInt < 2 ^ 40) : Spdk.execMalloc s ⟨roundCapacity r / 512, 512, v⟩ =
      (.ok v, s.addBDev (newDisk v r) hnone) := by
  have hname : Spdk.mallocName s v = (v, s) := if_neg hne
  rw [execMalloc_mallocName (by rwa [hname]) h₀ h]
  simp only [hname]

/-! ## createVolume -/

/-- Does the backend take an existing volume of `c` bytes for a request of `r`
bytes? -/
def Backend.reuses : Backend → ℤ → ℤ → Bool
  | .localSPDK _, c, r => r ≤ c
  | .remoteSPDK _ _, c, r => r < 2 ^ 40 ∧ c = 512 * blocksFor r

/-- What a call returns, with errors told apart from success only. -/
def capacity : Except Status Int64 → Option ℤ
  | .ok c => some c.toInt
  | .error _ => none

theorem run_constructVolume (hne : v ≠ "") (hnone : s.bdev? v = none) (h₀ : 0 ≤ r.toInt)
    (h : r.toInt < 2 ^ 40) : (Local.constructVolume v r).run (server images) s =
      (.ok (roundCapacity r), s.addBDev (newDisk v r) hnone) := by
  rcases checkCapacity_eq r with ⟨-, hc⟩ | ⟨hge, -⟩
  · simp only [Local.constructVolume, hc, Prog.bind_eq, Client.run_constructMallocBDev,
      execMalloc_newDisk hne hnone h₀ h]
    rfl
  · omega

/-- A missing BDev is reported with an error that `IsJSONError` knows. -/
theorem getBDevs_none (hne : v ≠ "") (hnone : s.bdev? v = none) :
    ∃ e, Spdk.getBDevs s v = .error e ∧ Spdk.isJSONError e Spdk.errorInvalidParams = true := by
  rw [Spdk.getBDevs_named hne, hnone]
  exact ⟨_, rfl, by decide⟩

theorem run_local_none (hne : v ≠ "") (hnone : s.bdev? v = none) :
    (Local.createVolume v r).run (server images) s =
      (Local.constructVolume v r).run (server images) s := by
  obtain ⟨e, he, hjson⟩ := getBDevs_none hne hnone
  simp only [Local.createVolume, Prog.bind_eq, Client.run_getBDevs, he, hjson, Bool.true_eq_false,
    if_false]

/-- The controller, asked for a BDev that does not exist. -/
theorem run_provision_none {c : Controller} (hconn : c.connected = true) (hne : v ≠ "")
    (hnone : s.bdev? v = none) {size : Int64} (hsize : size ≠ 0) :
    (c.provisionMallocBDev v size).run (server images) s =
      (Controller.constructMalloc v size).run (server images) s := by
  obtain ⟨e, he, -⟩ := getBDevs_none hne hnone
  simp only [Controller.provisionMallocBDev, Controller.checkName_eq_none.2 ⟨hne, hconn⟩,
    Controller.provisionMallocBDevLocked, if_pos hsize, Prog.bind_eq, Client.run_getBDevs, he]

variable (images) in
/-- The controller, asked for a BDev that exists. -/
theorem run_provision_some {c : Controller} (hconn : c.connected = true) (hne : v ≠ "") {b : BDev}
    (hb : Spdk.getBDevs s v = .ok [b]) {size : Int64} (hsize : size ≠ 0) :
    ∃ e, (c.provisionMallocBDev v size).run (server images) s =
      (if b.blockSize * b.numBlocks = size then .ok () else .error e, s) := by
  simp only [Controller.provisionMallocBDev, Controller.checkName_eq_none.2 ⟨hne, hconn⟩,
    Controller.provisionMallocBDevLocked, if_pos hsize, Prog.bind_eq, Client.run_getBDevs, hb,
    Int64.mul_comm b.blockSize]
  by_cases heq : b.numBlocks * b.blockSize = size
  · exact ⟨.new "", by simp only [heq, ne_eq, not_true_eq_false, if_false, if_true]; rfl⟩
  · exact ⟨_, by simp only [heq, ne_eq, not_false_eq_true, if_true, if_false]; rfl⟩

theorem roundCapacity_ne_zero (h₀ : 0 ≤ r.toInt) (h : r.toInt < 2 ^ 40) : roundCapacity r ≠ 0 := by
  rw [Ne, roundCapacity_eq_zero_iff h]
  omega

/-- **Without a BDev of the name, `createVolume` makes one** — the same with both
backends. -/
theorem run_createVolume_none {b : Backend} (hb : b.Works) (hne : v ≠ "")
    (hnone : s.bdev? v = none) (h₀ : 0 ≤ r.toInt) (h : r.toInt < 2 ^ 40) :
    (b.createVolume v r).run (server images) s =
      (.ok (roundCapacity r), s.addBDev (newDisk v r) hnone) := by
  cases b with
  | localSPDK connectErr =>
    obtain rfl : connectErr = none := hb
    show (Local.createVolume v r).run (server images) s = _
    rw [run_local_none hne hnone, run_constructVolume hne hnone h₀ h]
  | remoteSPDK link c =>
    obtain ⟨rfl, hconn⟩ := hb
    have hconstruct : (Controller.constructMalloc v (roundCapacity r)).run (server images) s =
        (.ok (), s.addBDev (newDisk v r) hnone) := by
      simp only [Controller.constructMalloc, Prog.bind_eq, Client.run_constructMallocBDev,
        execMalloc_newDisk hne hnone h₀ h]
      rfl
    rcases checkCapacity_eq r with ⟨-, hc⟩ | ⟨hge, -⟩
    · show (Remote.createVolume .up c v r).run (server images) s = _
      simp only [Remote.createVolume, hc, Remote.provision, Link.call, Prog.bind_eq, Prog.run_bind,
        run_provision_none hconn hne hnone (roundCapacity_ne_zero h₀ h), hconstruct]
      rfl
    · omega

variable (images) in
/-- A request that is too large makes nothing. -/
theorem run_createVolume_large {b : Backend} (hb : b.Works) (hne : v ≠ "")
    (hnone : s.bdev? v = none) (h : 2 ^ 40 ≤ r.toInt) :
    ((b.createVolume v r).run (server images) s).2 = s ∧
      capacity ((b.createVolume v r).run (server images) s).1 = none := by
  rcases checkCapacity_eq r with ⟨hlt, -⟩ | ⟨-, e, hc⟩
  · omega
  · cases b with
    | localSPDK connectErr =>
      obtain rfl : connectErr = none := hb
      have hrun : (Local.createVolume v r).run (server images) s = (.error e, s) := by
        rw [run_local_none hne hnone]
        simp only [Local.constructVolume, hc]
        rfl
      show ((Local.createVolume v r).run (server images) s).2 = s ∧
        capacity ((Local.createVolume v r).run (server images) s).1 = none
      rw [hrun]
      exact ⟨rfl, rfl⟩
    | remoteSPDK link c =>
      have hrun : (Remote.createVolume link c v r).run (server images) s = (.error e, s) := by
        simp only [Remote.createVolume, hc]
        rfl
      show ((Remote.createVolume link c v r).run (server images) s).2 = s ∧
        capacity ((Remote.createVolume link c v r).run (server images) s).1 = none
      rw [hrun]
      exact ⟨rfl, rfl⟩

variable (images r) in
theorem run_local_found {b : BDev} (hget : Spdk.getBDevs s v = .ok [b]) :
    ∃ e, (Local.createVolume v r).run (server images) s =
      (if r ≤ b.blockSize * b.numBlocks then .ok (b.blockSize * b.numBlocks) else .error e, s) := by
  simp only [Local.createVolume, Prog.bind_eq, Client.run_getBDevs, hget]
  by_cases hle : r ≤ b.blockSize * b.numBlocks
  · exact ⟨.new "", by simp only [ge_iff_le, if_pos hle]; rfl⟩
  · exact ⟨_, by simp only [ge_iff_le, if_neg hle]; rfl⟩

variable (images) in
theorem run_remote_found {ctrl : Controller} (hconn : ctrl.connected = true) (hne : v ≠ "")
    {b : BDev} (hget : Spdk.getBDevs s v = .ok [b]) (h₀ : 0 ≤ r.toInt) (h : r.toInt < 2 ^ 40) :
    ∃ e, (Remote.createVolume .up ctrl v r).run (server images) s =
      (if b.blockSize * b.numBlocks = roundCapacity r then .ok (roundCapacity r) else .error e,
        s) := by
  rcases checkCapacity_eq r with ⟨-, hc⟩ | ⟨hge, -⟩
  · obtain ⟨e, he⟩ := run_provision_some images hconn hne hget (roundCapacity_ne_zero h₀ h)
    simp only [Remote.createVolume, hc, Remote.provision, Link.call, Prog.bind_eq, Prog.run_bind,
      he]
    by_cases heq : b.blockSize * b.numBlocks = roundCapacity r
    · exact ⟨e, by simp only [if_pos heq]; rfl⟩
    · exact ⟨e, by simp only [if_neg heq]; rfl⟩
  · omega

variable (images) in
/-- **With a BDev of the name, `createVolume` changes nothing**, and returns its
size if the backend can use it. -/
theorem run_createVolume_some {b : Backend} (hb : b.Works) (hne : v ≠ "") {d : Disk}
    (hd : s.bdev? v = some d) (hw : WellSized d) (h₀ : 0 ≤ r.toInt) :
    ((b.createVolume v r).run (server images) s).2 = s ∧
      capacity ((b.createVolume v r).run (server images) s).1 =
        if b.reuses d.bytes r.toInt then some (d.bytes : ℤ) else none := by
  obtain ⟨bd, hbd, hsize⟩ := getBDevs_wellSized hne hd hw
  cases b with
  | localSPDK connectErr =>
    obtain rfl : connectErr = none := hb
    show ((Local.createVolume v r).run (server images) s).2 = s ∧
      capacity ((Local.createVolume v r).run (server images) s).1 = _
    obtain ⟨e, he⟩ := run_local_found images r hbd
    rw [he]
    refine ⟨rfl, ?_⟩
    simp only [Int64.le_iff_toInt_le, hsize, Backend.reuses]
    by_cases hle : r.toInt ≤ d.bytes
    · simp only [hle, decide_true, if_true]
      exact congrArg some hsize
    · simp only [hle, decide_false]
      rfl
  | remoteSPDK link c =>
    obtain ⟨rfl, hconn⟩ := hb
    show ((Remote.createVolume .up c v r).run (server images) s).2 = s ∧
      capacity ((Remote.createVolume .up c v r).run (server images) s).1 = _
    by_cases hlt : r.toInt < 2 ^ 40
    · obtain ⟨e, he⟩ := run_remote_found images hconn hne hbd h₀ hlt
      rw [he]
      refine ⟨rfl, ?_⟩
      simp only [← Int64.toInt_inj, hsize, toInt_roundCapacity hlt, Backend.reuses, hlt, true_and]
      by_cases heq : (d.bytes : ℤ) = 512 * blocksFor r.toInt
      · simp only [heq, if_true, decide_true]
        exact congrArg some (toInt_roundCapacity hlt)
      · simp only [heq, if_false, decide_false]
        rfl
    · obtain ⟨-, e, hc⟩ := (checkCapacity_eq r).resolve_left fun h => hlt h.1
      simp only [Remote.createVolume, hc, Backend.reuses, hlt, false_and, decide_false]
      exact ⟨rfl, rfl⟩

/-! ## End to end -/

theorem ok_of_capacity {result : Except Status Int64} {c : Int64}
    (h : capacity result = some c.toInt) : result = .ok c := by
  cases result with
  | error e => exact absurd h (by simp [capacity])
  | ok c' => rw [Int64.toInt_inj.1 (Option.some.inj h)]

/-- Every backend takes the BDev it has made for the same request. -/
theorem reuses_newDisk (b : Backend) (h₀ : 0 ≤ r.toInt) (h : r.toInt < 2 ^ 40) :
    b.reuses ((newDisk v r).bytes : ℤ) r.toInt = true := by
  rw [bytes_newDisk h₀ h]
  cases b with
  | localSPDK connectErr => exact decide_eq_true (le_blocksFor r.toInt)
  | remoteSPDK link c => exact decide_eq_true ⟨h, rfl⟩

/-- **Volume creation, end to end.**  For a name without a BDev and a request below
1 TiB, both backends succeed with the least sufficient multiple of 512, or 1 MiB if
the request is 0; the BDev has exactly that size, all others are unchanged; and
every further call returns the same and changes nothing.  The name is not empty, because
both handlers turn the empty one away: `CreateVolume` of the driver before it calls the
backend, and `ProvisionMallocBDev` of the controller. -/
theorem createVolume_end_to_end (images : ConstructRBDBDevArgs → Option UInt64) (b : Backend)
    (hb : b.Works) (v : String) (hne : v ≠ "") (r : Int64) (h₀ : 0 ≤ r.toInt)
    (h : r.toInt < 2 ^ 40) (s : State) (hnone : s.bdev? v = none) :
    ∃ (c : Int64) (d : Disk) (s' : State),
      (b.createVolume v r).run (server images) s = (.ok c, s') ∧
      (r.toInt = 0 → c.toInt = 2 ^ 20) ∧
      (r.toInt ≠ 0 → IsLeast {m : ℤ | 512 ∣ m ∧ r.toInt ≤ m} c.toInt) ∧
      s'.bdev? v = some d ∧ (d.blocklen.toNat * d.blockcnt.toNat : ℤ) = c.toInt ∧
      (∀ n, n ≠ v → s'.bdev? n = s.bdev? n) ∧
      ∀ k, (b.createVolume v r).run (server images)
        ((fun t => ((b.createVolume v r).run (server images) t).2)^[k] s') = (.ok c, s') := by
  have hbytes : ((newDisk v r).bytes : ℤ) = (roundCapacity r).toInt := by
    rw [bytes_newDisk h₀ h, toInt_roundCapacity h]
  have hd : (s.addBDev (newDisk v r) hnone).bdev? v = some (newDisk v r) :=
    (bdev?_newDisk hnone v).trans (if_pos rfl)
  have hfix : (b.createVolume v r).run (server images) (s.addBDev (newDisk v r) hnone) =
      (.ok (roundCapacity r), s.addBDev (newDisk v r) hnone) := by
    obtain ⟨hstate, hcap⟩ := run_createVolume_some images hb hne hd
      (wellSized_newDisk h₀ h) h₀
    rw [reuses_newDisk b h₀ h, if_pos rfl, hbytes] at hcap
    exact Prod.ext (ok_of_capacity hcap) hstate
  refine ⟨roundCapacity r, newDisk v r, s.addBDev (newDisk v r) hnone,
    run_createVolume_none hb hne hnone h₀ h, ?_, ?_, hd, ?_, ?_, ?_⟩
  · intro hr
    rw [toInt_roundCapacity h, hr]
    decide
  · intro hr
    rw [toInt_roundCapacity h]
    exact blocksFor_isLeast (by omega)
  · rw [← hbytes, Disk.bytes, Nat.cast_mul]
  · intro n hn
    exact (bdev?_newDisk hnone n).trans (if_neg hn)
  · intro k
    rw [Function.iterate_fixed (congrArg Prod.snd hfix), hfix]

/-- 1000 bytes become two blocks, through the controller. -/
theorem createVolume_end_to_end_vol :
    ∃ (c : Int64) (s' : State),
      ((Backend.remoteSPDK .up Controller.configured).createVolume "vol" 1000).run
        (server fun _ => none) (State.fresh "vhost.0") = (.ok c, s') ∧
      IsLeast {m : ℤ | 512 ∣ m ∧ 1000 ≤ m} c.toInt := by
  obtain ⟨c, d, s', hrun, -, hleast, -⟩ := createVolume_end_to_end (fun _ => none)
    (.remoteSPDK .up Controller.configured) ⟨rfl, rfl⟩ "vol" (by decide) 1000 (by decide)
    (by decide) (State.fresh "vhost.0") rfl
  exact ⟨c, s', hrun, hleast (by decide)⟩

end Oim.Csi
