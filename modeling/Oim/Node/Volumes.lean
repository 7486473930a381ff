import Oim.Controller.Atomic
import Oim.Csi.Capacity
import Oim.Lib.Quiet
import Oim.Node.Safety

/-!
# Volumes as an atomic map

A CSI driver with the local backend keeps no list of its volumes.  `CreateVolume` looks into SPDK
and then makes a BDev, `DeleteVolume` takes "no such BDev" for a success, and while they do so any
number of other calls run on the same host, staging and publishing volumes.  Seen from outside
there is nevertheless just a map from names to sizes, on which each call works at one moment.

* `createOn`, `deleteOn`, `existsOn` — the calls of the controller server on that map.
* `commits_createVolume`, … — the SPDK request at which each of them takes effect.
* `VolumeStep` — all calls of the driver on the map; those of the node server leave it alone.
* `volumes_linearize` — every interleaving of calls is equivalent to a sequential order.

SPDK has to carry out what it is asked for, since a map has no answer for a request that got lost.
Everything else may fail: mounts, NBD devices and all commands.
-/

namespace Oim.Node

open Interaction
open Controller (Sizes sizes MallocOnly InMemory sizes_of_none sizes_of_some)
open Csi (Driver CreateVolumeRequest ValidateRequest ValidateResponse Volume checkCapacity
  roundCapacity)
open Spdk (Client Rpc ConstructRBDBDevArgs ConstructBDevArgs execMalloc execDelete)

/-! ## The map -/

/-- `CreateVolume` of a volume that passes the checks: one of the name is taken if it is large
enough, otherwise there will be a new one of whole blocks.  Requests of less than −1022 bytes are
rounded to a negative size, and those of −1022 to −1 bytes to none; SPDK refuses both. -/
def createOn (v : String) (requiredBytes : Int64) (m : Sizes) : Except Status Int64 × Sizes :=
  match m v with
  | some size =>
    if requiredBytes.toInt ≤ size then (.ok (Int64.ofNat size), m)
    else (.error ⟨.alreadyExists, "Volume with the same name: " ++ v ++
      " but with different size already exist"⟩, m)
  | none =>
    match checkCapacity requiredBytes with
    | .error e => (.error e, m)
    | .ok capacity =>
      if 0 < capacity.toInt then
        (.ok capacity, Function.update m v (some capacity.toInt.toNat))
      else (.error ⟨.failedPrecondition, "Failed to create SPDK Malloc BDev: " ++
        Spdk.invalidParams "Invalid parameters"⟩, m)

/-- `DeleteVolume`, which is also successful if there is no such volume. -/
def deleteOn (v : String) (m : Sizes) : Except Status Unit × Sizes :=
  (.ok (), Function.update m v none)

/-- `ValidateVolumeCapabilities`, as far as it depends on the volume. -/
def existsOn (v : String) (m : Sizes) : Except Status Unit × Sizes :=
  (if (m v).isSome then .ok () else .error ⟨.notFound, ""⟩, m)

/-! ## The backend -/

section Backend

variable {images : ConstructRBDBDevArgs → Option UInt64} {v : String} {r : Int64}
  {s : Spdk.State}

/-- The BDev of the volume is left alone. -/
def SameBDev (v : String) (s s' : Spdk.State) : Prop := s'.bdev? v = s.bdev? v

/-- The outline of a call on the map, with its effect still to come. -/
abbrev OnMap (images : ConstructRBDBDevArgs → Option UInt64) (v : String) {α : Type}
    (f : Sizes → α × Sizes) (p : Client α) (s : Spdk.State) : Prop :=
  p.Commits (Spdk.server images).working (SameBDev v) MallocOnly sizes
    (fun m a m' => (a, m') = f m) none s

theorem isJSONError_missing : Spdk.isJSONError (Spdk.invalidParams "Invalid parameters")
    Spdk.errorInvalidParams = true := by decide

/-- A call that has looked for the BDev: it is done with that, or goes on. -/
theorem onMap_getBDevs {α : Type} {f : Sizes → α × Sizes}
    {k : Except String (List Spdk.BDev) → Client α}
    (h : ∀ s', MallocOnly s' → OnMap images v f (k (Spdk.getBDevs s' v)) s' ∨
      k (Spdk.getBDevs s' v) = .ret (f (sizes s')).1 ∧ (f (sizes s')).2 = sizes s') :
    OnMap images v f ((Client.getBDevs v).bind k) s := by
  refine Prog.commits_working fun s' _ hinv => ?_
  rcases h s' hinv with hlater | ⟨hret, hstate⟩
  · exact Or.inl ⟨rfl, hlater⟩
  · refine Or.inr ⟨(f (sizes s')).1, rfl, Prod.ext rfl hstate.symm, ?_⟩
    show (k (Spdk.getBDevs s' v)).Commits _ _ _ _ _ _ _
    rw [hret]
    rfl

theorem getBDevs_missing (hne : v ≠ "") (hnone : s.bdev? v = none) :
    Spdk.getBDevs s v = .error (Spdk.invalidParams "Invalid parameters") := by
  rw [Spdk.getBDevs_named hne, hnone]

/-- The blocks of a capacity are all of it. -/
theorem dvd_roundCapacity (h : r.toInt < 2 ^ 40) : (512 : ℤ) ∣ (roundCapacity r).toInt := by
  rw [Csi.toInt_roundCapacity h]
  exact dvd_mul_right _ _

/-- The sizes that SPDK does not make BDevs of. -/
theorem execMalloc_not_pos (h : r.toInt < 2 ^ 40) (hpos : ¬ 0 < (roundCapacity r).toInt) :
    execMalloc s ⟨roundCapacity r / 512, 512, v⟩ =
      (.error (Spdk.invalidParams "Invalid parameters"), s) := by
  have hblocks : ¬ 0 < (roundCapacity r / 512).toInt := by
    rw [Csi.toInt_blocks h]
    rw [Csi.toInt_roundCapacity h] at hpos
    omega
  unfold execMalloc
  rw [if_neg (by rintro ⟨h, -⟩; exact hblocks h)]

/-- A new BDev takes effect when it is made. -/
theorem commits_constructVolume (hne : v ≠ "") (h : r.toInt < 2 ^ 40) (hnone : s.bdev? v = none) :
    OnMap images v (createOn v r) (Csi.Local.constructVolume v r) s := by
  have hcap : checkCapacity r = .ok (roundCapacity r) := by
    rcases Csi.checkCapacity_eq r with ⟨-, h'⟩ | ⟨h', -⟩
    · exact h'
    · omega
  unfold Csi.Local.constructVolume
  rw [hcap]
  refine Prog.commits_working fun s' hsame _ => Or.inr ?_
  have hnone' : s'.bdev? v = none := hsame.trans hnone
  have hm : sizes s' v = none := sizes_of_none hnone'
  by_cases hpos : 0 < (roundCapacity r).toInt
  · obtain ⟨d, hd, -, hexec, hsizes⟩ :=
      Controller.execMalloc_free hne hnone' hpos (dvd_roundCapacity h)
    have hstep : (Spdk.server images).exec (.constructMallocBDev ⟨roundCapacity r / 512, 512, v⟩)
        s' = (.ok v, s'.addBDev d hd) := hexec
    rw [hstep]
    refine ⟨.ok (roundCapacity r), rfl, ?_, rfl⟩
    simp only [createOn, hm, hcap, if_pos hpos, hsizes]
  · have hstep : (Spdk.server images).exec (.constructMallocBDev ⟨roundCapacity r / 512, 512, v⟩)
        s' = (.error (Spdk.invalidParams "Invalid parameters"), s') := execMalloc_not_pos h hpos
    rw [hstep]
    refine ⟨_, rfl, ?_, rfl⟩
    simp only [createOn, hm, hcap, if_neg hpos]

/-- `createVolume` takes effect when it finds the BDev, or that it must not make one, or else when
it makes it. -/
theorem commits_createVolume (hne : v ≠ "") (s : Spdk.State) :
    OnMap images v (createOn v r) (Csi.Local.createVolume v r) s := by
  refine onMap_getBDevs fun s' hinv => ?_
  cases hb : s'.bdev? v with
  | none =>
    rw [getBDevs_missing hne hb]
    simp only [isJSONError_missing, Bool.true_eq_false, if_false]
    rcases Csi.checkCapacity_eq r with ⟨hr, -⟩ | ⟨-, e, he⟩
    · exact Or.inl (commits_constructVolume hne hr hb)
    · right
      simp only [Csi.Local.constructVolume, createOn, sizes_of_none hb, he, and_true]
      rfl
  | some d =>
    right
    have hmem := hinv.inMemory hb
    obtain ⟨b, hget, hsize⟩ := Csi.getBDevs_sized hne hb hmem.blockcnt_lt hmem.2.2
    have hge : b.blockSize * b.numBlocks ≥ r ↔ r.toInt ≤ d.bytes := by
      rw [ge_iff_le, Int64.le_iff_toInt_le, hsize]
    have hof : b.blockSize * b.numBlocks = Int64.ofNat d.bytes := by
      apply Int64.toInt_inj.1
      rw [hsize, Int64.toInt_ofNat_of_lt hmem.2.2]
    rw [hget]
    by_cases hle : r.toInt ≤ d.bytes
    · simp only [createOn, sizes_of_some hb, if_pos hle, if_pos (hge.2 hle), ← hof]
      exact ⟨rfl, trivial⟩
    · simp only [createOn, sizes_of_some hb, if_neg hle, if_neg (mt hge.1 hle)]
      exact ⟨rfl, trivial⟩

/-- `deleteVolume` takes effect with its only request. -/
theorem commits_deleteVolume (v : String) (s : Spdk.State) :
    OnMap images v (deleteOn v) (Csi.Local.deleteVolume v) s := by
  refine Prog.commits_working fun s' _ _ => Or.inr ⟨.ok (), rfl, ?_, ?_⟩
  · exact congrArg (Except.ok (), ·) (Controller.sizes_execDelete s' v)
  · cases hb : s'.bdev? v with
    | none =>
      have hdelete : execDelete s' v = (.error (Spdk.invalidParams "Invalid parameters"), s') := by
        simp only [execDelete, hb]
      have hexec : (Spdk.server images).exec (.deleteBDev v) s' = _ := hdelete
      rw [hexec]
      simp only [Prog.bind, isJSONError_missing, Bool.true_eq_false, if_false]
      rfl
    | some d =>
      have hdelete : execDelete s' v = (.ok (), s'.deleteBDev v) := by simp only [execDelete, hb]
      have hexec : (Spdk.server images).exec (.deleteBDev v) s' = _ := hdelete
      rw [hexec]
      rfl

/-- So does `checkVolumeExists`. -/
theorem commits_checkVolumeExists (hne : v ≠ "") (s : Spdk.State) :
    OnMap images v (existsOn v) (Csi.Local.checkVolumeExists v) s := by
  refine onMap_getBDevs fun s' hinv => Or.inr ⟨?_, rfl⟩
  cases hb : s'.bdev? v with
  | none =>
    rw [getBDevs_missing hne hb, existsOn, sizes_of_none hb]
    rfl
  | some d =>
    obtain ⟨b, hget, -⟩ := hinv.getBDevs_some hne hb
    rw [hget, existsOn, sizes_of_some hb]
    rfl

end Backend

/-! ## The calls on the map -/

/-- The volume in the reply of `CreateVolume`. -/
def volumeOf (driver : Driver) (req : CreateVolumeRequest) (actualBytes : Int64) : Volume :=
  match driver with
  | .oimDriver => ⟨req.name, actualBytes, []⟩
  | .oimDriver03 => ⟨req.name, actualBytes, req.parameters⟩

/-- What a call answers, and what it makes of the map.  The calls of the node server are not
determined by it. -/
def onVolumes (c : Call) (m : Sizes) : Option (Answer × Sizes) :=
  match c.early with
  | some a => some (a, m)
  | none =>
    match c with
    | .createVolume driver _ req =>
      some ((createOn req.name req.requiredBytes m).map
        (fun r => .created (r.map (volumeOf driver req))) id)
    | .deleteVolume _ _ v => some ((deleteOn v m).map .done id)
    | .validateVolumeCapabilities driver _ req =>
      some ((existsOn req.volumeId m).map
        (fun r => .validated (r.map fun _ =>
          driver.respond req (req.volumeCapabilities.getD []))) id)
    | _ => none

/-- One call on the map: the call, the map before, the answer, the map after. -/
def VolumeStep (c : Call) (m : Sizes) (a : Answer) (m' : Sizes) : Prop :=
  match onVolumes c m with
  | some r => (a, m') = r
  | none => m' = m

theorem volumeStep_early {c : Call} {a : Answer} (h : c.early = some a) (m : Sizes) :
    VolumeStep c m a m := by
  simp only [VolumeStep, onVolumes, h]

/-- The call gets a connection to SPDK, if it starts with that. -/
def Call.Connected : Call → Prop
  | .createVolume _ connectErr _ => connectErr = none
  | .deleteVolume _ connectErr _ => connectErr = none
  | .validateVolumeCapabilities _ connectErr _ => connectErr = none
  | _ => True

/-- A call of the node server. -/
def Call.OnNode : Call → Prop
  | .createVolume _ _ _ => False
  | .deleteVolume _ _ _ => False
  | .validateVolumeCapabilities _ _ _ => False
  | _ => True

theorem volumeStep_node {c : Call} (hc : c.OnNode) (hearly : c.early = none) (m : Sizes)
    (a : Answer) : VolumeStep c m a m := by
  cases c with
  | createVolume => exact hc.elim
  | deleteVolume => exact hc.elim
  | validateVolumeCapabilities => exact hc.elim
  | _ => simp only [VolumeStep, onVolumes, hearly]

/-! ## What the calls do to SPDK -/

/-- The requests for BDevs are for sizes below 1 TiB, in blocks of 512 bytes. -/
def Request.Modest : Request → Prop
  | .spdk (.constructMallocBDev args) =>
    ∃ r : Int64, r.toInt < 2 ^ 40 ∧ args = ⟨roundCapacity r / 512, 512, args.name⟩
  | _ => True

theorem only_modest {v : String} {r : Int64} :
    (Csi.Local.createVolume v r).Only fun q => (Request.spdk q).Modest := by
  have hconstruct : (Csi.Local.constructVolume v r).Only fun q => (Request.spdk q).Modest := by
    rw [Csi.Local.constructVolume]
    rcases Csi.checkCapacity_eq r with ⟨hr, hcap⟩ | ⟨-, e, he⟩
    · rw [hcap]
      refine ⟨⟨r, hr, rfl⟩, fun reply => ?_⟩
      cases reply <;> trivial
    · rw [he]
      trivial
  refine ⟨trivial, fun reply => ?_⟩
  rcases reply with err | bdevs
  · change Prog.Only _ (if Spdk.isJSONError err Spdk.errorInvalidParams = false then _ else _)
    split
    · trivial
    · exact hconstruct
  · rcases bdevs with _ | ⟨bdev, _ | ⟨bdev', bdevs⟩⟩
    · exact hconstruct
    · change Prog.Only _ (if bdev.blockSize * bdev.numBlocks ≥ r then _ else _)
      split <;> trivial
    · exact hconstruct

theorem only_modest_createVolume (driver : Driver) (connectErr : Option String)
    (req : CreateVolumeRequest) : (driver.createVolume (.localSPDK connectErr) req).Only
      fun q => (Request.spdk q).Modest := by
  have hwith : ∀ attributes, (Csi.createVolumeWith attributes (.localSPDK connectErr) req).Only
      fun q => (Request.spdk q).Modest := by
    intro attributes
    rw [Csi.createVolumeWith]
    cases Csi.checkCreateVolume req with
    | some e => trivial
    | none =>
      refine Prog.only_bind ?_ fun r => by cases r <;> trivial
      cases connectErr with
      | some err => trivial
      | none => exact only_modest
  cases driver with
  | oimDriver => exact hwith _
  | oimDriver03 => exact hwith _

section Calls

variable {dev : Numbering} {images : ConstructRBDBDevArgs → Option UInt64} {L : Layout}
  {s s' : State dev} {c : Call} {q : Request} {reply : q.Reply}

/-- What becomes of the BDevs with a request of a call. -/
inductive Provides : Call → Spdk.State → Spdk.State → Prop where
  | nothing (c : Call) (s : Spdk.State) : Provides c s s
  | bdev {driver : Driver} {connectErr : Option String} {req : CreateVolumeRequest}
      {s : Spdk.State} {d : Spdk.Disk} (hd : s.bdev? d.name = none) : d.name = req.name →
      InMemory d → Provides (.createVolume driver connectErr req) s (s.addBDev d hd)
  | deleted {driver : Driver} {connectErr : Option String} (v : String) (s : Spdk.State) :
      Provides (.deleteVolume driver connectErr v) s (s.deleteBDev v)

theorem provides_construct {driver : Driver} {connectErr : Option String}
    {req : CreateVolumeRequest} {args : ConstructBDevArgs} (hname : args.name = req.name)
    (hne : req.name ≠ "") (hmodest : (Request.spdk (.constructMallocBDev args)).Modest)
    (s : Spdk.State) : Provides (.createVolume driver connectErr req) s (execMalloc s args).2 := by
  obtain ⟨r, hr, hargs⟩ := hmodest
  rw [hname] at hargs
  subst hargs
  by_cases hpos : 0 < (roundCapacity r).toInt
  · by_cases hnone : s.bdev? req.name = none
    · obtain ⟨d, hd, hmem, hexec, -⟩ :=
        Controller.execMalloc_free hne hnone hpos (dvd_roundCapacity hr)
      obtain ⟨hnone', -, heq⟩ := Csi.execMalloc_named hne hexec
      rw [hexec, heq]
      have hdisk : d = Csi.mallocDisk req.name (roundCapacity r) := by
        have hbdevs : s.bdevs ++ [d] = s.bdevs ++ [Csi.mallocDisk req.name (roundCapacity r)] :=
          congrArg Spdk.State.bdevs heq
        simpa using hbdevs
      exact .bdev hnone' rfl (hdisk ▸ hmem)
    · have hexec : (execMalloc s ⟨roundCapacity r / 512, 512, req.name⟩).2 = s := by
        simp only [execMalloc, Spdk.mallocName, if_neg hne, Spdk.register, dif_neg hnone]
        split <;> rfl
      rw [hexec]
      exact .nothing _ _
  · rw [execMalloc_not_pos hr hpos]
    exact .nothing _ _

/-- **What a request of a call does to SPDK.** -/
theorem Issues.provides (hq : Issues L c s q) (hmodest : q.Modest)
    (hstep : (server dev images).Step q s reply s') : Provides c s.spdk s'.spdk := by
  cases hq with
  | looks hlooks =>
    rw [step_looks hlooks hstep]
    exact .nothing _ _
  | mkdirAll _ =>
    obtain ⟨fs, hdev, -, rfl⟩ := step_files hstep
    exact .nothing _ _
  | unstage =>
    obtain ⟨fs, hdev, -, rfl⟩ := step_files hstep
    exact .nothing _ _
  | bindMount _ _ =>
    obtain ⟨fs, hdev, -, rfl⟩ := step_files hstep
    exact .nothing _ _
  | umount _ =>
    obtain ⟨fs, hdev, -, rfl⟩ := step_files hstep
    exact .nothing _ _
  | remove _ =>
    obtain ⟨fs, hdev, -, rfl⟩ := step_files hstep
    exact .nothing _ _
  | mountDevice _ _ _ =>
    rcases step_mountDevice hstep with ⟨e, -, rfl⟩ | ⟨-, m, hm, -, -, rfl⟩
    · exact .nothing _ _
    · exact .nothing _ _
  | mkfs _ _ =>
    rcases step_mkfs hstep with rfl | ⟨v, hv, ht, -, rfl⟩
    · exact .nothing _ _
    · exact .nothing _ _
  | start _ =>
    obtain ⟨e, he, -, rfl⟩ := step_nbd hstep
    exact .nothing _ _
  | stop _ =>
    obtain ⟨e, he, -, rfl⟩ := step_nbd hstep
    exact .nothing _ _
  | construct hname hne =>
    rcases hstep with ⟨-, rfl⟩ | ⟨-, rfl⟩
    · exact provides_construct hname hne hmodest s.spdk
    · exact .nothing _ _
  | delete =>
    rcases step_delete hstep with rfl | rfl
    · exact .nothing _ _
    · exact .deleted _ _

theorem Provides.sameBDev {s s' : Spdk.State} (h : Provides c s s') {k : String}
    (hk : k ≠ c.key) : SameBDev k s s' := by
  cases h with
  | nothing => rfl
  | bdev hd hname _ =>
    rw [SameBDev, Spdk.State.bdev?_addBDev, if_neg]
    rw [hname]
    exact hk
  | deleted v =>
    rw [SameBDev, Spdk.State.bdev?_deleteBDev, if_neg]
    exact hk

theorem Provides.mallocOnly {s s' : Spdk.State} (h : Provides c s s') (hs : MallocOnly s) :
    MallocOnly s' := by
  cases h with
  | nothing => exact hs
  | bdev hd _ hmem => exact hs.addBDev hd hmem
  | deleted v => exact hs.deleteBDev v

theorem Provides.eq_of_onNode {s s' : Spdk.State} (h : Provides c s s') (hc : c.OnNode) :
    s' = s := by
  cases h with
  | nothing => rfl
  | bdev _ _ _ => exact hc.elim
  | deleted _ => exact hc.elim

/-- Only calls that make volumes ask for BDevs. -/
theorem Issues.modest (hq : Issues L c s q)
    (hc : ∀ driver connectErr req, c ≠ .createVolume driver connectErr req) : q.Modest := by
  cases hq with
  | looks hlooks =>
    cases q with
    | spdk q =>
      cases q with
      | constructMallocBDev args => exact hlooks.elim
      | _ => trivial
    | _ => trivial
  | construct _ _ => exact absurd rfl (hc _ _ _)
  | _ => trivial

/-- The requests that are for SPDK's BDevs. -/
def Request.ForSpdk : Request → Prop
  | .spdk _ => True
  | _ => False

variable (dev images) in
/-- The host on which SPDK works. -/
abbrev spdkWorks : Server Request Request.Reply (State dev) :=
  (server dev images).reliable Request.ForSpdk

theorem body_createVolume {driver : Driver} {req : CreateVolumeRequest}
    (hcheck : Csi.checkCreateVolume req = none) :
    driver.createVolume (.localSPDK none) req =
      (Csi.Local.createVolume req.name req.requiredBytes).bind fun r =>
        .ret (r.map (volumeOf driver req)) := by
  have hwith : ∀ attributes, Csi.createVolumeWith attributes (.localSPDK none) req =
      (Csi.Local.createVolume req.name req.requiredBytes).bind fun r =>
        .ret (r.map fun bytes => ⟨req.name, bytes, attributes⟩) := by
    intro attributes
    rw [Csi.createVolumeWith, hcheck]
    refine congrArg (Prog.bind _) (funext fun r => ?_)
    cases r <;> rfl
  cases driver with
  | oimDriver => exact hwith _
  | oimDriver03 => exact hwith _

theorem body_deleteVolume {driver : Driver} {v : String} (hcheck : Csi.checkDeleteVolume v = none) :
    driver.deleteVolume (.localSPDK none) v = (Csi.Local.deleteVolume v).bind .ret := by
  rw [Csi.Driver.deleteVolume, hcheck]
  refine congrArg (Prog.bind _) (funext fun r => ?_)
  rcases r with e | ⟨⟩ <;> rfl

theorem body_validate {driver : Driver} {req : ValidateRequest} {caps : List Csi.Capability}
    (hne : req.volumeId ≠ "") (hcaps : req.volumeCapabilities = some caps) :
    driver.validateVolumeCapabilities (.localSPDK none) req =
      (Csi.Local.checkVolumeExists req.volumeId).bind fun r =>
        .ret (r.map fun _ => driver.respond req caps) := by
  simp only [Csi.Driver.validateVolumeCapabilities, if_neg hne, hcaps]
  refine congrArg (Prog.bind _) (funext fun r => ?_)
  rcases r with e | ⟨⟩ <;> rfl

/-- What a call counts on, with its BDev. -/
def KeepsBDev (L : Layout) (v : String) (s s' : State dev) : Prop :=
  Keeps L v s s' ∧ SameBDev v s.spdk s'.spdk

/-- The outline of every call, where SPDK works. -/
theorem outline_modest (c : Fitting L) (s : State dev) (hearly : c.1.early = none) :
    Prog.Safe (spdkWorks dev images) (KeepsBDev L c.1.key)
      (fun s q => Issues L c.1 s q ∧ q.Modest) (Post L c.1) c.1.body s := by
  have hsafe : Prog.Safe (spdkWorks dev images) (KeepsBDev L c.1.key) (Issues L c.1)
      (Post L c.1) c.1.body s :=
    ((discipline dev images L).outline c s hearly).narrow
      (fun _ _ _ _ => Server.step_of_reliable) fun _ _ h => h.1
  by_cases hcreate : ∃ driver connectErr req, c.1 = .createVolume driver connectErr req
  · obtain ⟨driver, connectErr, req, hc⟩ := hcreate
    refine hsafe.and_only ?_
    rw [hc]
    refine Prog.only_bind ?_ fun _ => trivial
    exact Prog.Only.embed (only_modest_createVolume driver connectErr req) fun _ h => h
  · refine hsafe.mono_may fun s q hq => ⟨hq, hq.modest fun driver connectErr req hc => ?_⟩
    exact hcreate ⟨driver, connectErr, req, hc⟩

/-- The calls, with what each counts on about its BDev. -/
def watching (dev : Numbering) (images : ConstructRBDBDevArgs → Option UInt64) (L : Layout) :
    Discipline (spdkWorks dev images) (calls L) where
  rely := KeepsBDev L
  may c s q := Issues L c.1 s q ∧ q.Modest
  post c := Post L c.1
  refl k s := ⟨Keeps.refl L k s, rfl⟩
  trans _ _ _ _ h h' := ⟨h.1.trans h'.1, h'.2.trans h.2⟩
  frame c _ _ _ _ _ hq hstep hk :=
    ⟨hq.1.keeps c.2 (Server.step_of_reliable hstep) hk,
      (hq.1.provides hq.2 (Server.step_of_reliable hstep)).sameBDev hk⟩
  outline := outline_modest

/-! ## Every run has an order -/

/-- What SPDK holds. -/
def volumes (s : State dev) : Sizes := sizes s.spdk

def MallocVolumes (s : State dev) : Prop := MallocOnly s.spdk

/-- A program of the backend, on the host. -/
theorem commits_onSpdk {v : String} {α : Type} {f : Sizes → α × Sizes} {p : Client α}
    (h : OnMap images v f p s.spdk) :
    (onSpdk p).Commits (spdkWorks dev images) (KeepsBDev L v) MallocVolumes volumes
      (fun m a m' => (a, m') = f m) none s := by
  refine Prog.Commits.embed State.spdk (fun _ _ hr => hr.2) (fun _ hinv => hinv) ?_ h
  intro q t r t' hstep
  obtain ⟨rfl, rfl⟩ := Server.reliable_step trivial hstep
  exact Server.working_step.2 ⟨rfl, rfl⟩

/-- A call that wraps the answer of the backend. -/
theorem commits_wrapped {v : String} {α β : Type} {f : Sizes → α × Sizes} {p : Client α}
    {p' : Client β} {g : α → β} {wrap : β → Answer} (hp : p' = p.bind fun a => .ret (g a))
    (h : OnMap images v f p s.spdk)
    (hspec : ∀ m, onVolumes c m = some ((f m).map (fun a => wrap (g a)) id)) :
    ((onSpdk p').bind fun b => .ret (wrap b)).Commits (spdkWorks dev images) (KeepsBDev L v)
      MallocVolumes volumes (VolumeStep c) none s := by
  have hbody : (onSpdk p).Commits (spdkWorks dev images) (KeepsBDev L v) MallocVolumes volumes
      (fun m a m' => VolumeStep c m (wrap (g a)) m') none s := by
    refine (commits_onSpdk h).mono fun m a m' heq => ?_
    simp only [VolumeStep, hspec, ← heq]
    rfl
  rw [hp, onSpdk_bind, Prog.bind_assoc]
  exact hbody.map

/-- A call of the controller server, with its effect still to come. -/
abbrev CallOnMap (images : ConstructRBDBDevArgs → Option UInt64) (L : Layout) (c : Call)
    (s : State dev) : Prop :=
  c.body.Commits (spdkWorks dev images) (KeepsBDev L c.key) MallocVolumes volumes (VolumeStep c)
    none s

theorem commits_create {driver : Driver} {req : CreateVolumeRequest}
    (hearly : (Call.createVolume driver none req).early = none) :
    CallOnMap images L (.createVolume driver none req) s := by
  have hcheck := Option.map_eq_none_iff.1 hearly
  refine commits_wrapped (body_createVolume hcheck)
    (commits_createVolume (Csi.name_ne_of_check hcheck) s.spdk) fun m => ?_
  simp only [onVolumes, hearly]

theorem commits_delete {driver : Driver} {v : String}
    (hearly : (Call.deleteVolume driver none v).early = none) :
    CallOnMap images L (.deleteVolume driver none v) s := by
  have hcheck := Option.map_eq_none_iff.1 hearly
  refine commits_wrapped (body_deleteVolume hcheck) (commits_deleteVolume v s.spdk) fun m => ?_
  simp only [onVolumes, hearly]

theorem commits_validate {driver : Driver} {req : ValidateRequest}
    (hearly : (Call.validateVolumeCapabilities driver none req).early = none) :
    CallOnMap images L (.validateVolumeCapabilities driver none req) s := by
  have hargs : req.volumeId ≠ "" ∧ ∃ caps, req.volumeCapabilities = some caps := by
    have hsome := hearly
    simp only [Call.early] at hsome
    split_ifs at hsome with hid hcaps
    exact ⟨hid, Option.ne_none_iff_exists'.1 (mt Option.isNone_iff_eq_none.2 hcaps)⟩
  obtain ⟨hne, caps, hcaps⟩ := hargs
  refine commits_wrapped (body_validate hne hcaps) (commits_checkVolumeExists hne s.spdk)
    fun m => ?_
  simp only [onVolumes, hearly, hcaps, Option.getD_some]

theorem asks_node (hc : c.OnNode) (hearly : c.early = none) : c.body.Asks := by
  cases c with
  | createVolume => exact hc.elim
  | deleteVolume => exact hc.elim
  | validateVolumeCapabilities => exact hc.elim
  | nodeStageVolume driver withSystemd connectErr limit req =>
    refine Prog.Asks.bind (Prog.Asks.embed ?_) _
    rw [Csi.Driver.nodeStageVolume, Option.map_eq_none_iff.1 hearly]
    trivial
  | nodeUnstageVolume driver connectErr v p =>
    obtain ⟨hp, hv⟩ := unstage_args driver connectErr hearly
    refine Prog.Asks.bind (Prog.Asks.embed ?_) _
    have hunstage : (Csi.unstageVolume (.localSPDK connectErr) v p).Asks := by
      rw [Csi.unstageVolume, if_neg hp, if_neg hv]
      trivial
    cases driver with
    | oimDriver => exact hunstage
    | oimDriver03 => exact hunstage
  | nodePublishVolume driver withSystemd req =>
    refine Prog.Asks.bind (Prog.Asks.embed ?_) _
    rw [Csi.Driver.nodePublishVolume, Option.map_eq_none_iff.1 hearly]
    trivial
  | nodeUnpublishVolume driver req =>
    refine Prog.Asks.bind (Prog.Asks.embed ?_) _
    rw [Csi.Driver.nodeUnpublishVolume, Option.map_eq_none_iff.1 hearly]
    trivial

/-- **The calls of the driver are atomic.** -/
theorem atomic_volumes : Atomic (watching dev images L) (fun c => c.1.Connected) MallocVolumes
    volumes (fun c => VolumeStep c.1) where
  keep _ _ _ _ _ _ hmay hstep h :=
    (hmay.1.provides hmay.2 (Server.step_of_reliable hstep)).mallocOnly h
  early _ _ _ _ hearly := volumeStep_early hearly _
  commits := by
    rintro ⟨c, hfits⟩ s hconn hearly
    by_cases hnode : c.OnNode
    · refine (outline_modest ⟨c, hfits⟩ s hearly).commits (asks_node hnode hearly) ?_
        (volumeStep_node hnode hearly)
      intro s q r s' hmay hstep
      have heq := (hmay.1.provides hmay.2 (Server.step_of_reliable hstep)).eq_of_onNode hnode
      exact congrArg sizes heq
    · cases c with
      | createVolume driver connectErr req =>
        obtain rfl : connectErr = none := hconn
        exact commits_create hearly
      | deleteVolume driver connectErr v =>
        obtain rfl : connectErr = none := hconn
        exact commits_delete hearly
      | validateVolumeCapabilities driver connectErr req =>
        obtain rfl : connectErr = none := hconn
        exact commits_validate hearly
      | nodeStageVolume => exact absurd trivial hnode
      | nodeUnstageVolume => exact absurd trivial hnode
      | nodePublishVolume => exact absurd trivial hnode
      | nodeUnpublishVolume => exact absurd trivial hnode

end Calls

/-- **Volumes are an atomic map.**  Whatever calls run side by side on a host, with whatever
failures outside of SPDK, there is a sequential order of the calls that respects which call ended
before which other one started.  In this order, `CreateVolume`, `DeleteVolume` and
`ValidateVolumeCapabilities` have the answers that the map gives, no other call changes it, and it
ends as the BDevs of SPDK. -/
theorem volumes_linearize {H : Type} (dev : Numbering)
    (images : ConstructRBDBDevArgs → Option UInt64) (L : Layout) (hash : String → H)
    (s₀ : State dev) (h₀ : MallocVolumes s₀) (evs : List (NodeEvent L)) (σ : NodeSys dev L)
    (hcalls : ∀ i c, .invoke i c ∈ evs → c.1.Connected)
    (hrun : Run (spdkWorks dev images) (calls L) hash (Sys.start s₀) evs σ) :
    ∃ ops, Linearizes (fun c => VolumeStep c.1) evs ops (volumes s₀) (volumes σ.srv) :=
  linearizes_run atomic_volumes h₀ hrun hcalls

/-- A call that makes a volume of 1 MiB. -/
def createNew : Fitting .none :=
  ⟨.createVolume .oimDriver none ⟨"new", some [⟨false, .singleNodeWriter⟩], false, 0, []⟩,
    fits_none _⟩

/-- It is made, in an order of one call. -/
theorem volumes_linearize_new : ∃ evs σ ops,
    Run (spdkWorks numbers fun _ => none) (calls .none) id (Sys.start unstagedHost)
      (evs ++ [.ret 0 createNew (.created (.ok ⟨"new", 1048576, []⟩))]) σ ∧
    Linearizes (fun c => VolumeStep c.1)
      (evs ++ [.ret 0 createNew (.created (.ok ⟨"new", 1048576, []⟩))]) ops
      (volumes unstagedHost) (volumes σ.srv) := by
  obtain ⟨es, hrpc, hrun⟩ := run_alone (spdkWorks numbers fun _ => none) (calls .none) id
    unstagedHost 0 (c := createNew) rfl
  obtain ⟨ops, hops⟩ := volumes_linearize numbers (fun _ => none) .none id unstagedHost
    (by unfold MallocVolumes MallocOnly InMemory; decide) _ _ (fun i c hmem => by
      rw [invoke_of_alone hrpc hmem]
      exact rfl) hrun
  exact ⟨_, _, ops, hrun, hops⟩

end Oim.Node
