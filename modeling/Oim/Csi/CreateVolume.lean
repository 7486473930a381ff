import Oim.Controller.Exclusive
import Oim.Csi.Backend

/-!
# CreateVolume and the data that is there already

The CSI call `CreateVolume` of both driver versions
(`pkg/oim-csi-driver/controllerserver.go`, `controllerserver0.go`) on top of
either backend, with every SPDK request free to fail.

* `Preserves` — every block device is still there, with the same name, product and
  size; `Delivered` — a volume that was promised exists and is large enough.
* `createVolume_safe_iff` — the call has both properties **exactly unless** the
  remote backend gets to a controller with a request of −1022 to −1 bytes
  (`Destructive`): rounding makes that 0, and for the controller a size of 0 means
  deletion (`createVolume_deletes`).
-/

namespace Oim.Csi

open Interaction
open Spdk (Client Rpc State Disk server ConstructRBDBDevArgs)

/-! ## The CSI call -/

/-- `VolumeCapability_AccessMode_Mode`.  Protobuf enumerations are open. -/
inductive AccessMode where
  | unknown
  | singleNodeWriter
  | singleNodeReaderOnly
  | multiNodeReaderOnly
  | multiNodeSingleWriter
  | multiNodeMultiWriter
  | other (value : ℤ)
  deriving DecidableEq

/-- A volume capability: whether it asks for a block volume, and its mode. -/
structure VolumeCapability where
  block : Bool
  mode : AccessMode
  deriving DecidableEq

/-- `csi.CreateVolumeRequest`.  `requiredBytes` is 0 if there is no capacity
range. -/
structure CreateVolumeRequest where
  name : String
  volumeCapabilities : Option (List VolumeCapability)
  hasContentSource : Bool
  requiredBytes : Int64
  parameters : List (String × String)

/-- `csi.Volume`; only version 0.3 has attributes. -/
structure Volume where
  id : String
  capacityBytes : Int64
  attributes : List (String × String)
  deriving DecidableEq

/-- The check of one capability. -/
def checkCapability (cap : VolumeCapability) : Option Status :=
  if cap.block then some ⟨.unimplemented, "Block Volume not supported"⟩
  else match cap.mode with
    | .singleNodeWriter => none
    | .singleNodeReaderOnly => none
    | .multiNodeReaderOnly => none
    | .multiNodeSingleWriter =>
      some ⟨.unimplemented, "multi-node reader, single writer not supported"⟩
    | .multiNodeMultiWriter =>
      some ⟨.unimplemented, "multi-node reader, multi-node writer not supported"⟩
    | .unknown => some ⟨.unimplemented, "UNKNOWN not supported"⟩
    | .other value => some ⟨.unimplemented, toString value ++ " not supported"⟩

/-- The checks of `CreateVolume`. -/
def checkCreateVolume (req : CreateVolumeRequest) : Option Status :=
  if req.name = "" then some ⟨.invalidArgument, "Name missing in request"⟩
  else match req.volumeCapabilities with
    | none => some ⟨.invalidArgument, "Volume Capabilities missing in request"⟩
    | some caps =>
      match caps.findSome? checkCapability with
      | some e => some e
      | none =>
        if req.hasContentSource then some ⟨.unimplemented, "snapshots not supported"⟩
        else if req.name = "" then some ⟨.invalidArgument, "empty name"⟩
        else none

/-- `CreateVolume`, up to what the response says about attributes. -/
def createVolumeWith (attributes : List (String × String)) (b : Backend)
    (req : CreateVolumeRequest) : Client (Except Status Volume) := do
  match checkCreateVolume req with
  | some e => return .error e
  | none =>
    match ← b.createVolume req.name req.requiredBytes with
    | .error e => return .error e
    | .ok actualBytes => return .ok ⟨req.name, actualBytes, attributes⟩

/-- The two versions of the driver. -/
inductive Driver where
  /-- CSI 1.0. -/
  | oimDriver
  /-- CSI 0.3. -/
  | oimDriver03

/-- `oimDriver.CreateVolume` and `oimDriver03.CreateVolume`. -/
def Driver.createVolume : Driver → Backend → CreateVolumeRequest → Client (Except Status Volume)
  | .oimDriver, b, req => createVolumeWith [] b req
  | .oimDriver03, b, req => createVolumeWith req.parameters b req

theorem name_ne_of_check {req : CreateVolumeRequest} (h : checkCreateVolume req = none) :
    req.name ≠ "" := by
  intro hname
  rw [checkCreateVolume, if_pos hname] at h
  exact absurd h (by simp)

/-! ## What is wanted -/

/-- Every block device is still there, unchanged. -/
def Preserves (s s' : State) : Prop := ∀ n d, s.bdev? n = some d → s'.bdev? n = some d

/-- If a volume is promised, then it exists and has the required size. -/
def Delivered {α : Type} (name : String) (required : ℤ) (result : Except Status α)
    (s : State) : Prop :=
  ∀ a, result = .ok a → ∃ d, s.bdev? name = some d ∧ required ≤ d.bytes

theorem Preserves.refl (s : State) : Preserves s s := fun _ _ h => h

theorem preserves_addBDev {s : State} {d : Disk} (hd : s.bdev? d.name = none) :
    Preserves s (s.addBDev d hd) := by
  intro n d' hd'
  have hne : n ≠ d.name := by
    rintro rfl
    exact absurd (hd.symm.trans hd') (by simp)
  rw [State.bdev?_addBDev, if_neg hne, hd']

theorem delivered_error {α : Type} {name : String} {required : ℤ} {e : Status} {s : State} :
    Delivered name required (.error e : Except Status α) s := fun _ h => absurd h (by simp)

/-! ## What the backends do -/

/-- Wherever its SPDK requests fail, the program ends in `post`. -/
def Ensures {α : Type} (images : ConstructRBDBDevArgs → Option UInt64)
    (post : α → State → Prop) (p : Client α) (s : State) : Prop :=
  Prog.Safe (server images) Eq (fun _ _ => True) post p s

variable {images : ConstructRBDBDevArgs → Option UInt64} {v : String} {r : Int64} {s : State}

theorem Ensures.runs {α : Type} {post : α → State → Prop} {p : Client α} {a : α} {s' : State}
    (h : Ensures images post p s) (hrun : Prog.Runs (server images) p s a s') : post a s' :=
  (Prog.Safe.runs (fun _ => rfl) h hrun).2

theorem Ensures.bind {α β : Type} {post : α → State → Prop} {post' : β → State → Prop}
    {p : Client α} {f : α → Client β} (h : Ensures images post p s)
    (hf : ∀ a s', post a s' → Ensures images post' (f a) s') :
    Ensures images post' (p.bind f) s :=
  Prog.safe_bind (fun _ => rfl) (Prog.Safe.mono h hf)

theorem ensures_ret {α : Type} {post : α → State → Prop} {a : α} (h : post a s) :
    Ensures images post (.ret a) s := by
  rintro s' rfl
  exact h

/-- Both properties, for a call that started in `s`. -/
def Correct {α : Type} (s : State) (v : String) (required : ℤ) (result : Except Status α)
    (s' : State) : Prop :=
  Preserves s s' ∧ Delivered v required result s'

theorem correct_error {α : Type} {required : ℤ} {e : Status} :
    Correct s v required (.error e : Except Status α) s :=
  ⟨Preserves.refl s, delivered_error⟩

/-- An error promises nothing. -/
theorem Correct.error {α β : Type} {required : ℤ} {result : Except Status α} {s' : State}
    (h : Correct s v required result s') {e : Status} :
    Correct s v required (.error e : Except Status β) s' :=
  ⟨h.1, delivered_error⟩

/-- All successes promise the same. -/
theorem Correct.ok {α β : Type} {required : ℤ} {a : α} {s' : State}
    (h : Correct s v required (.ok a) s') {b : β} : Correct s v required (.ok b) s' :=
  ⟨h.1, fun _ _ => h.2 a rfl⟩

/-- A new Malloc BDev of enough blocks. -/
theorem correct_construct {α : Type} {required : ℤ} {result : Except Status α} {d : Disk}
    {n : Int64} (hd : s.bdev? d.name = none) (hdn : d.name = v)
    (hlen : d.blocklen = UInt32.ofNat (512 : Int64).toInt.toNat)
    (hcnt : d.blockcnt = UInt64.ofNat n.toInt.toNat) (hpos : 0 < n.toInt)
    (hle : required ≤ 512 * n.toInt) : Correct s v required result (s.addBDev d hd) := by
  refine ⟨preserves_addBDev hd, fun _ _ => ⟨d, ?_, ?_⟩⟩
  · rw [State.bdev?_addBDev, if_pos hdn.symm]
  · rw [bytes_of_construct hlen hcnt hpos]
    exact hle

theorem ensures_constructVolume (hne : v ≠ "") :
    Ensures images (Correct s v r.toInt) (Local.constructVolume v r) s := by
  unfold Local.constructVolume
  rcases checkCapacity_eq r with ⟨hr, hc⟩ | ⟨-, e, hc⟩
  · simp only [hc]
    refine Client.safe_constructMallocBDev hne (fun _ _ => trivial) ?_ ?_
    · rintro _ e rfl
      exact ensures_ret correct_error
    · rintro _ d hd n rfl hdn hlen hcnt hpos
      refine ensures_ret (correct_construct hd hdn hlen hcnt hpos ?_)
      rw [toInt_blocks hr]
      exact le_blocksFor r.toInt
  · simp only [hc]
    exact ensures_ret correct_error

theorem ensures_local (hne : v ≠ "") :
    Ensures images (Correct s v r.toInt) (Local.createVolume v r) s := by
  refine Client.safe_getBDevs (fun _ _ => trivial) ?_ ?_
  · rintro _ e rfl
    show Ensures images _ (if _ then _ else _) _
    split_ifs
    · exact ensures_ret correct_error
    · exact ensures_constructVolume hne
  · rintro s bs rfl hbs
    obtain ⟨d, b, hd, hdec, rfl⟩ := Spdk.getBDevs_ok hne hbs
    show Ensures images _ (if _ then _ else _) _
    split_ifs with hsize
    · refine ensures_ret ⟨Preserves.refl _, fun c _ => ⟨d, hd, ?_⟩⟩
      exact (Int64.le_iff_toInt_le.1 hsize).trans (size_le hdec)
    · exact ensures_ret correct_error

/-- Provisioning a number of whole blocks. -/
theorem ensures_provision (c : Controller) {size : Int64} (hsize : size ≠ 0)
    (hblocks : size.toInt = 512 * (size / 512).toInt) :
    Ensures images (Correct s v size.toInt) (c.provisionMallocBDev v size) s := by
  unfold Controller.provisionMallocBDev
  cases hcheck : c.checkName "empty BDev name" v with
  | some e => exact ensures_ret correct_error
  | none =>
    have hne : v ≠ "" := (Controller.checkName_eq_none.1 hcheck).1
    have hconstruct :
        Ensures images (Correct s v size.toInt) (Controller.constructMalloc v size) s := by
      refine Client.safe_constructMallocBDev hne (fun _ _ => trivial) ?_ ?_
      · rintro _ e rfl
        exact ensures_ret correct_error
      · rintro _ d hd n rfl hdn hlen hcnt hpos
        exact ensures_ret (correct_construct hd hdn hlen hcnt hpos hblocks.le)
    show Ensures images _ (Controller.provisionMallocBDevLocked v size) s
    rw [Controller.provisionMallocBDevLocked, if_pos hsize]
    refine Client.safe_getBDevs (fun _ _ => trivial) ?_ ?_
    · rintro _ e rfl
      exact hconstruct
    · rintro s bs rfl hbs
      obtain ⟨d, b, hd, hdec, rfl⟩ := Spdk.getBDevs_ok hne hbs
      show Ensures images _ (if _ then _ else _) _
      split_ifs with heq
      · exact ensures_ret correct_error
      · refine ensures_ret ⟨Preserves.refl _, fun c _ => ⟨d, hd, ?_⟩⟩
        rw [not_ne_iff, Int64.mul_comm] at heq
        exact heq ▸ size_le hdec

theorem ensures_link {α : Type} (link : Link) {required : ℤ} {p : Client (Except Status α)}
    (h : Ensures images (Correct s v required) p s) :
    Ensures images (Correct s v required) (link.call p) s := by
  cases link with
  | undialable err => exact ensures_ret correct_error
  | unreachable status => exact ensures_ret correct_error
  | replyLost status => exact h.bind fun a s' ha => ensures_ret ha.error
  | up => exact h

/-- Is a call of the controller carried out? -/
def Link.carried : Link → Bool
  | .undialable _ => false
  | .unreachable _ => false
  | .replyLost _ => true
  | .up => true

/-- Is a call of the controller answered? -/
def Link.answered : Link → Bool
  | .undialable _ => false
  | .unreachable _ => false
  | .replyLost _ => false
  | .up => true

/-- The calls that the controller takes for a deletion: it gets them and talks to
SPDK, and the required bytes are rounded to 0.  That does harm if there is a volume
to be deleted, or if the driver hears that all went well. -/
def Destructive (s : State) (v : String) (r : Int64) : Backend → Prop
  | .localSPDK _ => False
  | .remoteSPDK link controller => link.carried = true ∧ controller.connected = true ∧
      (-1022 ≤ r.toInt ∧ r.toInt ≤ -1) ∧ (link.answered = true ∨ (s.bdev? v).isSome = true)

/-- A deletion, with nothing there to be deleted. -/
theorem ensures_provision_zero (c : Controller) (hnone : s.bdev? v = none) :
    Ensures images (fun _ s' => s' = s) (c.provisionMallocBDev v 0) s := by
  unfold Controller.provisionMallocBDev
  cases hcheck : c.checkName "empty BDev name" v with
  | some e => exact ensures_ret rfl
  | none =>
    show Ensures images _ (Controller.provisionMallocBDevLocked v 0) s
    rw [Controller.provisionMallocBDevLocked, if_neg (by simp)]
    refine Client.safe_deleteBDev (fun _ _ => trivial) ?_ ?_
    · rintro _ e rfl
      exact ensures_ret rfl
    · rintro _ rfl
      exact ensures_ret (State.deleteBDev_of_none hnone)

/-- The deletion does no harm where it is not carried out, or where nothing is
deleted and the driver does not hear of it. -/
theorem ensures_provision_harmless (link : Link) (c : Controller) {required : ℤ}
    (h : ¬ (link.carried = true ∧ c.connected = true ∧
      (link.answered = true ∨ (s.bdev? v).isSome = true))) :
    Ensures images (Correct s v required) (Remote.provision link c v 0) s := by
  unfold Remote.provision
  by_cases hconn : c.connected = true
  · cases link with
    | undialable err => exact ensures_ret correct_error
    | unreachable status => exact ensures_ret correct_error
    | up => exact absurd ⟨rfl, hconn, Or.inl rfl⟩ h
    | replyLost status =>
      have hnone : s.bdev? v = none := by
        by_contra hsome
        exact h ⟨rfl, hconn, Or.inr (Option.isSome_iff_ne_none.2 hsome)⟩
      refine (ensures_provision_zero c hnone).bind fun a s' hs' => ?_
      rw [hs']
      exact ensures_ret correct_error
  · apply ensures_link
    unfold Controller.provisionMallocBDev
    cases hcheck : c.checkName "empty BDev name" v with
    | some e => exact ensures_ret correct_error
    | none => exact absurd (Controller.checkName_eq_none.1 hcheck).2 hconn

theorem ensures_remote (link : Link) (c : Controller)
    (h : ¬ Destructive s v r (.remoteSPDK link c)) :
    Ensures images (Correct s v r.toInt) (Remote.createVolume link c v r) s := by
  unfold Remote.createVolume
  rcases checkCapacity_eq r with ⟨hr, hc⟩ | ⟨-, e, hc⟩
  · simp only [hc]
    have hprovision : Ensures images (Correct s v r.toInt)
        (Remote.provision link c v (roundCapacity r)) s := by
      by_cases hzero : roundCapacity r = 0
      · rw [hzero]
        refine ensures_provision_harmless link c fun hbad => h ?_
        exact ⟨hbad.1, hbad.2.1, (roundCapacity_eq_zero_iff hr).1 hzero, hbad.2.2⟩
      · have hblocks : (roundCapacity r).toInt = 512 * (roundCapacity r / 512).toInt := by
          rw [toInt_blocks hr, toInt_roundCapacity hr]
        refine ensures_link link ((ensures_provision c hzero hblocks).mono ?_)
        rintro res s' ⟨hkeep, hdeliver⟩
        refine ⟨hkeep, fun a ha => ?_⟩
        obtain ⟨d, hd, hle⟩ := hdeliver a ha
        rw [toInt_roundCapacity hr] at hle
        exact ⟨d, hd, (le_blocksFor r.toInt).trans hle⟩
    refine hprovision.bind fun res s' hres => ?_
    cases res with
    | error e => exact ensures_ret hres.error
    | ok u => exact ensures_ret hres.ok
  · simp only [hc]
    exact ensures_ret correct_error

/-! ## When it goes wrong -/

/-- For the controller, size 0 means deletion. -/
theorem run_provision_zero {c : Controller} (hne : v ≠ "") (hconn : c.connected = true) :
    (c.provisionMallocBDev v 0).run (server images) s = (.ok (), s.deleteBDev v) := by
  unfold Controller.provisionMallocBDev
  rw [Controller.checkName_eq_none.2 ⟨hne, hconn⟩]
  show (Controller.provisionMallocBDevLocked v 0).run (server images) s = _
  rw [Controller.provisionMallocBDevLocked, if_neg (by simp), Prog.bind_eq, Client.run_deleteBDev,
    Spdk.execDelete]
  cases hd : s.bdev? v with
  | none => rw [State.deleteBDev_of_none hd]; rfl
  | some d => rfl

variable (images s) in
/-- **`CreateVolume` as a deletion.**  The driver hears of it as a success. -/
theorem createVolume_deletes {link : Link} {c : Controller} (hne : v ≠ "")
    (hlink : link.carried = true) (hconn : c.connected = true)
    (hr : -1022 ≤ r.toInt ∧ r.toInt ≤ -1) :
    (((Backend.remoteSPDK link c).createVolume v r).run (server images) s).2 = s.deleteBDev v ∧
      (link.answered = true →
        (((Backend.remoteSPDK link c).createVolume v r).run (server images) s).1 = .ok 0) := by
  have hcap : checkCapacity r = .ok 0 := by
    rcases checkCapacity_eq r with ⟨hlt, hc⟩ | ⟨hge, -⟩
    · rw [hc, (roundCapacity_eq_zero_iff hlt).2 hr]
    · omega
  simp only [Backend.createVolume, Remote.createVolume, hcap, Prog.bind_eq, Remote.provision]
  rw [Prog.run_bind]
  cases link with
  | undialable err => exact absurd hlink (by simp [Link.carried])
  | unreachable status => exact absurd hlink (by simp [Link.carried])
  | replyLost status =>
    simp only [Link.call, Prog.bind_eq]
    rw [Prog.run_bind, run_provision_zero hne hconn]
    exact ⟨rfl, fun h => absurd h (by simp [Link.answered])⟩
  | up =>
    simp only [Link.call]
    rw [run_provision_zero hne hconn]
    exact ⟨rfl, fun _ => rfl⟩

/-! ## The CSI call -/

theorem ensures_backend {b : Backend} (hne : v ≠ "") (h : ¬ Destructive s v r b) :
    Ensures images (Correct s v r.toInt) (b.createVolume v r) s := by
  cases b with
  | localSPDK connectErr =>
    cases connectErr with
    | some err => exact ensures_ret correct_error
    | none => exact ensures_local hne
  | remoteSPDK link c => exact ensures_remote link c h

theorem ensures_createVolumeWith {attributes : List (String × String)} {b : Backend}
    {req : CreateVolumeRequest}
    (h : ¬ (checkCreateVolume req = none ∧ Destructive s req.name req.requiredBytes b)) :
    Ensures images (Correct s req.name req.requiredBytes.toInt)
      (createVolumeWith attributes b req) s := by
  unfold createVolumeWith
  cases hcheck : checkCreateVolume req with
  | some e => exact ensures_ret correct_error
  | none =>
    refine (ensures_backend (name_ne_of_check hcheck) fun hbad => h ⟨hcheck, hbad⟩).bind ?_
    intro res s' hres
    cases res with
    | error e => exact ensures_ret hres.error
    | ok c => exact ensures_ret hres.ok

/-- What `CreateVolume` makes of the answer of its backend. -/
theorem run_createVolumeWith {attributes : List (String × String)} {b : Backend}
    {req : CreateVolumeRequest} (hcheck : checkCreateVolume req = none) :
    (createVolumeWith attributes b req).run (server images) s =
      (((b.createVolume req.name req.requiredBytes).run (server images) s).1.map
          fun actualBytes => ⟨req.name, actualBytes, attributes⟩,
        ((b.createVolume req.name req.requiredBytes).run (server images) s).2) := by
  simp only [createVolumeWith, hcheck, Prog.bind_eq]
  rw [Prog.run_bind]
  cases ((b.createVolume req.name req.requiredBytes).run (server images) s).1 <;> rfl

/-- A destructive call breaks one of the two promises. -/
theorem not_correct_of_destructive {attributes : List (String × String)} {b : Backend}
    {req : CreateVolumeRequest} (hcheck : checkCreateVolume req = none)
    (hbad : Destructive s req.name req.requiredBytes b) :
    ¬ Correct s req.name req.requiredBytes.toInt
      ((createVolumeWith attributes b req).run (server images) s).1
      ((createVolumeWith attributes b req).run (server images) s).2 := by
  rintro ⟨hkeep, hdeliver⟩
  cases b with
  | localSPDK connectErr => exact hbad
  | remoteSPDK link c =>
    obtain ⟨hlink, hconn, hr, hharm⟩ := hbad
    obtain ⟨hstate, hresult⟩ :=
      createVolume_deletes images s (name_ne_of_check hcheck) hlink hconn hr
    have hgone : (s.deleteBDev req.name).bdev? req.name = none := by
      rw [State.bdev?_deleteBDev, if_pos rfl]
    rw [run_createVolumeWith hcheck] at hkeep hdeliver
    simp only [hstate] at hkeep hdeliver
    rcases hharm with hanswer | hsome
    · -- success is reported, and there is no volume
      obtain ⟨d, hd, -⟩ := hdeliver _ (congrArg (Except.map _) (hresult hanswer))
      exact absurd (hgone.symm.trans hd) (by simp)
    · -- the volume was there, and is lost
      obtain ⟨d, hd⟩ := Option.isSome_iff_exists.1 hsome
      exact absurd (hgone.symm.trans (hkeep _ d hd)) (by simp)

/-- **When `CreateVolume` is safe.**  On every SPDK and in every run, whatever
fails, it leaves all block devices as they were and delivers what it promises —
exactly unless it passes the checks and gets to a controller as a deletion. -/
theorem createVolume_safe_iff (images : ConstructRBDBDevArgs → Option UInt64) (driver : Driver)
    (b : Backend) (req : CreateVolumeRequest) (s : State) :
    (∀ result s', Prog.Runs (server images) (driver.createVolume b req) s result s' →
      Preserves s s' ∧ Delivered req.name req.requiredBytes.toInt result s') ↔
    ¬ (checkCreateVolume req = none ∧ Destructive s req.name req.requiredBytes b) := by
  obtain ⟨attributes, hdriver⟩ : ∃ attributes,
      driver.createVolume b req = createVolumeWith attributes b req := by
    cases driver with
    | oimDriver => exact ⟨_, rfl⟩
    | oimDriver03 => exact ⟨_, rfl⟩
  rw [hdriver]
  constructor
  · rintro h ⟨hcheck, hbad⟩
    exact not_correct_of_destructive hcheck hbad (h _ _ (Prog.runs_run _ _ _))
  · intro h result s' hrun
    exact (ensures_createVolumeWith h).runs hrun

/-- The local backend is safe even for these requests. -/
theorem createVolume_safe_iff_local :
    let req : CreateVolumeRequest := ⟨"vol", some [⟨false, .singleNodeWriter⟩], false, -1, []⟩
    ∀ s result s', Prog.Runs (server fun _ => none)
      (Driver.oimDriver.createVolume (.localSPDK none) req) s result s' →
      Preserves s s' ∧ Delivered "vol" (-1) result s' :=
  fun s => (createVolume_safe_iff (fun _ => none) .oimDriver (.localSPDK none) _ s).2 fun h => h.2

/-- Asking the remote backend for −1 bytes under the name of an existing volume
succeeds, and deletes the volume. -/
theorem createVolume_destroys_vol :
    let req : CreateVolumeRequest := ⟨"vol", some [⟨false, .singleNodeWriter⟩], false, -1, []⟩
    let out := (Driver.oimDriver.createVolume (.remoteSPDK .up Controller.configured) req).run
      (server fun _ => none) Controller.oneVolume
    Controller.oneVolume.bdev? "vol" = some ⟨"vol", "Malloc disk", 512, 2⟩ ∧
      out.1 = .ok ⟨"vol", 0, []⟩ ∧ out.2.bdev? "vol" = none :=
  ⟨rfl, rfl, rfl⟩

end Oim.Csi
