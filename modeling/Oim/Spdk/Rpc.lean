import Oim.Lib.Pattern
import Oim.Lib.Prog
import Oim.Spdk.State

/-!
# The SPDK JSON-RPC calls that OIM makes

The client side is `pkg/spdk/spdk.go` and `pkg/spdk/client.go`: arguments,
results and errors as the Go code sees them.  An error is its text, because that
is all `net/rpc` passes on; `isJSONError` reads the error code back out of it.

The server side, `exec`, is what the vendored SPDK does for each method
(`lib/bdev/rpc/bdev_rpc.c`, `lib/bdev/malloc/bdev_malloc_rpc.c`,
`lib/bdev/rbd/bdev_rbd_rpc.c`, `lib/vhost/vhost_rpc.c`), and `server` is that
daemon with the freedom to fail any call without effect.

* `step_error`, `step_add_ok`, … — everything a call can do to the daemon: nothing
  if it reports an error, otherwise by method.
* `attachments` — the targets of a volume in a `get_vhost_controllers` reply, in
  the order of the reply; `mem_attachments_dump` and `nodup_attachments_dump` say
  that this is exactly where the volume was at that moment.
-/

namespace Oim.Spdk

open Interaction

/-! ## Errors -/

/-- `ERROR_INVALID_PARAMS`. -/
def errorInvalidParams : Int := -32602

/-- The text `ReadResponseHeader` makes of an `ERROR_INVALID_PARAMS` reply. -/
def invalidParams (msg : String) : String := "code: -32602 msg: " ++ msg

/-- The decimal number with the given digits. -/
def digitsVal (ds : List Char) : ℕ := ds.foldl (fun n c => 10 * n + (c.toNat - '0'.toNat)) 0

/-- The regular expression `^code: (-?\d+) msg: (.*)$`, with or without the sign.  The dot does not
match a line break. -/
def jsonError (neg : Bool) : Pattern.Expr Char :=
  Pattern.lits ("code: ".toList ++ if neg then ['-'] else []) ++
    .rep Char.isDigit 1 none true :: (Pattern.lits " msg: ".toList ++
      [.rep (· ≠ '\n') 0 none true, .stop])

/-- What it captures first, as the sign and the digits.  It is tried with the sign first. -/
def matchJSONError (text : String) : Option (Bool × List Char) :=
  match Pattern.matchAt (jsonError true) text.toList with
  | some (ds :: _, _) => some (true, ds)
  | _ =>
    match Pattern.matchAt (jsonError false) text.toList with
    | some (ds :: _, _) => some (false, ds)
    | _ => none

/-- `strconv.Atoi` on an optional sign and digits: the value, if it fits into an
`int`. -/
def atoi (neg : Bool) (ds : List Char) : Option Int :=
  let v : Int := if neg then -(digitsVal ds : Int) else digitsVal ds
  if -2 ^ 63 ≤ v ∧ v < 2 ^ 63 then some v else none

/-- `IsJSONError`. -/
def isJSONError (err : String) (code : Int) : Bool :=
  match matchJSONError err with
  | none => false
  | some (neg, ds) =>
    match atoi neg ds with
    | none => false
    | some errorCode => code = 0 ∨ errorCode = code

/-! ## Arguments and results -/

/-- `spdk.BDev`, without the fields that OIM never reads. -/
structure BDev where
  name : String
  productName : String
  blockSize : Int64
  numBlocks : Int64
  deriving DecidableEq

/-- `spdk.ConstructBDevArgs`; the `uuid` is never set. -/
structure ConstructBDevArgs where
  numBlocks : Int64
  blockSize : Int64
  name : String
  deriving DecidableEq

/-- `spdk.ConstructRBDBDevArgs`. -/
structure ConstructRBDBDevArgs where
  blockSize : Int64
  name : String
  userID : String
  poolName : String
  rbdName : String
  config : List (String × String)
  deriving DecidableEq

/-- `spdk.AddVHostSCSILUNArgs`. -/
structure AddVHostSCSILUNArgs where
  controller : String
  scsiTargetNum : ℕ
  bdevName : String
  deriving DecidableEq

/-- `spdk.RemoveVHostSCSITargetArgs`. -/
structure RemoveVHostSCSITargetArgs where
  controller : String
  scsiTargetNum : ℕ
  deriving DecidableEq

/-- `spdk.SCSIControllerLUN`. -/
structure SCSIControllerLUN where
  lun : ℕ
  bdevName : String
  deriving DecidableEq

/-- `spdk.SCSIControllerTarget`, without the name and the ID that OIM never
reads. -/
structure SCSIControllerTarget where
  luns : List SCSIControllerLUN
  scsiDevNum : ℕ
  deriving DecidableEq

/-- The values of `spdk.BackendSpecificType`: a parsed `SCSIControllerSpecific`
or some other JSON value. -/
inductive BackendSpecific where
  | scsi (targets : List SCSIControllerTarget)
  | other
  deriving DecidableEq

/-- `spdk.Controller`, without its CPU mask. -/
structure Controller where
  controller : String
  backendSpecific : List (String × BackendSpecific)
  deriving DecidableEq

/-- The methods. -/
inductive Rpc where
  | getBDevs (name : String)
  | deleteBDev (name : String)
  | constructMallocBDev (args : ConstructBDevArgs)
  | constructRBDBDev (args : ConstructRBDBDevArgs)
  | addVHostSCSILUN (args : AddVHostSCSILUNArgs)
  | removeVHostSCSITarget (args : RemoveVHostSCSITargetArgs)
  | getVHostControllers
  deriving DecidableEq

/-- What a method returns when there is no error. -/
def Rpc.Result : Rpc → Type
  | .getBDevs _ => List BDev
  | .deleteBDev _ => Unit
  | .constructMallocBDev _ => String
  | .constructRBDBDev _ => String
  | .addVHostSCSILUN _ => Unit
  | .removeVHostSCSITarget _ => Unit
  | .getVHostControllers => List Controller

/-- The result of a call: an error text or the result of the method. -/
def Rpc.Reply (q : Rpc) : Type := Except String q.Result

/-! ## What the daemon does -/

/-- `num_blocks` is a `uint64` in SPDK and an `int64` in `spdk.BDev`: decoding the
reply fails for what does not fit.  This is the error of the call alone; that the
connection ends with it is in `Session`. -/
def decodeBDev (d : Disk) : Except String BDev :=
  if d.blockcnt.toNat < 2 ^ 63 then
    .ok ⟨d.name, d.productName, Int64.ofNat d.blocklen.toNat, Int64.ofNat d.blockcnt.toNat⟩
  else
    .error ("reading body json: cannot unmarshal number " ++ toString d.blockcnt.toNat ++
      " into Go struct field BDev.num_blocks of type int64")

/-- `get_bdevs`.  The Go client leaves an empty name out of the request, which
asks for all block devices. -/
def getBDevs (s : State) (name : String) : Except String (List BDev) :=
  if name = "" then s.bdevs.mapM decodeBDev
  else match s.bdev? name with
    | none => .error (invalidParams "Invalid parameters")
    | some d => [d].mapM decodeBDev

/-- What a request with a name returns. -/
theorem getBDevs_named {s : State} {name : String} (hne : name ≠ "") :
    getBDevs s name = match s.bdev? name with
      | none => .error (invalidParams "Invalid parameters")
      | some d => (decodeBDev d).map fun b => [b] := by
  unfold getBDevs
  rw [if_neg hne]
  cases s.bdev? name with
  | none => rfl
  | some d =>
    simp only [List.mapM_cons, List.mapM_nil]
    cases decodeBDev d <;> rfl

theorem getBDevs_some {s : State} {name : String} (hne : name ≠ "") {d : Disk} {b : BDev}
    (hd : s.bdev? name = some d) (hb : decodeBDev d = .ok b) : getBDevs s name = .ok [b] := by
  rw [getBDevs_named hne, hd]
  simp only [hb]
  rfl

theorem getBDevs_ok {s : State} {name : String} (hne : name ≠ "") {bs : List BDev}
    (h : getBDevs s name = .ok bs) :
    ∃ d b, s.bdev? name = some d ∧ decodeBDev d = .ok b ∧ bs = [b] := by
  rw [getBDevs_named hne] at h
  cases hb : s.bdev? name with
  | none => rw [hb] at h; exact absurd h (by simp)
  | some d =>
    rw [hb] at h
    cases hd : decodeBDev d with
    | error e => simp [hd, Except.map] at h
    | ok b =>
      simp only [hd, Except.map, Except.ok.injEq] at h
      exact ⟨d, b, rfl, hd, h.symm⟩

theorem decodeBDev_ok {d : Disk} {b : BDev} (h : decodeBDev d = .ok b) :
    d.blockcnt.toNat < 2 ^ 63 ∧ b = ⟨d.name, d.productName, Int64.ofNat d.blocklen.toNat,
      Int64.ofNat d.blockcnt.toNat⟩ := by
  unfold decodeBDev at h
  split_ifs at h with hlt
  exact ⟨hlt, (Except.ok.inj h).symm⟩

/-- `delete_bdev`. -/
def execDelete (s : State) (name : String) : Except String Unit × State :=
  match s.bdev? name with
  | none => (.error (invalidParams "Invalid parameters"), s)
  | some _ => (.ok (), s.deleteBDev name)

/-- `spdk_bdev_register`, which refuses a name that is in use. -/
def register (s : State) (d : Disk) : Except String String × State :=
  if h : s.bdev? d.name = none then (.ok d.name, s.addBDev d h)
  else (.error (invalidParams "Invalid parameters"), s)

/-- The name of a new Malloc disk: the Go client leaves an empty name out, and
then SPDK makes one up. -/
def mallocName (s : State) (name : String) : String × State :=
  if name = "" then
    ("Malloc" ++ toString s.mallocDiskCount, { s with mallocDiskCount := s.mallocDiskCount + 1 })
  else (name, s)

/-- `construct_malloc_bdev`.  The JSON decoder takes no negative number of blocks
and only 32 bits of block size; `create_malloc_disk` refuses a disk without
blocks. -/
def execMalloc (s : State) (args : ConstructBDevArgs) : Except String String × State :=
  if 0 < args.numBlocks.toInt ∧ 0 ≤ args.blockSize.toInt ∧ args.blockSize.toInt < 2 ^ 32 then
    let n := mallocName s args.name
    register n.2 ⟨n.1, mallocProduct, UInt32.ofNat args.blockSize.toInt.toNat,
      UInt64.ofNat args.numBlocks.toInt.toNat⟩
  else (.error (invalidParams "Invalid parameters"), s)

/-- `construct_rbd_bdev`.  `images` is the Ceph cluster: the size of the image the
arguments lead to, if librbd can open it.  The controller always names its block
device, so the names SPDK makes up are not modelled here. -/
def execRBD (images : ConstructRBDBDevArgs → Option UInt64) (s : State)
    (args : ConstructRBDBDevArgs) : Except String String × State :=
  match images args with
  | none => (.error (invalidParams "Invalid parameters"), s)
  | some size =>
    if 0 < args.blockSize.toInt ∧ args.blockSize.toInt < 2 ^ 32 then
      let blocklen := UInt32.ofNat args.blockSize.toInt.toNat
      register s ⟨args.name, rbdProduct, blocklen, size / blocklen.toUInt64⟩
    else (.error (invalidParams "Invalid parameters"), s)

/-- `add_vhost_scsi_lun`. -/
def execAdd (s : State) (args : AddVHostSCSILUNArgs) : Except String Unit × State :=
  let name := s.resolve args.controller
  match s.vhost? name with
  | none => (.error (invalidParams "No such device"), s)
  | some h =>
    if h.backend.hasTarget args.scsiTargetNum = false then
      (.error (invalidParams "Invalid argument"), s)
    else if (s.lun name args.scsiTargetNum).isSome then (.error (invalidParams "File exists"), s)
    else if hb : (s.bdev? args.bdevName).isSome then
      (.ok (), s.setLun name args.scsiTargetNum (some args.bdevName) (by
        intro v hv
        cases hv
        exact State.mem_names_iff.2 hb))
    else (.error (invalidParams "Invalid argument"), s)

/-- `remove_vhost_scsi_target`. -/
def execRemove (s : State) (args : RemoveVHostSCSITargetArgs) : Except String Unit × State :=
  let name := s.resolve args.controller
  match s.vhost? name with
  | none => (.error (invalidParams "No such device"), s)
  | some h =>
    if maxDevs ≤ args.scsiTargetNum then (.error (invalidParams "Invalid argument"), s)
    else if (h.lun args.scsiTargetNum).isSome then
      (.ok (), s.setLun name args.scsiTargetNum none (by simp))
    else (.error (invalidParams "No such device"), s)

/-- A controller in the reply to `get_vhost_controllers`
(`spdk_vhost_scsi_dump_info_json`): empty targets are left out. -/
def VHost.dump (h : VHost) : Controller where
  controller := h.ctrlr
  backendSpecific := match h.backend with
    | .scsi _ => [("scsi", .scsi ((List.range maxDevs).filterMap fun t =>
        (h.lun t).map fun v => ⟨[⟨0, v⟩], t⟩))]
    | .block => [("block", .other)]

/-- `get_vhost_controllers`. -/
def dump (s : State) : List Controller := s.vhosts.map VHost.dump

/-- What each method does on a daemon that works. -/
def exec (images : ConstructRBDBDevArgs → Option UInt64) : (q : Rpc) → State → q.Reply × State
  | .getBDevs name, s => (getBDevs s name, s)
  | .deleteBDev name, s => execDelete s name
  | .constructMallocBDev args, s => execMalloc s args
  | .constructRBDBDev args, s => execRBD images s args
  | .addVHostSCSILUN args, s => execAdd s args
  | .removeVHostSCSITarget args, s => execRemove s args
  | .getVHostControllers, s => (.ok (dump s), s)

/-- The daemon: each call is carried out, or fails with some error and changes
nothing. -/
def server (images : ConstructRBDBDevArgs → Option UInt64) : Server Rpc Rpc.Reply State where
  exec := exec images
  Fault q r := ∃ e : String, r = (Except.error e : Except String q.Result)

/-! ## What a call can do -/

section Steps

variable {images : ConstructRBDBDevArgs → Option UInt64} {q : Rpc} {s s' : State}

/-- A successful call was carried out. -/
theorem step_ok {x : q.Result}
    (h : (server images).Step q s (Except.ok x : Except String q.Result) s') :
    exec images q s = ((Except.ok x : Except String q.Result), s') := by
  rcases h with ⟨hr, hs⟩ | ⟨⟨e, he⟩, -⟩
  · exact Prod.ext hr.symm hs.symm
  · exact absurd he (by simp)

/-- Does the call leave it to SPDK to make up a name? -/
def Rpc.anonymous : Rpc → Bool
  | .constructMallocBDev args => args.name = ""
  | _ => false

theorem register_error {d : Disk} {e : String} (h : (register s d).1 = .error e) :
    (register s d).2 = s := by
  unfold register at h ⊢
  split_ifs at h ⊢
  rfl

theorem execDelete_error {name e : String} (h : (execDelete s name).1 = .error e) :
    (execDelete s name).2 = s := by
  unfold execDelete at h ⊢
  cases hb : s.bdev? name with
  | none => rfl
  | some d => rw [hb] at h; exact absurd h (by simp)

theorem execMalloc_error {args : ConstructBDevArgs} {e : String} (hne : args.name ≠ "")
    (h : (execMalloc s args).1 = .error e) : (execMalloc s args).2 = s := by
  simp only [execMalloc, mallocName, if_neg hne] at h ⊢
  split_ifs at h ⊢
  · exact register_error h
  · rfl

theorem execRBD_error {args : ConstructRBDBDevArgs} {e : String}
    (h : (execRBD images s args).1 = .error e) : (execRBD images s args).2 = s := by
  unfold execRBD at h ⊢
  cases hi : images args with
  | none => rfl
  | some size =>
    simp only [hi] at h ⊢
    split_ifs at h ⊢
    · exact register_error h
    · rfl

theorem execAdd_error {args : AddVHostSCSILUNArgs} {e : String}
    (h : (execAdd s args).1 = .error e) : (execAdd s args).2 = s := by
  unfold execAdd at h ⊢
  cases hv : s.vhost? (s.resolve args.controller) with
  | none => simp only [hv]
  | some vh =>
    simp only [hv] at h ⊢
    split_ifs at h ⊢ <;> rfl

theorem execRemove_error {args : RemoveVHostSCSITargetArgs} {e : String}
    (h : (execRemove s args).1 = .error e) : (execRemove s args).2 = s := by
  unfold execRemove at h ⊢
  cases hv : s.vhost? (s.resolve args.controller) with
  | none => simp only [hv]
  | some vh =>
    simp only [hv] at h ⊢
    split_ifs at h ⊢ <;> rfl

/-- A call that reports an error has changed nothing (a made-up name apart). -/
theorem exec_error {e : String} (hq : q.anonymous = false)
    (h : (exec images q s).1 = (Except.error e : Except String q.Result)) :
    (exec images q s).2 = s := by
  cases q with
  | getBDevs name => rfl
  | getVHostControllers => rfl
  | deleteBDev name => exact execDelete_error h
  | constructMallocBDev args =>
    exact execMalloc_error (by simpa [Rpc.anonymous] using hq) h
  | constructRBDBDev args => exact execRBD_error h
  | addVHostSCSILUN args => exact execAdd_error h
  | removeVHostSCSITarget args => exact execRemove_error h

theorem step_error {e : String} (hq : q.anonymous = false)
    (h : (server images).Step q s (Except.error e : Except String q.Result) s') : s' = s := by
  rcases h with ⟨hr, hs⟩ | ⟨-, hs⟩
  · rw [hs]; exact exec_error hq hr.symm
  · exact hs

/-! ### The successful calls, by method -/

theorem step_getBDevs_ok {name : String} {bs : List BDev}
    (h : (server images).Step (.getBDevs name) s (Except.ok bs : Except String (List BDev)) s') :
    getBDevs s name = .ok bs ∧ s' = s := by
  have hx := step_ok (q := .getBDevs name) h
  exact ⟨congrArg Prod.fst hx, (congrArg Prod.snd hx).symm⟩

theorem step_dump_ok {cs : List Controller}
    (h : (server images).Step .getVHostControllers s
      (Except.ok cs : Except String (List Controller)) s') : cs = dump s ∧ s' = s := by
  have hx := step_ok (q := .getVHostControllers) h
  refine ⟨?_, (congrArg Prod.snd hx).symm⟩
  exact (Except.ok.inj (congrArg Prod.fst hx)).symm

theorem step_delete_ok {name : String}
    (h : (server images).Step (.deleteBDev name) s (Except.ok () : Except String Unit) s') :
    (s.bdev? name).isSome = true ∧ s' = s.deleteBDev name := by
  have hx : execDelete s name = (.ok (), s') := step_ok (q := .deleteBDev name) h
  unfold execDelete at hx
  cases hb : s.bdev? name with
  | none => rw [hb] at hx; exact absurd (congrArg Prod.fst hx) (by simp)
  | some d => rw [hb] at hx; exact ⟨rfl, (congrArg Prod.snd hx).symm⟩

theorem register_ok {d : Disk} {n : String} (h : register s d = (.ok n, s')) :
    ∃ hd : s.bdev? d.name = none, s' = s.addBDev d hd := by
  unfold register at h
  split_ifs at h with hd
  · exact ⟨hd, (congrArg Prod.snd h).symm⟩
  · exact absurd (congrArg Prod.fst h) (by simp)

theorem step_malloc_ok {args : ConstructBDevArgs} {n : String} (hne : args.name ≠ "")
    (h : (server images).Step (.constructMallocBDev args) s (Except.ok n : Except String String)
      s') : ∃ d hd, s' = s.addBDev d hd ∧ d.name = args.name ∧ d.productName = mallocProduct ∧
      d.blocklen = UInt32.ofNat args.blockSize.toInt.toNat ∧
      d.blockcnt = UInt64.ofNat args.numBlocks.toInt.toNat ∧ 0 < args.numBlocks.toInt := by
  have hx : execMalloc s args = (.ok n, s') := step_ok (q := .constructMallocBDev args) h
  unfold execMalloc at hx
  split_ifs at hx with hpos
  · simp only [mallocName, if_neg hne] at hx
    obtain ⟨hd, rfl⟩ := register_ok hx
    exact ⟨_, hd, rfl, rfl, rfl, rfl, rfl, hpos.1⟩
  · exact absurd (congrArg Prod.fst hx) (by simp)

theorem step_rbd_ok {args : ConstructRBDBDevArgs} {n : String}
    (h : (server images).Step (.constructRBDBDev args) s (Except.ok n : Except String String)
      s') : ∃ d hd, s' = s.addBDev d hd ∧ d.name = args.name ∧ d.productName = rbdProduct ∧
      ∃ size : UInt64, d.blockcnt = size / (UInt32.ofNat args.blockSize.toInt.toNat).toUInt64 := by
  have hx : execRBD images s args = (.ok n, s') := step_ok (q := .constructRBDBDev args) h
  unfold execRBD at hx
  cases hi : images args with
  | none => rw [hi] at hx; exact absurd (congrArg Prod.fst hx) (by simp)
  | some size =>
    simp only [hi] at hx
    split_ifs at hx
    · obtain ⟨hd, rfl⟩ := register_ok hx
      exact ⟨_, hd, rfl, rfl, rfl, size, rfl⟩
    · exact absurd (congrArg Prod.fst hx) (by simp)

theorem step_add_ok {args : AddVHostSCSILUNArgs}
    (h : (server images).Step (.addVHostSCSILUN args) s (Except.ok () : Except String Unit) s') :
    s.lun (s.resolve args.controller) args.scsiTargetNum = none ∧
      s.hasTarget (s.resolve args.controller) args.scsiTargetNum = true ∧
      ∃ hx, s' = s.setLun (s.resolve args.controller) args.scsiTargetNum (some args.bdevName)
        hx := by
  have hx : execAdd s args = (.ok (), s') := step_ok (q := .addVHostSCSILUN args) h
  unfold execAdd at hx
  cases hv : s.vhost? (s.resolve args.controller) with
  | none => simp only [hv] at hx; exact absurd (congrArg Prod.fst hx) (by simp)
  | some vh =>
    simp only [hv] at hx
    split_ifs at hx with h₁ h₂ h₃
    · exact absurd (congrArg Prod.fst hx) (by simp)
    · exact absurd (congrArg Prod.fst hx) (by simp)
    · refine ⟨by simpa using h₂, by simpa [State.hasTarget, hv] using h₁, ?_,
        (congrArg Prod.snd hx).symm⟩
      rintro v ⟨⟩
      exact State.mem_names_iff.2 h₃
    · exact absurd (congrArg Prod.fst hx) (by simp)

theorem step_remove_ok {args : RemoveVHostSCSITargetArgs}
    (h : (server images).Step (.removeVHostSCSITarget args) s
      (Except.ok () : Except String Unit) s') :
    s' = s.setLun (s.resolve args.controller) args.scsiTargetNum none (by simp) := by
  have hx : execRemove s args = (.ok (), s') := step_ok (q := .removeVHostSCSITarget args) h
  unfold execRemove at hx
  cases hv : s.vhost? (s.resolve args.controller) with
  | none => simp only [hv] at hx; exact absurd (congrArg Prod.fst hx) (by simp)
  | some vh =>
    simp only [hv] at hx
    split_ifs at hx with h₁ h₂
    · exact absurd (congrArg Prod.fst hx) (by simp)
    · exact (congrArg Prod.snd hx).symm
    · exact absurd (congrArg Prod.fst hx) (by simp)

end Steps

/-! ## Where a volume is -/

/-- The targets under one entry of `BackendSpecific`: those of a parsed SCSI
controller, nothing otherwise. -/
def scsiTargets : String × BackendSpecific → List SCSIControllerTarget
  | (key, .scsi targets) => if key = "scsi" then targets else []
  | (_, .other) => []

/-- The controllers and targets with a LUN backed by `v`. -/
def attachments (controllers : List Controller) (v : String) : List (String × ℕ) :=
  controllers.flatMap fun c => c.backendSpecific.flatMap fun entry =>
    (scsiTargets entry).flatMap fun target =>
      (target.luns.filter fun lun => lun.bdevName = v).map fun _ =>
        (c.controller, target.scsiDevNum)

/-- The targets of one controller that hold `v`. -/
def VHost.targetsOf (h : VHost) (v : String) : List ℕ :=
  (List.range maxDevs).filter fun t => h.lun t = some v

theorem VHost.lun_lt {h : VHost} {t : ℕ} {v : String} (ht : h.lun t = some v) : t < maxDevs := by
  have hb := Backend.hasTarget_of_lun ht
  cases hk : h.backend with
  | block => simp [hk, Backend.hasTarget] at hb
  | scsi f => simpa [hk, Backend.hasTarget] using hb

theorem VHost.mem_targetsOf {h : VHost} {t : ℕ} {v : String} :
    t ∈ h.targetsOf v ↔ h.lun t = some v := by
  simp only [targetsOf, List.mem_filter, List.mem_range, decide_eq_true_eq]
  exact ⟨And.right, fun ht => ⟨lun_lt ht, ht⟩⟩

theorem attachments_dump_cons (h : VHost) (hs : List VHost) (v : String) :
    attachments ((h :: hs).map VHost.dump) v =
      (h.targetsOf v).map (fun t => (h.ctrlr, t)) ++ attachments (hs.map VHost.dump) v := by
  have hone : (VHost.dump h).backendSpecific.flatMap (fun entry =>
      (scsiTargets entry).flatMap fun target =>
        (target.luns.filter fun lun => lun.bdevName = v).map fun _ =>
          (h.ctrlr, target.scsiDevNum)) = (h.targetsOf v).map fun t => (h.ctrlr, t) := by
    cases hk : h.backend with
    | block => simp [VHost.dump, VHost.targetsOf, scsiTargets, VHost.lun, hk, Backend.lun]
    | scsi f =>
      simp only [VHost.dump, hk, List.flatMap_singleton, scsiTargets, if_true]
      unfold VHost.targetsOf
      induction List.range maxDevs with
      | nil => rfl
      | cons t ts ih =>
        rw [List.filterMap_cons, List.filter_cons]
        cases hl : h.lun t with
        | none => simpa using ih
        | some w =>
          by_cases hw : w = v
          · simpa [hw] using ih
          · simpa [hw] using ih
  rw [List.map_cons, attachments, List.flatMap_cons]
  exact congrArg (· ++ _) hone

/-- **The reply to `get_vhost_controllers` shows exactly where a volume is.** -/
theorem mem_attachments_dump {s : State} {n v : String} {t : ℕ} :
    (n, t) ∈ attachments (dump s) v ↔ s.lun n t = some v := by
  rw [State.lun_eq_some_iff]
  unfold dump
  induction s.vhosts with
  | nil => simp [attachments]
  | cons h hs ih =>
    rw [attachments_dump_cons, List.mem_append, ih]
    simp only [List.mem_map, Prod.mk.injEq, List.exists_mem_cons_iff, VHost.mem_targetsOf]
    constructor
    · rintro (⟨t', ht, rfl, rfl⟩ | hr)
      · exact Or.inl ⟨rfl, ht⟩
      · exact Or.inr hr
    · rintro (⟨rfl, ht⟩ | hr)
      · exact Or.inl ⟨t, ht, rfl, rfl⟩
      · exact Or.inr hr

/-- Every target is listed once. -/
theorem nodup_attachments_dump (s : State) (v : String) : (attachments (dump s) v).Nodup := by
  have hnodup := s.ctrlrs_nodup
  unfold dump
  revert hnodup
  induction s.vhosts with
  | nil => exact fun _ => List.nodup_nil
  | cons h hs ih =>
    intro hnodup
    rw [List.map_cons, List.nodup_cons] at hnodup
    rw [attachments_dump_cons]
    refine List.Nodup.append ?_ (ih hnodup.2) ?_
    · exact (List.nodup_range.filter _).map fun t t' heq => (Prod.mk.inj heq).2
    · -- an entry of `h` carries its name, which no other controller has
      rintro ⟨n, t⟩ hm hm'
      obtain ⟨t', -, heq⟩ := List.mem_map.1 hm
      cases heq
      apply hnodup.1
      simp only [attachments, List.mem_flatMap, List.mem_map] at hm'
      obtain ⟨c, ⟨h', hh', rfl⟩, _, -, _, -, _, -, heq⟩ := hm'
      exact List.mem_map.2 ⟨h', hh', (Prod.mk.inj heq).1⟩

end Oim.Spdk
