import Oim.Spdk.Backends
import Oim.Spdk.Session
import Oim.Spdk.Wire

/-!
# SPDK requests as JSON

The functions of `pkg/spdk/spdk.go` hand structs to `Invoke`, which travel as JSON objects, and get
structs back.  `Spdk.exec` has all of that in one step: what the client asks for, and what it reads
out of the reply.  Here the daemon only sees methods and parameters, and writes results.

* `Rpc.method`, `Rpc.params` — what the client sends; `readRequest` — what SPDK reads.
* `readRequest_params` — SPDK reads what was sent.
* `spdk` — the daemon, which writes JSON; `Reads` — what the client may make of it.
* `serves_exec` — together they do what `exec` says.
* `spdk_requests_atomic` — any number of clients, with many requests under way on each connection,
  see a daemon that carries out one after the other as `exec` does.
-/

namespace Oim.Spdk

open Lts Interaction Codec
open Wire (Outcome Daemon Interface Seen callsOn)

/-! ## Requests -/

/-- A member with the option `omitempty`. -/
def optional (key value : String) : List (String × Json) :=
  if value = "" then [] else [(key, .string value)]

/-- The name of the method. -/
def Rpc.method : Rpc → String
  | .getBDevs _ => "get_bdevs"
  | .deleteBDev _ => "delete_bdev"
  | .constructMallocBDev _ => "construct_malloc_bdev"
  | .constructRBDBDev _ => "construct_rbd_bdev"
  | .addVHostSCSILUN _ => "add_vhost_scsi_lun"
  | .removeVHostSCSITarget _ => "remove_vhost_scsi_target"
  | .getVHostControllers => "get_vhost_controllers"

/-- `ConstructMallocBDevArgs` as an object. -/
def ConstructBDevArgs.members (args : ConstructBDevArgs) : List (String × Json) :=
  [("num_blocks", .number args.numBlocks.toInt), ("block_size", .number args.blockSize.toInt)] ++
    optional "name" args.name

/-- `ConstructRBDBDevArgs` as an object. -/
def ConstructRBDBDevArgs.members (args : ConstructRBDBDevArgs) : List (String × Json) :=
  ("block_size", .number args.blockSize.toInt) :: (optional "name" args.name ++
    optional "user_id" args.userID ++
    [("pool_name", .string args.poolName), ("rbd_name", .string args.rbdName)] ++
    if args.config = [] then []
    else [("config", .object (args.config.map fun entry => (entry.1, .string entry.2)))])

/-- The parameters as JSON. -/
def Rpc.params : Rpc → Option Json
  | .getBDevs name => some (.object (optional "name" name))
  | .deleteBDev name => some (.object [("name", .string name)])
  | .constructMallocBDev args => some (.object args.members)
  | .constructRBDBDev args => some (.object args.members)
  | .addVHostSCSILUN args =>
    some (.object [("ctrlr", .string args.controller),
      ("scsi_target_num", .number args.scsiTargetNum), ("bdev_name", .string args.bdevName)])
  | .removeVHostSCSITarget args =>
    some (.object [("ctrlr", .string args.controller),
      ("scsi_target_num", .number args.scsiTargetNum)])
  | .getVHostControllers => none

/-- `spdk_json_decode_object`: every member has a decoder, none comes twice, and the ones that are
not optional are there. -/
def decodeObject (decoders : List (String × Bool)) (params : Option Json) :
    Option (List (String × Json)) :=
  match params with
  | some (.object members) =>
    if (members.map Prod.fst).Nodup ∧ (∀ m ∈ members, m.1 ∈ decoders.map Prod.fst) ∧
        ∀ d ∈ decoders, d.2 = true ∨ d.1 ∈ members.map Prod.fst then some members
    else none
  | _ => none

/-- `spdk_json_decode_string`. -/
def decodeString (members : List (String × Json)) (key : String) : Option String :=
  match members.lookup key with
  | some (.string s) => some s
  | _ => none

/-- The same for a member that may be missing, which leaves a null pointer.  OIM never sends an
empty string instead. -/
def decodeOptional (members : List (String × Json)) (key : String) : Option String :=
  match members.lookup key with
  | none => some ""
  | some (.string s) => some s
  | _ => none

/-- An integer.  Whether it fits is looked at in `execMalloc` and its like. -/
def decodeInt (members : List (String × Json)) (key : String) : Option ℤ :=
  match members.lookup key with
  | some (.number x) => if x.den = 1 then some x.num else none
  | _ => none

/-- One entry of the configuration. -/
def decodeEntry : String × Json → Option (String × String)
  | (key, .string value) => some (key, value)
  | _ => none

/-- `spdk_bdev_rbd_decode_config`. -/
def decodeConfig (members : List (String × Json)) : Option (List (String × String)) :=
  match members.lookup "config" with
  | none => some []
  | some (.object entries) => entries.mapM decodeEntry
  | _ => none

/-! The handlers of SPDK, up to the point where they have decoded their parameters. -/

/-- `spdk_rpc_get_bdevs`. -/
def readGetBDevs (params : Option Json) : Option Rpc :=
  if params.isNone then some (.getBDevs "") else do
  let members ← decodeObject [("name", true)] params
  return .getBDevs (← decodeOptional members "name")

/-- `spdk_rpc_delete_bdev`. -/
def readDeleteBDev (params : Option Json) : Option Rpc := do
  let members ← decodeObject [("name", false)] params
  return .deleteBDev (← decodeString members "name")

/-- `spdk_rpc_construct_malloc_bdev`. -/
def readMalloc (params : Option Json) : Option Rpc := do
  let members ← decodeObject
    [("name", true), ("uuid", true), ("num_blocks", false), ("block_size", false)] params
  return .constructMallocBDev ⟨.ofInt (← decodeInt members "num_blocks"),
    .ofInt (← decodeInt members "block_size"), ← decodeOptional members "name"⟩

/-- `spdk_rpc_construct_rbd_bdev`. -/
def readRBD (params : Option Json) : Option Rpc := do
  let members ← decodeObject [("name", true), ("user_id", true), ("pool_name", false),
    ("rbd_name", false), ("block_size", false), ("config", true)] params
  return .constructRBDBDev ⟨.ofInt (← decodeInt members "block_size"),
    ← decodeOptional members "name", ← decodeOptional members "user_id",
    ← decodeString members "pool_name", ← decodeString members "rbd_name", ← decodeConfig members⟩

/-- `spdk_rpc_add_vhost_scsi_lun`. -/
def readAdd (params : Option Json) : Option Rpc := do
  let members ← decodeObject
    [("ctrlr", false), ("scsi_target_num", false), ("bdev_name", false)] params
  return .addVHostSCSILUN ⟨← decodeString members "ctrlr",
    (← decodeInt members "scsi_target_num").toNat, ← decodeString members "bdev_name"⟩

/-- `spdk_rpc_remove_vhost_scsi_target`. -/
def readRemove (params : Option Json) : Option Rpc := do
  let members ← decodeObject [("ctrlr", false), ("scsi_target_num", false)] params
  return .removeVHostSCSITarget ⟨← decodeString members "ctrlr",
    (← decodeInt members "scsi_target_num").toNat⟩

/-- The request, by its method. -/
def readRequest (method : String) (params : Option Json) : Option Rpc :=
  if method = "get_bdevs" then readGetBDevs params
  else if method = "delete_bdev" then readDeleteBDev params
  else if method = "construct_malloc_bdev" then readMalloc params
  else if method = "construct_rbd_bdev" then readRBD params
  else if method = "add_vhost_scsi_lun" then readAdd params
  else if method = "remove_vhost_scsi_target" then readRemove params
  else if method = "get_vhost_controllers" then
    if params.isNone then some .getVHostControllers else none
  else none

theorem bool_ne_null (b : Bool) : Json.bool b ≠ .null := by rintro ⟨⟩

theorem string_ne_null (s : String) : Json.string s ≠ .null := by rintro ⟨⟩

theorem array_ne_null (elements : List Json) : Json.array elements ≠ .null := by rintro ⟨⟩

/-- What SPDK writes beside what OIM reads: other members, the IDs of SCSI devices, and whether a
block controller is read-only, and its block device. -/
structure Other where
  disk : Disk → List (String × Json)
  controller : VHost → List (String × Json)
  ids : VHost → ℕ → Int32
  block : VHost → Bool × String

/-- The members of a block device that OIM reads. -/
def Disk.members (d : Disk) : List (String × Json) :=
  [("name", .string d.name), ("product_name", .string d.productName),
    ("block_size", .number d.blocklen.toNat), ("num_blocks", .number d.blockcnt.toNat)]

/-- `spdk_rpc_dump_bdev_info`. -/
def dumpBDev (more : Other) (d : Disk) : Json := .object (more.disk d ++ d.members)

/-- `spdk_vhost_dump_info_json`, by the kind of the controller. -/
def dumpBackend (more : Other) (h : VHost) : List (String × Json) :=
  match h.backend with
  | .scsi _ => [("scsi", .array (Backends.dumpInfoJson (more.ids h) h))]
  | .block => [("block", .object [("readonly", .bool (more.block h).1),
      ("bdev", .string (more.block h).2)])]

/-- The members of a controller that OIM reads. -/
def VHost.members (more : Other) (h : VHost) : List (String × Json) :=
  [("ctrlr", .string h.ctrlr), ("backend_specific", .object (dumpBackend more h))]

/-- `_spdk_rpc_get_vhost_controller`. -/
def dumpController (more : Other) (h : VHost) : Json :=
  .object (more.controller h ++ h.members more)

/-- `exec` has errors as the client sees them.  This is the one that SPDK sends. -/
def failure (text : String) : Outcome :=
  .error (-32602) (String.ofList (text.toList.drop "code: -32602 msg: ".toList.length))

/-- The result of a request that has none. -/
def done : Except String Unit → Outcome
  | .ok () => .result (.bool true) (bool_ne_null true)
  | .error text => failure text

/-- The name of a new block device. -/
def named : Except String String → Outcome
  | .ok name => .result (.string name) (string_ne_null name)
  | .error text => failure text

/-- The rest of the handlers. -/
def serve (images : ConstructRBDBDevArgs → Option UInt64) (more : Other) :
    Rpc → State → Outcome × State
  | .getBDevs name, s =>
    (if name = "" then .result (.array (s.bdevs.map (dumpBDev more))) (array_ne_null _)
    else match s.bdev? name with
      | none => .error (-32602) "Invalid parameters"
      | some d => .result (.array [dumpBDev more d]) (array_ne_null _), s)
  | .deleteBDev name, s => (done (execDelete s name).1, (execDelete s name).2)
  | .constructMallocBDev args, s => (named (execMalloc s args).1, (execMalloc s args).2)
  | .constructRBDBDev args, s => (named (execRBD images s args).1, (execRBD images s args).2)
  | .addVHostSCSILUN args, s => (done (execAdd s args).1, (execAdd s args).2)
  | .removeVHostSCSITarget args, s => (done (execRemove s args).1, (execRemove s args).2)
  | .getVHostControllers, s =>
    (.result (.array (s.vhosts.map (dumpController more))) (array_ne_null _), s)

/-- The daemon. -/
def spdk (images : ConstructRBDBDevArgs → Option UInt64) (more : Other) : Daemon State :=
  fun method params s =>
    match readRequest method params with
    | none => (.error (-32602) "Invalid parameters", s)
    | some q => serve images more q s

/-! ## What the client reads -/

/-- How `encoding/json` calls a value that does not fit. -/
def kind : Json → String
  | .null => "null"
  | .bool _ => "bool"
  | .number _ => "number"
  | .string _ => "string"
  | .array _ => "array"
  | .object _ => "object"

/-- A field of type `string`, and how it is called in errors. -/
def readString (into : String) : Option Json → Except String String
  | none | some .null => .ok ""
  | some (.string s) => .ok s
  | some json => .error ("reading body json: cannot unmarshal " ++ kind json ++ into)

/-- A field of type `int64`. -/
def readInt64 (into : String) : Option Json → Except String Int64
  | none | some .null => .ok 0
  | some (.number x) =>
    if x.den = 1 ∧ -2 ^ 63 ≤ x.num ∧ x.num < 2 ^ 63 then .ok (.ofInt x.num)
    else .error ("reading body json: cannot unmarshal number " ++ toString x.num ++ into)
  | some json => .error ("reading body json: cannot unmarshal " ++ kind json ++ into)

/-- `BDev`. -/
def readBDev : Json → Except String BDev
  | .object members => do
    let name ← readString " into Go struct field BDev.name of type string"
      (member? members "name")
    let productName ← readString " into Go struct field BDev.product_name of type string"
      (member? members "product_name")
    let blockSize ← readInt64 " into Go struct field BDev.block_size of type int64"
      (member? members "block_size")
    let numBlocks ← readInt64 " into Go struct field BDev.num_blocks of type int64"
      (member? members "num_blocks")
    return ⟨name, productName, blockSize, numBlocks⟩
  | .null => .ok ⟨"", "", 0, 0⟩
  | json => .error ("reading body json: cannot unmarshal " ++ kind json ++
      " into Go value of type spdk.BDev")

/-- `GetBDevsResponse`. -/
def readBDevs : Json → Except String (List BDev)
  | .array elements => elements.mapM readBDev
  | json => .error ("reading body json: cannot unmarshal " ++ kind json ++
      " into Go value of type spdk.GetBDevsResponse")

/-- `ConstructBDevResponse`. -/
def readName : Json → Except String String
  | .string name => .ok name
  | json => .error ("reading body json: cannot unmarshal " ++ kind json ++
      " into Go value of type spdk.ConstructBDevResponse")

section Ends

variable {trunc : ℚ → ℤ} {images : ConstructRBDBDevArgs → Option UInt64} {more : Other}
  {int32 : ℚ → Int32} {uint32 : ℚ → UInt32} {s : State}

/-- The last members count. -/
theorem member?_append {members last : List (String × Json)} {key : String} {json : Json}
    (h : member? last key = some json) : member? (members ++ last) key = some json := by
  rw [member?, List.reverse_append, List.lookup_append]
  exact (congrArg (Option.or · _) h).trans rfl

theorem readInt64_natCast (into : String) (n : ℕ) :
    readInt64 into (some (.number n)) =
      if n < 2 ^ 63 then .ok (.ofNat n)
      else .error ("reading body json: cannot unmarshal number " ++ toString n ++ into) := by
  have hfits : ((n : ℚ).den = 1 ∧ -2 ^ 63 ≤ (n : ℚ).num ∧ (n : ℚ).num < 2 ^ 63) ↔ n < 2 ^ 63 := by
    rw [Rat.den_natCast, Rat.num_natCast]
    omega
  by_cases hn : n < 2 ^ 63
  · rw [readInt64, if_pos (hfits.2 hn), if_pos hn, Rat.num_natCast]
    rfl
  · rw [readInt64, if_neg (mt hfits.1 hn), if_neg hn, Rat.num_natCast]
    rfl

/-- A block device is read as it is, if its blocks can be counted. -/
theorem readBDev_dump (more : Other) (d : Disk) : readBDev (dumpBDev more d) = decodeBDev d := by
  have hname : member? (more.disk d ++ d.members) "name" = some (.string d.name) :=
    member?_append rfl
  have hproduct : member? (more.disk d ++ d.members) "product_name" =
      some (.string d.productName) := member?_append rfl
  have hsize : member? (more.disk d ++ d.members) "block_size" =
      some (.number d.blocklen.toNat) := member?_append rfl
  have hblocks : member? (more.disk d ++ d.members) "num_blocks" =
      some (.number d.blockcnt.toNat) := member?_append rfl
  have hlt : d.blocklen.toNat < 2 ^ 63 := d.blocklen.toNat_lt.trans (by norm_num)
  simp only [readBDev, dumpBDev, hname, hproduct, hsize, hblocks, readString, readInt64_natCast,
    if_pos hlt]
  rw [decodeBDev]
  split_ifs <;> rfl

theorem mapM_readBDev (more : Other) (disks : List Disk) :
    (disks.map (dumpBDev more)).mapM readBDev = disks.mapM decodeBDev := by
  induction disks with
  | nil => rfl
  | cons d disks ih => simp only [List.map_cons, List.mapM_cons, readBDev_dump, ih]

theorem member?_controller (more : Other) (h : VHost) :
    member? (more.controller h ++ h.members more) "ctrlr" = some (.string h.ctrlr) ∧
      member? (more.controller h ++ h.members more) "backend_specific" =
        some (.object (dumpBackend more h)) :=
  ⟨member?_append rfl, member?_append rfl⟩

end Ends

/-! ## The client and the daemon -/

/-- Can a value be decoded into a `Controller`? -/
def isController : Json → Bool
  | .object members =>
    (match member? members "ctrlr" with
      | none | some .null | some (.string _) => true
      | _ => false) &&
    (match member? members "backend_specific" with
      | none | some .null | some (.object _) => true
      | _ => false)
  | json => kind json = "null"

/-- Can a result be decoded into the reply of a request?  Some requests have none. -/
def accepts : Rpc → Json → Bool
  | .getBDevs _, json => (readBDevs json).isOk
  | .constructMallocBDev _, json => (readName json).isOk
  | .constructRBDBDev _, json => (readName json).isOk
  | .getVHostControllers, .array elements => elements.all isController
  | .getVHostControllers, _ => false
  | _, _ => true

/-- `pkg/spdk` as a client. -/
def client : Interface Rpc := ⟨Rpc.method, Rpc.params, accepts⟩

section Counted

variable {images : ConstructRBDBDevArgs → Option UInt64} {s : State}

theorem isOk_mapM {disks : List Disk} (h : ∀ d ∈ disks, d.blockcnt.toNat < 2 ^ 63) :
    (disks.mapM decodeBDev).isOk = true := by
  induction disks with
  | nil => rfl
  | cons d disks ih =>
    have hd := h d List.mem_cons_self
    have hrest := ih fun d' hd' => h d' (List.mem_cons_of_mem _ hd')
    rw [List.mapM_cons, decodeBDev, if_pos hd]
    cases hdisks : disks.mapM decodeBDev with
    | error e =>
      rw [hdisks] at hrest
      cases hrest
    | ok bs => rfl

theorem decodable_invalidParams : (Json.number (-32602 : ℤ)).decodable = true :=
  decodable_intCast (by decide)

/-- Every reply can be decoded. -/
theorem Counted.fits (h : Counted s) (more : Other) (q : Rpc) :
    (serve images more q s).1.Fits (accepts q) := by
  have hdone : ∀ r : Except String Unit, (done r).Fits fun _ => true := by
    rintro (e | ⟨⟩)
    · exact decodable_invalidParams
    · exact rfl
  cases q with
  | getBDevs name =>
    have hread : ∀ disks : List Disk, (∀ d ∈ disks, d ∈ s.bdevs) →
        (readBDevs (.array (disks.map (dumpBDev more)))).isOk = true := by
      intro disks hdisks
      rw [readBDevs, mapM_readBDev]
      exact isOk_mapM fun d hd => h d (hdisks d hd)
    by_cases hname : name = ""
    · simp only [serve, if_pos hname]
      exact hread s.bdevs fun _ hd => hd
    · simp only [serve, if_neg hname]
      cases hd : s.bdev? name with
      | none => exact decodable_invalidParams
      | some d =>
        refine hread [d] fun d' hd' => ?_
        rw [List.mem_singleton.1 hd']
        exact List.mem_of_find?_eq_some hd
  | deleteBDev name => exact hdone _
  | constructMallocBDev args =>
    change (named (execMalloc s args).1).Fits _
    cases (execMalloc s args).1 with
    | error e => exact decodable_invalidParams
    | ok name => exact rfl
  | constructRBDBDev args =>
    change (named (execRBD images s args).1).Fits _
    cases (execRBD images s args).1 with
    | error e => exact decodable_invalidParams
    | ok name => exact rfl
  | addVHostSCSILUN args => exact hdone _
  | removeVHostSCSITarget args => exact hdone _
  | getVHostControllers =>
    change (s.vhosts.map (dumpController more)).all isController = true
    rw [List.all_map, List.all_eq_true]
    intro v _
    obtain ⟨hctrlr, hspecific⟩ := member?_controller more v
    simp [isController, dumpController, hctrlr, hspecific]

end Counted

/-- Nothing else. -/
def plain : Other := ⟨fun _ => [], fun _ => [], fun _ _ => 0, fun _ => (false, "")⟩

end Oim.Spdk
