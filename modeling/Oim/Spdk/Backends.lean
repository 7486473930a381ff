import Oim.Lib.Binary64
import Oim.Spdk.Codec
import Oim.Spdk.Rpc

/-!
# Decoding vhost controllers

`getSCSIBackendSpecific` of `pkg/spdk/spdk.go` makes SCSI targets of the part of a
`get_vhost_controllers` reply that the JSON package has decoded to maps and lists.  Go
iterates over a map in any order.

* `Decoded` — what a JSON value may be decoded to: an object becomes a map whose entries are
  in some order.
* `foldl_entry` — a loop over the entries of a map, in which a key sets one field, is a lookup
  of that key, whatever the order is.
* `getSCSIBackendSpecific_written` — the targets that were written come out, in their order.
* `getSCSIBackendSpecific_dump` — what SPDK writes for a controller is decoded to what
  `get_vhost_controllers` returns in the model of the daemon.
-/

namespace Oim.Spdk.Backends

open Codec

/-! ## Decoded values -/

/-- A Go value that `encoding/json` puts into an `interface{}`.  The entries of a map are in
the order in which a loop over the map meets them. -/
inductive Value where
  | nil
  | bool (b : Bool)
  | float64 (x : ℚ)
  | string (s : String)
  | list (elements : List Value)
  | map (entries : List (String × Value))

/-- A JSON value and a value that it is decoded to.  A number too large for a `float64` cannot
be decoded. -/
inductive Decoded : Json → Value → Prop where
  | null : Decoded .null .nil
  | bool (b : Bool) : Decoded (.bool b) (.bool b)
  | number (q : ℚ) : |Binary64.round q| < 2 ^ 1024 →
      Decoded (.number q) (.float64 (Binary64.round q))
  | string (s : String) : Decoded (.string s) (.string s)
  | array {elements : List Json} {values : List Value} :
      List.Forall₂ Decoded elements values → Decoded (.array elements) (.list values)
  | object {members : List (String × Json)} {entries : List (String × Value)} :
      (entries.map Prod.fst).Nodup →
      (∀ key, key ∈ entries.map Prod.fst ↔ member? members key ≠ none) →
      (∀ key value json, (key, value) ∈ entries → member? members key = some json →
        Decoded json value) →
      Decoded (.object members) (.map entries)

theorem member?_eq_none_iff {members : List (String × Json)} {key : String} :
    member? members key = none ↔ key ∉ members.map Prod.fst := by
  simp only [member?, List.lookup_eq_none_iff, List.mem_reverse, List.mem_map, not_exists, not_and]
  refine forall₂_congr fun entry _ => ?_
  rw [bne_iff_ne, ne_comm]

theorem member?_eq_some {members : List (String × Json)} (hnodup : (members.map Prod.fst).Nodup)
    {key : String} {json : Json} (h : (key, json) ∈ members) : member? members key = some json := by
  obtain ⟨before, after, hcut⟩ := List.append_of_mem (List.mem_reverse.2 h)
  rw [← List.nodup_reverse, ← List.map_reverse, hcut, List.map_append, List.map_cons,
    List.nodup_middle, List.nodup_cons, List.mem_append, not_or] at hnodup
  refine List.lookup_eq_some_iff.2 ⟨before, after, hcut, fun entry hentry => ?_⟩
  have hne : key ≠ entry.1 := by
    intro hkey
    exact hnodup.1.1 (List.mem_map.2 ⟨entry, hentry, hkey.symm⟩)
  simpa using hne

theorem exists_of_mem_right {α β : Type} {R : α → β → Prop} {l₁ : List α} {l₂ : List β}
    (h : List.Forall₂ R l₁ l₂) {b : β} (hb : b ∈ l₂) : ∃ a ∈ l₁, R a b := by
  induction h with
  | nil => simp at hb
  | cons hab _ ih =>
    rcases List.mem_cons.1 hb with rfl | hb
    · exact ⟨_, List.mem_cons_self, hab⟩
    · obtain ⟨a, ha, hab⟩ := ih hb
      exact ⟨a, List.mem_cons_of_mem _ ha, hab⟩

/-- Every order of the members is one that a loop may meet. -/
theorem decoded_of_perm {members members' : List (String × Json)}
    {entries : List (String × Value)} (hnodup : (members.map Prod.fst).Nodup)
    (hperm : members'.Perm members)
    (h : List.Forall₂ (fun m entry => m.1 = entry.1 ∧ Decoded m.2 entry.2) members' entries) :
    Decoded (.object members) (.map entries) := by
  have hkeys : entries.map Prod.fst = members'.map Prod.fst := by
    rw [← List.forall₂_eq_eq_eq, List.forall₂_map_left_iff, List.forall₂_map_right_iff]
    exact (List.Forall₂.imp (fun _ _ hentry => hentry.1.symm) h.flip)
  have hpermkeys := hperm.map Prod.fst
  refine .object (hkeys ▸ hpermkeys.nodup_iff.2 hnodup) (fun key => ?_)
    fun key value json hentry hmember => ?_
  · rw [hkeys, hpermkeys.mem_iff, Ne, member?_eq_none_iff, not_not]
  · obtain ⟨⟨key', json'⟩, hmem, rfl, hdecoded⟩ := exists_of_mem_right h hentry
    have hsome := member?_eq_some hnodup (hperm.mem_iff.1 hmem)
    obtain rfl : json' = json := Option.some_inj.1 (hsome.symm.trans hmember)
    exact hdecoded

theorem decoded_intCast {n : ℤ} (h : |n| ≤ 2 ^ 53) : Decoded (.number n) (.float64 n) := by
  have hrange : |Binary64.round n| < 2 ^ 1024 := by
    simpa only [Json.decodable, decide_eq_true_eq] using decodable_intCast h
  have hdecoded := Decoded.number n hrange
  rwa [Binary64.round_eq_self_iff.2 (Binary64.representable_intCast h)] at hdecoded

/-! ## The decoder -/

/-- `SCSIControllerLUN`. -/
@[ext]
structure SCSIControllerLUN where
  lun : Int32
  bdevName : String
  deriving DecidableEq

/-- `SCSIControllerTarget`. -/
@[ext]
structure SCSIControllerTarget where
  targetName : String
  luns : List SCSIControllerLUN
  id : Int32
  scsiDevNum : UInt32
  deriving DecidableEq

section Decoder

-- what the machine makes of a `float64` that fits into neither type
variable (int32 : ℚ → Int32) (uint32 : ℚ → UInt32)

/-- The body of the loop over the members of a LUN. -/
def SCSIControllerLUN.set (l : SCSIControllerLUN) : String × Value → SCSIControllerLUN
  | (key, value) =>
    if key = "id" then
      match value with
      | .float64 id => { l with lun := Binary64.toInt32 int32 id }
      | _ => l
    else if key = "bdev_name" then
      match value with
      | .string name => { l with bdevName := name }
      | _ => l
    else l

/-- One element of `luns`.  One that is not an object counts as well. -/
def decodeLUN : Value → SCSIControllerLUN
  | .map hash => hash.foldl (SCSIControllerLUN.set int32) ⟨0, ""⟩
  | _ => ⟨0, ""⟩

/-- The body of the loop over the members of a target. -/
def SCSIControllerTarget.set (target : SCSIControllerTarget) :
    String × Value → SCSIControllerTarget
  | (key, value) =>
    if key = "target_name" then
      match value with
      | .string name => { target with targetName := name }
      | _ => target
    else if key = "id" then
      match value with
      | .float64 id => { target with id := Binary64.toInt32 int32 id }
      | _ => target
    else if key = "scsi_dev_num" then
      match value with
      | .float64 devNum => { target with scsiDevNum := Binary64.toUInt32 uint32 devNum }
      | _ => target
    else if key = "luns" then
      match value with
      | .list luns => { target with luns := target.luns ++ luns.map (decodeLUN int32) }
      | _ => target
    else target

/-- One entry of the list.  One that is not an object is skipped. -/
def decodeTarget : Value → Option SCSIControllerTarget
  | .map hash => some (hash.foldl (SCSIControllerTarget.set int32 uint32) ⟨"", [], 0, 0⟩)
  | _ => none

/-- `getSCSIBackendSpecific`. -/
def getSCSIBackendSpecific : Value → List SCSIControllerTarget
  | .list list => list.filterMap (decodeTarget int32 uint32)
  | _ => []

end Decoder

/-! ## What is written -/

/-- A LUN as an object, which may have other members, too. -/
def WrittenLUN (l : SCSIControllerLUN) (json : Json) : Prop :=
  ∃ members, json = .object members ∧
    member? members "id" = some (.number l.lun.toInt) ∧
    member? members "bdev_name" = some (.string l.bdevName)

/-- A target as an object, which may have other members, too. -/
def WrittenTarget (target : SCSIControllerTarget) (json : Json) : Prop :=
  ∃ members luns, json = .object members ∧
    member? members "target_name" = some (.string target.targetName) ∧
    member? members "id" = some (.number target.id.toInt) ∧
    member? members "scsi_dev_num" = some (.number target.scsiDevNum.toNat) ∧
    member? members "luns" = some (.array luns) ∧ List.Forall₂ WrittenLUN target.luns luns

/-- The targets as elements of an array, with elements that are not objects between them. -/
inductive Written : List SCSIControllerTarget → List Json → Prop where
  | nil : Written [] []
  | target {target : SCSIControllerTarget} {json : Json} {targets : List SCSIControllerTarget}
      {elements : List Json} : WrittenTarget target json → Written targets elements →
      Written (target :: targets) (json :: elements)
  | skipped {json : Json} {targets : List SCSIControllerTarget} {elements : List Json} :
      (∀ members, json ≠ .object members) → Written targets elements →
      Written targets (json :: elements)

/-! ## Loops over maps -/

section Loop

variable {β γ : Type} {step : β → String × Value → β} {field : β → γ} {key : String}
  {entries : List (String × Value)}

theorem foldl_no_entry (hother : ∀ b entry, entry.1 ≠ key → field (step b entry) = field b)
    (hkey : key ∉ entries.map Prod.fst) (b : β) : field (entries.foldl step b) = field b := by
  induction entries generalizing b with
  | nil => rfl
  | cons entry entries ih =>
    rw [List.map_cons, List.mem_cons, not_or] at hkey
    rw [List.foldl_cons, ih hkey.2, hother b entry (Ne.symm hkey.1)]

/-- **A loop over a map is a lookup.**  If only the key `key` changes `field`, the loop leaves
in it what the entry of that key makes of it. -/
theorem foldl_entry (hother : ∀ b entry, entry.1 ≠ key → field (step b entry) = field b)
    (hnodup : (entries.map Prod.fst).Nodup) {value : Value} (hmem : (key, value) ∈ entries)
    {b : β} {new : γ} (hset : ∀ b', field b' = field b → field (step b' (key, value)) = new) :
    field (entries.foldl step b) = new := by
  obtain ⟨before, after, rfl⟩ := List.append_of_mem hmem
  rw [List.map_append, List.map_cons, List.nodup_middle, List.nodup_cons, List.mem_append,
    not_or] at hnodup
  obtain ⟨⟨hbefore, hafter⟩, -⟩ := hnodup
  rw [List.foldl_append, List.foldl_cons, foldl_no_entry hother hafter]
  exact hset _ (foldl_no_entry hother hbefore b)

end Loop

/-- The entry of a map for a member of the object. -/
theorem Decoded.entry {members : List (String × Json)} {entries : List (String × Value)}
    (h : Decoded (.object members) (.map entries)) {key : String} {json : Json}
    (hmember : member? members key = some json) :
    ∃ value, (key, value) ∈ entries ∧ Decoded json value := by
  cases h with
  | object hnodup hkeys hvalues =>
    have hkey : key ∈ entries.map Prod.fst := (hkeys key).2 (by simp [hmember])
    obtain ⟨⟨k, value⟩, hmem, rfl⟩ := List.mem_map.1 hkey
    exact ⟨value, hmem, hvalues _ _ _ hmem hmember⟩

theorem Decoded.nodup {members : List (String × Json)} {entries : List (String × Value)}
    (h : Decoded (.object members) (.map entries)) : (entries.map Prod.fst).Nodup := by
  cases h with
  | object hnodup _ _ => exact hnodup

theorem Decoded.object_eq {members : List (String × Json)} {value : Value}
    (h : Decoded (.object members) value) : ∃ entries, value = .map entries := by
  cases h with
  | object => exact ⟨_, rfl⟩

/-! ## Decoding what was written -/

section Written

variable {int32 : ℚ → Int32} {uint32 : ℚ → UInt32}

theorem toInt32_round (n : Int32) : Binary64.toInt32 int32 (Binary64.round n.toInt) = n := by
  have hlow := n.le_toInt
  have hhigh := n.toInt_lt
  rw [Binary64.toInt32, Binary64.convert_round int32 hlow hhigh (abs_le.2 ⟨by omega, by omega⟩),
    Int32.ofInt_toInt]

theorem toUInt32_round (n : UInt32) :
    Binary64.toUInt32 uint32 (Binary64.round n.toNat) = n := by
  have hhigh := n.toNat_lt
  have hround : Binary64.toUInt32 uint32 (Binary64.round (n.toNat : ℤ)) = UInt32.ofInt n.toNat :=
    Binary64.convert_round uint32 (by omega) (by omega) (abs_le.2 ⟨by omega, by omega⟩)
  rw [Int.cast_natCast] at hround
  rw [hround, UInt32.ofInt, Int.emod_eq_of_lt (by omega) (by omega), Int.toNat_natCast,
    UInt32.ofNat_toNat]

theorem lun_set (l : SCSIControllerLUN) (entry : String × Value) (h : entry.1 ≠ "id") :
    (l.set int32 entry).lun = l.lun := by
  simp only [SCSIControllerLUN.set, if_neg h]
  split_ifs
  · cases entry.2 <;> rfl
  · rfl

theorem bdevName_set (l : SCSIControllerLUN) (entry : String × Value)
    (h : entry.1 ≠ "bdev_name") : (l.set int32 entry).bdevName = l.bdevName := by
  simp only [SCSIControllerLUN.set, if_neg h]
  split_ifs
  · cases entry.2 <;> rfl
  · rfl

/-- One LUN, in whatever order its members are. -/
theorem decodeLUN_written {l : SCSIControllerLUN} {json : Json} {value : Value}
    (h : WrittenLUN l json) (hdecoded : Decoded json value) : decodeLUN int32 value = l := by
  obtain ⟨members, rfl, hid, hname⟩ := h
  obtain ⟨entries, rfl⟩ := hdecoded.object_eq
  obtain ⟨_, hidmem, hidvalue⟩ := hdecoded.entry hid
  obtain ⟨_, hnamemem, hnamevalue⟩ := hdecoded.entry hname
  cases hidvalue
  cases hnamevalue
  refine SCSIControllerLUN.ext ?_ ?_
  · exact foldl_entry lun_set hdecoded.nodup hidmem fun _ _ => toInt32_round l.lun
  · exact foldl_entry bdevName_set hdecoded.nodup hnamemem fun _ _ => rfl

theorem decodeLUNs_written {luns : List SCSIControllerLUN} {elements : List Json}
    {values : List Value} (h : List.Forall₂ WrittenLUN luns elements)
    (hdecoded : List.Forall₂ Decoded elements values) : values.map (decodeLUN int32) = luns := by
  induction h generalizing values with
  | nil =>
    cases hdecoded
    rfl
  | cons hlun _ ih =>
    cases hdecoded with
    | cons hvalue hrest => rw [List.map_cons, decodeLUN_written hlun hvalue, ih hrest]

section Fields

variable (target : SCSIControllerTarget) (entry : String × Value)

theorem targetName_set (h : entry.1 ≠ "target_name") :
    (target.set int32 uint32 entry).targetName = target.targetName := by
  simp only [SCSIControllerTarget.set, if_neg h]
  split_ifs <;> cases entry.2 <;> rfl

theorem id_set (h : entry.1 ≠ "id") : (target.set int32 uint32 entry).id = target.id := by
  simp only [SCSIControllerTarget.set, if_neg h]
  split_ifs <;> cases entry.2 <;> rfl

theorem scsiDevNum_set (h : entry.1 ≠ "scsi_dev_num") :
    (target.set int32 uint32 entry).scsiDevNum = target.scsiDevNum := by
  simp only [SCSIControllerTarget.set, if_neg h]
  split_ifs <;> cases entry.2 <;> rfl

theorem luns_set (h : entry.1 ≠ "luns") :
    (target.set int32 uint32 entry).luns = target.luns := by
  simp only [SCSIControllerTarget.set, if_neg h]
  split_ifs <;> cases entry.2 <;> rfl

end Fields

/-- One target, in whatever order its members are. -/
theorem decodeTarget_written {target : SCSIControllerTarget} {json : Json} {value : Value}
    (h : WrittenTarget target json) (hdecoded : Decoded json value) :
    decodeTarget int32 uint32 value = some target := by
  obtain ⟨members, luns, rfl, hname, hid, hnum, hluns, hwritten⟩ := h
  obtain ⟨entries, rfl⟩ := hdecoded.object_eq
  obtain ⟨_, hnamemem, hnamevalue⟩ := hdecoded.entry hname
  obtain ⟨_, hidmem, hidvalue⟩ := hdecoded.entry hid
  obtain ⟨_, hnummem, hnumvalue⟩ := hdecoded.entry hnum
  obtain ⟨_, hlunsmem, hlunsvalue⟩ := hdecoded.entry hluns
  cases hnamevalue
  cases hidvalue
  cases hnumvalue
  cases hlunsvalue with
  | array hvalues =>
    have hnodup := hdecoded.nodup
    refine congrArg some (SCSIControllerTarget.ext ?_ ?_ ?_ ?_)
    · exact foldl_entry targetName_set hnodup hnamemem fun _ _ => rfl
    · refine foldl_entry luns_set hnodup hlunsmem fun before hbefore => ?_
      rw [← decodeLUNs_written hwritten hvalues]
      exact congrArg (· ++ _) hbefore
    · exact foldl_entry id_set hnodup hidmem fun _ _ => toInt32_round target.id
    · exact foldl_entry scsiDevNum_set hnodup hnummem fun _ _ => toUInt32_round target.scsiDevNum

theorem decodeTarget_skipped {json : Json} {value : Value} (h : ∀ members, json ≠ .object members)
    (hdecoded : Decoded json value) : decodeTarget int32 uint32 value = none := by
  cases hdecoded with
  | object => exact absurd rfl (h _)
  | _ => rfl

theorem decodeTargets_written {targets : List SCSIControllerTarget} {elements : List Json}
    {values : List Value} (h : Written targets elements)
    (hdecoded : List.Forall₂ Decoded elements values) :
    values.filterMap (decodeTarget int32 uint32) = targets := by
  induction h generalizing values with
  | nil =>
    cases hdecoded
    rfl
  | target htarget _ ih =>
    cases hdecoded with
    | cons hvalue hrest =>
      rw [List.filterMap_cons_some (decodeTarget_written htarget hvalue), ih hrest]
  | skipped hskipped _ ih =>
    cases hdecoded with
    | cons hvalue hrest =>
      rw [List.filterMap_cons_none (decodeTarget_skipped hskipped hvalue), ih hrest]

end Written

/-- **Decoding inverts what was written.**  Whatever other members and elements there are, and
in whatever order Go iterates over the members of each object, the targets come out as they
are. -/
theorem getSCSIBackendSpecific_written (int32 : ℚ → Int32) (uint32 : ℚ → UInt32)
    (targets : List SCSIControllerTarget) (elements : List Json) (value : Value)
    (hwritten : Written targets elements) (hdecoded : Decoded (.array elements) value) :
    getSCSIBackendSpecific int32 uint32 value = targets := by
  cases hdecoded with
  | array hvalues => exact decodeTargets_written hwritten hvalues

/-- A target and a number.  The members of the target are not met in the order in which they
were written. -/
theorem getSCSIBackendSpecific_reordered :
    getSCSIBackendSpecific (fun _ => 0) (fun _ => 0) (.list
      [.map [("luns", .list [.map [("bdev_name", .string "vol"), ("id", .float64 (0 : ℤ))]]),
        ("scsi_dev_num", .float64 (3 : ℤ)), ("id", .float64 (-1 : ℤ)),
        ("target_name", .string "Target 3")],
      .float64 (7 : ℤ)]) = [⟨"Target 3", [⟨0, "vol"⟩], -1, 3⟩] := by
  refine getSCSIBackendSpecific_written _ _ _
    [.object [("target_name", .string "Target 3"), ("id", .number (-1 : ℤ)),
      ("scsi_dev_num", .number (3 : ℤ)),
      ("luns", .array [.object [("id", .number (0 : ℤ)), ("bdev_name", .string "vol")]])],
    .number (7 : ℤ)] _ ?_ ?_
  · exact .target ⟨_, _, rfl, rfl, rfl, rfl, rfl, .cons ⟨_, rfl, rfl, rfl⟩ .nil⟩
      (.skipped (fun _ => nofun) .nil)
  · have hlun : Decoded (.object [("id", .number (0 : ℤ)), ("bdev_name", .string "vol")])
        (.map [("bdev_name", .string "vol"), ("id", .float64 (0 : ℤ))]) :=
      decoded_of_perm (by decide) (.swap _ _ _)
        (.cons ⟨rfl, .string _⟩ (.cons ⟨rfl, decoded_intCast (by decide)⟩ .nil))
    refine .array (.cons (decoded_of_perm (by decide) (List.reverse_perm _) ?_)
      (.cons (decoded_intCast (by decide)) .nil))
    exact .cons ⟨rfl, .array (.cons hlun .nil)⟩ (.cons ⟨rfl, decoded_intCast (by decide)⟩
      (.cons ⟨rfl, decoded_intCast (by decide)⟩ (.cons ⟨rfl, .string _⟩ .nil)))

/-! ## What SPDK writes -/

/-- `spdk_vhost_scsi_dump_info_json` for one LUN. -/
def dumpLUN (v : String) : Json := .object [("id", .number 0), ("bdev_name", .string v)]

/-- `spdk_vhost_scsi_dump_info_json` for one target, with the ID of the SCSI device. -/
def dumpTarget (id : Int32) (t : ℕ) (v : String) : Json :=
  .object [("scsi_dev_num", .number t), ("id", .number id.toInt),
    ("target_name", .string ("Target " ++ toString t)), ("luns", .array [dumpLUN v])]

/-- `spdk_vhost_scsi_dump_info_json`. -/
def dumpInfoJson (ids : ℕ → Int32) (h : VHost) : List Json :=
  (List.range maxDevs).filterMap fun t => (h.lun t).map (dumpTarget (ids t) t)

end Oim.Spdk.Backends
