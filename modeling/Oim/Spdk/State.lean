import Mathlib

/-!
# The state of an SPDK daemon

What OIM reads and changes of SPDK: its block devices (`bdevs`) and its vhost
controllers, each SCSI controller with eight targets that are empty or hold one
LUN backed by a block device (`vendor/github.com/spdk/spdk/lib/bdev/bdev.c`,
`lib/vhost/vhost.c`, `lib/vhost/vhost_scsi.c`).

A `State` carries what SPDK guarantees about itself, so that it cannot be built
otherwise: block devices have different names, controllers have different names,
and a LUN is always backed by an existing block device.  One field is about how
the daemon is set up: no controller is named after the socket directory itself,
so each can be addressed by the name it is listed with.  Aliases of block devices are
left out.

* `bdev?`, `lun` — the two observations everything else is stated in: the block
  device of a name, and the block device behind a target.
* `addBDev`, `deleteBDev`, `setLun` — the changes, each with one lemma per
  observation that it affects.  Deleting a block device takes its LUNs along
  (`spdk_vhost_scsi_lun_hotremove`).
* `detach` — all targets of one block device emptied, and nothing else.
-/

namespace Oim.Spdk

/-! ## Block devices -/

/-- A block device as SPDK keeps it (`struct spdk_bdev`). -/
structure Disk where
  name : String
  productName : String
  blocklen : UInt32
  blockcnt : UInt64
  deriving DecidableEq, Repr

/-- The size of a block device in bytes. -/
def Disk.bytes (d : Disk) : ℕ := d.blocklen.toNat * d.blockcnt.toNat

/-- The product name of the in-memory block devices (`bdev_malloc.c`). -/
def mallocProduct : String := "Malloc disk"

/-- The product name of Ceph block devices (`bdev_rbd.c`). -/
def rbdProduct : String := "Ceph Rbd Disk"

/-- A block device made by the malloc module. -/
def Disk.isMalloc (d : Disk) : Bool := d.productName = mallocProduct

/-! ## vhost controllers -/

/-- `SPDK_VHOST_SCSI_CTRLR_MAX_DEVS`. -/
def maxDevs : ℕ := 8

/-- A vhost controller is a SCSI controller with its targets, or of some other
kind.  "At this stage only one LUN per target" (`vhost_scsi.c`), so a target is
empty or the name of the block device behind its LUN 0. -/
inductive Backend where
  | scsi (targets : Fin maxDevs → Option String)
  | block
  deriving DecidableEq

namespace Backend

/-- The block device behind target `t`. -/
def lun : Backend → ℕ → Option String
  | .scsi f, t => if h : t < maxDevs then f ⟨t, h⟩ else none
  | .block, _ => none

/-- Does the controller have a target number `t`? -/
def hasTarget : Backend → ℕ → Bool
  | .scsi _, t => t < maxDevs
  | .block, _ => false

/-- Put `x` behind target `t`. -/
def set (t : ℕ) (x : Option String) : Backend → Backend
  | .scsi f => .scsi fun i => if i.val = t then x else f i
  | .block => .block

/-- Empty every target that holds `v`. -/
def detach (v : String) : Backend → Backend
  | .scsi f => .scsi fun i => if f i = some v then none else f i
  | .block => .block

theorem lun_set (b : Backend) (t t' : ℕ) (x : Option String) :
    (b.set t x).lun t' = if t' = t ∧ b.hasTarget t then x else b.lun t' := by
  cases b with
  | block => simp [set, lun, hasTarget]
  | scsi f =>
    by_cases ht : t' = t
    · subst ht
      by_cases hlt : t' < maxDevs <;> simp [set, lun, hasTarget, hlt]
    · by_cases hlt : t' < maxDevs <;> simp [set, lun, hlt, ht]

theorem lun_detach (b : Backend) (v : String) (t : ℕ) :
    (b.detach v).lun t = if b.lun t = some v then none else b.lun t := by
  cases b with
  | block => simp [detach, lun]
  | scsi f =>
    by_cases hlt : t < maxDevs <;> simp [detach, lun, hlt]

theorem hasTarget_of_lun {b : Backend} {t : ℕ} {v : String} (h : b.lun t = some v) :
    b.hasTarget t = true := by
  cases b with
  | block => simp [lun] at h
  | scsi f =>
    by_cases hlt : t < maxDevs
    · simp [hasTarget, hlt]
    · simp [lun, hlt] at h

@[simp] theorem hasTarget_set (b : Backend) (t t' : ℕ) (x : Option String) :
    (b.set t x).hasTarget t' = b.hasTarget t' := by
  cases b <;> rfl

@[simp] theorem hasTarget_detach (b : Backend) (v : String) (t : ℕ) :
    (b.detach v).hasTarget t = b.hasTarget t := by
  cases b <;> rfl

/-- Backends with the same kind and the same LUNs are equal. -/
theorem ext_lun {b b' : Backend} (hkind : ∀ t, b.hasTarget t = b'.hasTarget t)
    (hlun : ∀ t, b.lun t = b'.lun t) : b = b' := by
  cases b with
  | block =>
    cases b' with
    | block => rfl
    | scsi f => exact absurd (hkind 0) (by simp [hasTarget, maxDevs])
  | scsi f =>
    cases b' with
    | block => exact absurd (hkind 0) (by simp [hasTarget, maxDevs])
    | scsi g =>
      congr 1
      funext i
      have h := hlun i.val
      simpa [lun, i.isLt] using h

end Backend

/-- A vhost controller (`struct spdk_vhost_dev`). -/
structure VHost where
  ctrlr : String
  backend : Backend
  deriving DecidableEq

/-- The block device behind a target of the controller. -/
def VHost.lun (h : VHost) (t : ℕ) : Option String := h.backend.lun t

namespace VHost

/-- The controller with `x` behind target `t`, if it is the one called `name`. -/
def setIf (name : String) (t : ℕ) (x : Option String) (h : VHost) : VHost :=
  if h.ctrlr = name then { h with backend := h.backend.set t x } else h

theorem ctrlr_setIf (name : String) (t : ℕ) (x : Option String) (h : VHost) :
    (setIf name t x h).ctrlr = h.ctrlr := by
  unfold setIf
  split_ifs <;> rfl

theorem lun_setIf {name : String} {t t' : ℕ} {x : Option String} {h : VHost} {v : String}
    (hv : (setIf name t x h).lun t' = some v) :
    h.lun t' = some v ∨ x = some v := by
  unfold setIf at hv
  split_ifs at hv
  · have hv' : (h.backend.set t x).lun t' = some v := hv
    rw [Backend.lun_set] at hv'
    split_ifs at hv'
    · exact Or.inr hv'
    · exact Or.inl hv'
  · exact Or.inl hv

/-- The controller with the targets of `v` emptied. -/
def detach (v : String) (h : VHost) : VHost := { h with backend := h.backend.detach v }

theorem lun_detach (v : String) (h : VHost) (t : ℕ) :
    (detach v h).lun t = if h.lun t = some v then none else h.lun t :=
  Backend.lun_detach h.backend v t

theorem lun_of_detach {v w : String} {h : VHost} {t : ℕ}
    (hw : (detach v h).lun t = some w) : h.lun t = some w ∧ w ≠ v := by
  rw [lun_detach] at hw
  split_ifs at hw with hv
  exact ⟨hw, fun he => hv (he ▸ hw)⟩

theorem detach_of_unattached {v : String} {h : VHost} (hv : ∀ t, h.lun t ≠ some v) :
    detach v h = h := by
  cases h with
  | mk ctrlr backend =>
    refine congrArg (VHost.mk ctrlr) (Backend.ext_lun (Backend.hasTarget_detach _ _) fun t => ?_)
    exact (Backend.lun_detach _ v t).trans (if_neg (hv t))

theorem detach_setIf {v : String} {t : ℕ} {x : Option String} {h : VHost}
    (hold : ∀ w, h.lun t = some w → w = v) (hnew : ∀ w, x = some w → w = v) :
    detach v (setIf h.ctrlr t x h) = detach v h := by
  have gone : ∀ y : Option String, (∀ w, y = some w → w = v) →
      (if y = some v then none else y) = none := by
    intro y hy
    cases y with
    | none => rfl
    | some w => rw [hy w rfl, if_pos rfl]
  unfold detach setIf
  rw [if_pos rfl]
  refine congrArg (VHost.mk h.ctrlr) (Backend.ext_lun ?_ fun t' => ?_)
  · intro t'
    rw [Backend.hasTarget_detach, Backend.hasTarget_detach, Backend.hasTarget_set]
  · simp only [Backend.lun_detach, Backend.lun_set]
    by_cases heq : t' = t ∧ h.backend.hasTarget t = true
    · simp only [if_pos heq, gone x hnew]
      rw [heq.1]
      exact (gone (h.backend.lun t) hold).symm
    · rw [if_neg heq]

end VHost

/-- `spdk_vhost_dev_find` strips the socket directory off the name it is given,
so a controller can be addressed by its socket path as well. -/
def resolve (devDirname name : String) : String :=
  match name.toList.dropPrefix? devDirname.toList with
  | some rest => String.ofList rest
  | none => name

/-! ## The daemon -/

/-- The state of SPDK. -/
structure State where
  /-- All block devices, oldest first. -/
  bdevs : List Disk
  /-- All vhost controllers. -/
  vhosts : List VHost
  /-- The socket directory of the vhost controllers (`dev_dirname`). -/
  devDirname : String
  /-- How many names of the form `Malloc<n>` were handed out. -/
  mallocDiskCount : ℕ
  names_nodup : (bdevs.map Disk.name).Nodup
  ctrlrs_nodup : (vhosts.map VHost.ctrlr).Nodup
  luns_exist : ∀ h ∈ vhosts, ∀ t v, h.lun t = some v → v ∈ bdevs.map Disk.name
  ctrlrs_found : ∀ h ∈ vhosts, resolve devDirname h.ctrlr = h.ctrlr

namespace State

/-- A daemon as `test/pkg/spdk` sets it up: no block devices, and one SCSI
controller without LUNs. -/
def fresh (ctrlr : String) : State where
  bdevs := []
  vhosts := [⟨ctrlr, .scsi fun _ => none⟩]
  devDirname := ""
  mallocDiskCount := 0
  names_nodup := List.nodup_nil
  ctrlrs_nodup := List.nodup_singleton ctrlr
  luns_exist := by simp [VHost.lun, Backend.lun]
  ctrlrs_found := by simp [Spdk.resolve]

/-- `spdk_bdev_get_by_name`, without the aliases that it tries after the names: only logical
volumes have them, and OIM makes none. -/
def bdev? (s : State) (name : String) : Option Disk := s.bdevs.find? fun d => d.name = name

/-- The controller listed under `name`. -/
def vhost? (s : State) (name : String) : Option VHost := s.vhosts.find? fun h => h.ctrlr = name

/-- The block device behind target `t` of the controller listed under `name`. -/
def lun (s : State) (name : String) (t : ℕ) : Option String :=
  (s.vhost? name).bind fun h => h.lun t

/-- The name a controller is listed under when it is addressed as `name`. -/
def resolve (s : State) (name : String) : String := Spdk.resolve s.devDirname name

theorem ext {s s' : State} (hb : s.bdevs = s'.bdevs) (hv : s.vhosts = s'.vhosts)
    (hd : s.devDirname = s'.devDirname) (hc : s.mallocDiskCount = s'.mallocDiskCount) :
    s = s' := by
  cases s
  cases s'
  simp only at hb hv hd hc
  subst hb hv hd hc
  rfl

/-! ### Looking things up -/

theorem mem_names_iff {s : State} {v : String} :
    v ∈ s.bdevs.map Disk.name ↔ (s.bdev? v).isSome = true := by
  simp [bdev?, List.find?_isSome]

theorem not_mem_names_iff {s : State} {v : String} :
    v ∉ s.bdevs.map Disk.name ↔ s.bdev? v = none := by
  rw [mem_names_iff, Bool.not_eq_true, Option.isSome_eq_false_iff, Option.isNone_iff_eq_none]

theorem vhost?_of_mem {s : State} {h : VHost} (hm : h ∈ s.vhosts) : s.vhost? h.ctrlr = some h := by
  unfold vhost?
  have hsome : (s.vhosts.find? fun h' => h'.ctrlr = h.ctrlr).isSome = true := by
    rw [List.find?_isSome]
    exact ⟨h, hm, by simp⟩
  obtain ⟨h', hh'⟩ := Option.isSome_iff_exists.1 hsome
  have hm' : h' ∈ s.vhosts := List.mem_of_find?_eq_some hh'
  have hc : h'.ctrlr = h.ctrlr := by simpa using List.find?_some hh'
  rw [hh', List.inj_on_of_nodup_map s.ctrlrs_nodup hm' hm hc]

theorem vhost?_mem {s : State} {name : String} {h : VHost} (hh : s.vhost? name = some h) :
    h ∈ s.vhosts ∧ h.ctrlr = name :=
  ⟨List.mem_of_find?_eq_some hh, by simpa using List.find?_some hh⟩

/-- A LUN, seen from the list of controllers. -/
theorem lun_eq_some_iff {s : State} {name : String} {t : ℕ} {v : String} :
    s.lun name t = some v ↔ ∃ h ∈ s.vhosts, h.ctrlr = name ∧ h.lun t = some v := by
  unfold lun
  constructor
  · intro hl
    obtain ⟨h, hh, hv⟩ := Option.bind_eq_some_iff.1 hl
    exact ⟨h, (vhost?_mem hh).1, (vhost?_mem hh).2, hv⟩
  · rintro ⟨h, hm, rfl, hv⟩
    rw [vhost?_of_mem hm]
    exact hv

theorem lun_fresh (ctrlr name : String) (t : ℕ) : (fresh ctrlr).lun name t = none := by
  rw [Option.eq_none_iff_forall_ne_some]
  intro v hv
  obtain ⟨h, hm, -, hl⟩ := lun_eq_some_iff.1 hv
  rw [fresh, List.mem_singleton] at hm
  simp [hm, VHost.lun, Backend.lun] at hl

/-- A LUN is backed by an existing block device. -/
theorem bdev?_of_lun {s : State} {name : String} {t : ℕ} {v : String}
    (h : s.lun name t = some v) : (s.bdev? v).isSome = true := by
  obtain ⟨vh, hm, -, hv⟩ := lun_eq_some_iff.1 h
  exact mem_names_iff.1 (s.luns_exist vh hm t v hv)

/-- A controller with a LUN is found under the name it is listed with. -/
theorem resolve_of_lun {s : State} {name : String} {t : ℕ} {v : String}
    (h : s.lun name t = some v) : s.resolve name = name := by
  obtain ⟨vh, hm, rfl, -⟩ := lun_eq_some_iff.1 h
  exact s.ctrlrs_found vh hm

theorem find?_map_ctrlr (l : List VHost) (f : VHost → VHost) (hf : ∀ h, (f h).ctrlr = h.ctrlr)
    (name : String) : (l.map f).find? (fun h => h.ctrlr = name) =
      (l.find? fun h => h.ctrlr = name).map f := by
  rw [List.find?_map]
  simp only [Function.comp_def, hf]

/-! ### Adding a block device -/

/-- Register a new block device (`spdk_bdev_register`), which has to have a name
of its own. -/
def addBDev (s : State) (d : Disk) (hd : s.bdev? d.name = none) : State :=
  { s with
    bdevs := s.bdevs ++ [d]
    names_nodup := by
      rw [List.map_append, List.map_singleton]
      refine List.Nodup.append s.names_nodup (List.nodup_singleton _) ?_
      rw [List.disjoint_singleton]
      exact not_mem_names_iff.2 hd
    luns_exist := by
      intro h hm t v hv
      rw [List.map_append]
      exact List.mem_append_left _ (s.luns_exist h hm t v hv) }

theorem bdev?_addBDev (s : State) (d : Disk) (hd : s.bdev? d.name = none) (name : String) :
    (s.addBDev d hd).bdev? name = if name = d.name then some d else s.bdev? name := by
  unfold bdev? addBDev
  rw [List.find?_append]
  by_cases h : name = d.name
  · subst h
    rw [if_pos rfl, show s.bdevs.find? (fun d' => d'.name = d.name) = none from hd]
    simp
  · rw [if_neg h]
    simp [Ne.symm h]

/-! ### Changing a target -/

/-- Put `x` behind target `t` of the controller listed under `name`.  Only an
existing block device can be put there. -/
def setLun (s : State) (name : String) (t : ℕ) (x : Option String)
    (hx : ∀ v, x = some v → v ∈ s.bdevs.map Disk.name) : State :=
  { s with
    vhosts := s.vhosts.map (VHost.setIf name t x)
    ctrlrs_nodup := by
      rw [List.map_map, show VHost.ctrlr ∘ VHost.setIf name t x = VHost.ctrlr from
        funext (VHost.ctrlr_setIf name t x)]
      exact s.ctrlrs_nodup
    luns_exist := by
      intro h hm t' v hv
      obtain ⟨h₀, hm₀, rfl⟩ := List.mem_map.1 hm
      rcases VHost.lun_setIf hv with hv | hv
      · exact s.luns_exist h₀ hm₀ t' v hv
      · exact hx v hv
    ctrlrs_found := by
      intro h hm
      obtain ⟨h₀, hm₀, rfl⟩ := List.mem_map.1 hm
      rw [VHost.ctrlr_setIf]
      exact s.ctrlrs_found h₀ hm₀ }

/-- Does the controller listed under `name` have a target number `t`? -/
def hasTarget (s : State) (name : String) (t : ℕ) : Bool :=
  (s.vhost? name).any fun h => h.backend.hasTarget t

theorem hasTarget_of_lun {s : State} {name : String} {t : ℕ} {v : String}
    (h : s.lun name t = some v) : s.hasTarget name t = true := by
  unfold lun at h
  obtain ⟨vh, hh, hv⟩ := Option.bind_eq_some_iff.1 h
  unfold hasTarget
  rw [hh]
  exact Backend.hasTarget_of_lun hv

theorem lun_setLun (s : State) (name : String) (t : ℕ) (x : Option String)
    (hx : ∀ v, x = some v → v ∈ s.bdevs.map Disk.name) (n : String) (t' : ℕ) :
    (s.setLun name t x hx).lun n t' =
      if n = name ∧ t' = t ∧ s.hasTarget name t then x else s.lun n t' := by
  have hfind : (s.setLun name t x hx).vhost? n = (s.vhost? n).map (VHost.setIf name t x) :=
    find?_map_ctrlr s.vhosts _ (VHost.ctrlr_setIf name t x) n
  unfold lun
  rw [hfind]
  cases hn : s.vhost? n with
  | none =>
    by_cases hc : n = name
    · subst hc
      simp [hasTarget, hn]
    · simp [hc]
  | some h =>
    have hc : h.ctrlr = n := (vhost?_mem hn).2
    subst hc
    by_cases hc : h.ctrlr = name
    · subst hc
      simp only [Option.map_some, Option.bind_some, VHost.setIf, if_pos, VHost.lun,
        Backend.lun_set, hasTarget, hn, Option.any_some, true_and]
    · simp [VHost.setIf, hc]

/-! ### Deleting a block device -/

/-- Empty every target that holds `v`. -/
def detach (s : State) (v : String) : State :=
  { s with
    vhosts := s.vhosts.map (VHost.detach v)
    ctrlrs_nodup := by
      rw [List.map_map]
      exact s.ctrlrs_nodup
    luns_exist := by
      intro h hm t w hw
      obtain ⟨h₀, hm₀, rfl⟩ := List.mem_map.1 hm
      exact s.luns_exist h₀ hm₀ t w (VHost.lun_of_detach hw).1
    ctrlrs_found := by
      intro h hm
      obtain ⟨h₀, hm₀, rfl⟩ := List.mem_map.1 hm
      exact s.ctrlrs_found h₀ hm₀ }

/-- Unregister a block device (`spdk_bdev_unregister`), and with it every target
whose LUN it backs. -/
def deleteBDev (s : State) (v : String) : State :=
  { s.detach v with
    bdevs := s.bdevs.filter fun d => d.name ≠ v
    names_nodup := s.names_nodup.sublist (List.filter_sublist.map _)
    luns_exist := by
      intro h hm t w hw
      obtain ⟨h₀, hm₀, rfl⟩ := List.mem_map.1 hm
      obtain ⟨hw₀, hne⟩ := VHost.lun_of_detach hw
      obtain ⟨d, hd, rfl⟩ := List.mem_map.1 (s.luns_exist h₀ hm₀ t w hw₀)
      exact List.mem_map.2 ⟨d, List.mem_filter.2 ⟨hd, by simpa using hne⟩, rfl⟩ }

theorem lun_detach (s : State) (v name : String) (t : ℕ) :
    (s.detach v).lun name t = if s.lun name t = some v then none else s.lun name t := by
  have hfind : (s.detach v).vhost? name = (s.vhost? name).map (VHost.detach v) :=
    find?_map_ctrlr s.vhosts (VHost.detach v) (fun _ => rfl) name
  unfold lun
  rw [hfind]
  cases hn : s.vhost? name with
  | none => simp
  | some h => simp [VHost.lun_detach]

theorem lun_detach_ne (s : State) (v name : String) (t : ℕ) : (s.detach v).lun name t ≠ some v := by
  intro hl
  rw [lun_detach] at hl
  split_ifs at hl with h
  exact h hl

@[simp] theorem lun_deleteBDev (s : State) (v name : String) (t : ℕ) :
    (s.deleteBDev v).lun name t = if s.lun name t = some v then none else s.lun name t :=
  lun_detach s v name t

theorem bdev?_deleteBDev (s : State) (v w : String) :
    (s.deleteBDev v).bdev? w = if w = v then none else s.bdev? w := by
  unfold bdev? deleteBDev
  rw [List.find?_filter]
  by_cases h : w = v
  · subst h
    rw [if_pos rfl, List.find?_eq_none]
    intro d _
    simp
  · rw [if_neg h]
    congr 1
    funext d
    by_cases hd : d.name = w
    · simp [hd, h]
    · simp [hd]

/-! ### Undoing changes -/

theorem lun_of_mem {s : State} {h : VHost} (hm : h ∈ s.vhosts) (t : ℕ) :
    s.lun h.ctrlr t = h.lun t := by
  rw [lun, vhost?_of_mem hm, Option.bind_some]

theorem detach_of_unattached {s : State} {v : String} (hv : ∀ n t, s.lun n t ≠ some v) :
    s.detach v = s := by
  refine ext rfl ?_ rfl rfl
  show s.vhosts.map (VHost.detach v) = s.vhosts
  refine (List.map_congr_left fun h hm => ?_).trans (List.map_id _)
  exact VHost.detach_of_unattached fun t => lun_of_mem hm t ▸ hv h.ctrlr t

/-- Filling a free target with `v`, or emptying one of its targets, is undone by
detaching `v`. -/
theorem detach_setLun {s : State} {name v : String} {t : ℕ} {x : Option String}
    {hx : ∀ w, x = some w → w ∈ s.bdevs.map Disk.name}
    (hold : ∀ w, s.lun name t = some w → w = v) (hnew : ∀ w, x = some w → w = v) :
    (s.setLun name t x hx).detach v = s.detach v := by
  refine ext rfl ?_ rfl rfl
  show (s.vhosts.map (VHost.setIf name t x)).map (VHost.detach v) = s.vhosts.map (VHost.detach v)
  rw [List.map_map]
  refine List.map_congr_left fun h hm => ?_
  by_cases hc : h.ctrlr = name
  · subst hc
    refine VHost.detach_setIf (fun w hw => hold w ?_) hnew
    rw [lun_of_mem hm]
    exact hw
  · simp [VHost.setIf, hc]

theorem detach_attach {s : State} {name v : String} {t : ℕ}
    {hx : ∀ w, some v = some w → w ∈ s.bdevs.map Disk.name} (hfree : s.lun name t = none) :
    (s.setLun name t (some v) hx).detach v = s.detach v := by
  refine detach_setLun (fun w hw => ?_) fun w hw => (Option.some.inj hw).symm
  rw [hfree] at hw
  exact absurd hw (by simp)

theorem deleteBDev_congr {s s' : State} {v : String} (h : s'.detach v = s.detach v) :
    s'.deleteBDev v = s.deleteBDev v := by
  have hb : (s'.detach v).bdevs = (s.detach v).bdevs := by rw [h]
  have hv : (s'.detach v).vhosts = (s.detach v).vhosts := by rw [h]
  have hdir : (s'.detach v).devDirname = (s.detach v).devDirname := by rw [h]
  have hcnt : (s'.detach v).mallocDiskCount = (s.detach v).mallocDiskCount := by rw [h]
  exact ext (congrArg (List.filter fun d : Disk => d.name ≠ v) hb) hv hdir hcnt

theorem deleteBDev_detach (s : State) (v : String) :
    (s.detach v).deleteBDev v = s.deleteBDev v :=
  deleteBDev_congr (detach_of_unattached (lun_detach_ne s v))

/-- A new block device is undone by deleting it. -/
theorem deleteBDev_addBDev (s : State) (d : Disk) (hd : s.bdev? d.name = none) :
    (s.addBDev d hd).deleteBDev d.name = s.deleteBDev d.name := by
  refine ext ?_ rfl rfl rfl
  show (s.bdevs ++ [d]).filter _ = s.bdevs.filter _
  simp [List.filter_append]

/-- Deleting what is not there changes nothing. -/
theorem deleteBDev_of_none {s : State} {v : String} (hv : s.bdev? v = none) :
    s.deleteBDev v = s := by
  have hun : ∀ n t, s.lun n t ≠ some v := fun n t hl => by
    simpa [hv] using bdev?_of_lun hl
  have hvhosts : (s.detach v).vhosts = s.vhosts := by rw [detach_of_unattached hun]
  refine ext ?_ hvhosts rfl rfl
  show s.bdevs.filter _ = s.bdevs
  rw [List.filter_eq_self]
  intro d hd
  have hne : d.name ≠ v := fun he => not_mem_names_iff.2 hv (he ▸ List.mem_map_of_mem hd)
  simpa using hne

end State

end Oim.Spdk
