import Oim.Controller.Calls

/-!
# What the calls of the controller do to SPDK

Everything later is derived from three statements here, and nothing later opens a
handler again (the results on a single undisturbed call apart).

* `Issues c req s q` — the SPDK requests a call may make, with the state they are
  made in: `MapVolume(v)` only attaches `v` while it is attached nowhere,
  `UnmapVolume(v)` only removes a target that holds `v` and only deletes a BDev
  that is no Malloc BDev.
* `Moves c s req s'` — what can become of SPDK in one request of a call, in terms
  of volumes and targets alone.  `Issues.moves` connects the two.
* `discipline` — every handler keeps to `Issues`, whatever the calls for other
  volumes do in between, and its answer means what `Post` says.  A call only
  counts on its own volume staying put (`Same`).
-/

namespace Oim.Controller

open Interaction
open Spdk (Client Rpc State Disk attachments dump getBDevs server ConstructRBDBDevArgs)

/-! ## Volumes -/

/-- No target holds `v`. -/
def Unattached (s : State) (v : String) : Prop := ∀ n t, s.lun n t ≠ some v

/-- The BDev `v` exists and `GetBDevs` can report it. -/
def Readable (s : State) (v : String) : Prop := ∃ b, getBDevs s v = .ok [b]

/-- The volume `v` has the same BDev and the same targets. -/
structure Same (v : String) (s s' : State) : Prop where
  bdev : s'.bdev? v = s.bdev? v
  lun : ∀ n t, s'.lun n t = some v ↔ s.lun n t = some v

theorem Same.refl (v : String) (s : State) : Same v s s := ⟨rfl, fun _ _ => Iff.rfl⟩

theorem Same.trans {v : String} {s₁ s₂ s₃ : State} (h : Same v s₁ s₂) (h' : Same v s₂ s₃) :
    Same v s₁ s₃ :=
  ⟨h'.bdev.trans h.bdev, fun n t => (h'.lun n t).trans (h.lun n t)⟩

theorem Same.unattached {v : String} {s s' : State} (h : Same v s s') (hu : Unattached s v) :
    Unattached s' v := fun n t hl => hu n t ((h.lun n t).1 hl)

theorem Same.readable {v : String} {s s' : State} (h : Same v s s') (hne : v ≠ "")
    (hr : Readable s v) : Readable s' v := by
  obtain ⟨b, hb⟩ := hr
  rw [Spdk.getBDevs_named hne] at hb
  exact ⟨b, by rw [Spdk.getBDevs_named hne, h.bdev]; exact hb⟩

/-! ## Requests and their effects -/

/-- The requests that a call makes, and the states it makes them in. -/
inductive Issues (c : Controller) : Request → State → Rpc → Prop where
  | getBDevs (req : Request) (s : State) : Issues c req s (.getBDevs req.key)
  | getVHostControllers (req : Request) (s : State) : Issues c req s .getVHostControllers
  | constructRBDBDev {v : String} {params : MapParams} {s : State} {args : ConstructRBDBDevArgs} :
      args.name = v → args.blockSize = 512 →
      Issues c (.mapVolume v params) s (.constructRBDBDev args)
  | addVHostSCSILUN {v : String} {params : MapParams} {s : State} {t : ℕ} :
      Unattached s v → Issues c (.mapVolume v params) s (.addVHostSCSILUN ⟨c.vhostSCSI, t, v⟩)
  | removeVHostSCSITarget {v : String} {s : State} {n : String} {t : ℕ} :
      s.lun n t = some v → Issues c (.unmapVolume v) s (.removeVHostSCSITarget ⟨n, t⟩)
  | deleteMapped {v : String} {s : State} {d : Disk} :
      s.bdev? v = some d → d.isMalloc = false → Issues c (.unmapVolume v) s (.deleteBDev v)
  | constructMallocBDev {v : String} {size : Int64} {s : State} :
      v ≠ "" → size ≠ 0 →
      Issues c (.provisionMallocBDev v size) s (.constructMallocBDev ⟨size / 512, 512, v⟩)
  | deleteBDev {v : String} {s : State} :
      Issues c (.provisionMallocBDev v 0) s (.deleteBDev v)

/-- What one request of a call can make of SPDK. -/
inductive Moves (c : Controller) (s : State) : Request → State → Prop where
  | stay (req : Request) : Moves c s req s
  /-- `MapVolume` makes a BDev for a volume in a Ceph cluster. -/
  | create {v : String} {params : MapParams} {d : Disk} (hd : s.bdev? d.name = none) :
      d.name = v → d.isMalloc = false → d.blockcnt.toNat < 2 ^ 63 →
      Moves c s (.mapVolume v params) (s.addBDev d hd)
  /-- `MapVolume` puts the volume behind a free target of its own controller. -/
  | attach {v : String} {params : MapParams} {t : ℕ}
      (hx : ∀ w, some v = some w → w ∈ s.bdevs.map Disk.name) :
      Unattached s v → s.lun (s.resolve c.vhostSCSI) t = none →
      s.hasTarget (s.resolve c.vhostSCSI) t = true →
      Moves c s (.mapVolume v params) (s.setLun (s.resolve c.vhostSCSI) t (some v) hx)
  /-- `UnmapVolume` empties a target that holds the volume. -/
  | remove {v n : String} {t : ℕ} : s.lun n t = some v →
      Moves c s (.unmapVolume v) (s.setLun n t none (by simp))
  /-- `UnmapVolume` deletes a BDev that is no Malloc BDev. -/
  | forget {v : String} {d : Disk} : s.bdev? v = some d → d.isMalloc = false →
      Moves c s (.unmapVolume v) (s.deleteBDev v)
  /-- `ProvisionMallocBDev` makes a BDev. -/
  | provision {v : String} {size : Int64} {d : Disk} (hd : s.bdev? d.name = none) :
      size ≠ 0 → d.name = v → Moves c s (.provisionMallocBDev v size) (s.addBDev d hd)
  /-- `ProvisionMallocBDev` deletes a BDev. -/
  | delete {v : String} : Moves c s (.provisionMallocBDev v 0) (s.deleteBDev v)

variable {c : Controller} {images : ConstructRBDBDevArgs → Option UInt64}

/-- The controller makes RBD BDevs with blocks of 512 bytes, so their number of
blocks fits into an `int64`. -/
theorem blockcnt_lt_of_rbd {cnt size : UInt64}
    (h : cnt = size / (UInt32.ofNat (512 : Int64).toInt.toNat).toUInt64) : cnt.toNat < 2 ^ 63 := by
  have hsize := size.toNat_lt
  have hlen : (UInt32.ofNat (512 : Int64).toInt.toNat).toUInt64.toNat = 512 := by decide
  rw [h, UInt64.toNat_div, hlen]
  omega

/-- **The effect of a request.** -/
theorem Issues.moves {req : Request} {s s' : State} {q : Rpc} {r : q.Reply}
    (h : Issues c req s q) (hstep : (server images).Step q s r s') : Moves c s req s' := by
  cases r with
  | error e =>
    have hq : q.anonymous = false := by
      cases h with
      | constructMallocBDev hne hsize => simpa [Rpc.anonymous] using hne
      | _ => rfl
    rw [Spdk.step_error hq hstep]
    exact .stay req
  | ok x =>
    cases h with
    | getBDevs => rw [(Spdk.step_getBDevs_ok hstep).2]; exact .stay req
    | getVHostControllers => rw [(Spdk.step_dump_ok hstep).2]; exact .stay req
    | constructRBDBDev hname hsize =>
      obtain ⟨d, hd, rfl, hdn, hprod, size, hcnt⟩ := Spdk.step_rbd_ok hstep
      rw [hsize] at hcnt
      exact .create hd (hdn.trans hname) (by rw [Disk.isMalloc, hprod]; decide)
        (blockcnt_lt_of_rbd hcnt)
    | addVHostSCSILUN hun =>
      obtain ⟨hfree, htarget, hx, rfl⟩ := Spdk.step_add_ok hstep
      exact .attach hx hun hfree htarget
    | removeVHostSCSITarget hl =>
      rw [Spdk.step_remove_ok hstep]
      simp only [State.resolve_of_lun hl]
      exact .remove hl
    | deleteMapped hd hm =>
      rw [(Spdk.step_delete_ok hstep).2]
      exact .forget hd hm
    | constructMallocBDev hne hsize =>
      obtain ⟨d, hd, rfl, hdn, -⟩ := Spdk.step_malloc_ok hne hstep
      exact .provision hd hsize hdn
    | deleteBDev =>
      rw [(Spdk.step_delete_ok hstep).2]
      exact .delete

/-! ### Other volumes -/

theorem same_addBDev {s : State} {d : Disk} (hd : s.bdev? d.name = none) {k : String}
    (hk : k ≠ d.name) : Same k s (s.addBDev d hd) :=
  ⟨by rw [State.bdev?_addBDev, if_neg hk], fun _ _ => Iff.rfl⟩

theorem same_deleteBDev {s : State} {v k : String} (hk : k ≠ v) : Same k s (s.deleteBDev v) := by
  refine ⟨by rw [State.bdev?_deleteBDev, if_neg hk], fun n t => ?_⟩
  rw [State.lun_deleteBDev]
  split_ifs with h
  · simp [h, hk.symm]
  · exact Iff.rfl

/-- Filling or emptying a target that is empty or holds `v` concerns only `v`. -/
theorem same_setLun {s : State} {n : String} {t : ℕ} {x : Option String}
    {hx : ∀ w, x = some w → w ∈ s.bdevs.map Disk.name} {k : String}
    (hold : s.lun n t ≠ some k) (hnew : x ≠ some k) : Same k s (s.setLun n t x hx) := by
  refine ⟨rfl, fun n' t' => ?_⟩
  rw [State.lun_setLun]
  split_ifs with h
  · obtain ⟨rfl, rfl, -⟩ := h
    exact ⟨fun h => absurd h hnew, fun h => absurd h hold⟩
  · exact Iff.rfl

/-- **A call only touches its own volume.** -/
theorem Moves.same {req : Request} {s s' : State} (h : Moves c s req s') {k : String}
    (hk : k ≠ req.key) : Same k s s' := by
  cases h with
  | stay => exact Same.refl k s
  | create hd hdn _ _ => exact same_addBDev hd (by rw [hdn]; exact hk)
  | attach hx _ hfree _ =>
    refine same_setLun (by rw [hfree]; simp) fun h => hk ?_
    exact (Option.some.inj h).symm
  | remove hl =>
    refine same_setLun (fun h => hk ?_) (by simp)
    exact (Option.some.inj (hl.symm.trans h)).symm
  | forget _ _ => exact same_deleteBDev hk
  | provision hd _ hdn => exact same_addBDev hd (by rw [hdn]; exact hk)
  | delete => exact same_deleteBDev hk

theorem Moves.devDirname {req : Request} {s s' : State} (h : Moves c s req s') :
    s'.devDirname = s.devDirname := by
  cases h <;> rfl

theorem Moves.resolve {req : Request} {s s' : State} (h : Moves c s req s') (name : String) :
    s'.resolve name = s.resolve name := by
  unfold State.resolve
  rw [h.devDirname]

/-! ## The outlines of the handlers

In each of them `v` is the key of the call, and the others are only known to keep
`Same v`. -/

theorem readable_addBDev {s : State} {d : Disk} (hd : s.bdev? d.name = none) (hne : d.name ≠ "")
    (hlt : d.blockcnt.toNat < 2 ^ 63) : Readable (s.addBDev d hd) d.name := by
  unfold Readable
  rw [Spdk.getBDevs_named hne, State.bdev?_addBDev, if_pos rfl]
  simp only [Spdk.decodeBDev, if_pos hlt, Except.map]
  exact ⟨_, rfl⟩

section Outlines

variable {v : String} {s : State}

theorem safe_ensureBDev (hne : v ≠ "") (params : MapParams) :
    Prog.Safe (server images) (Same v) (Issues c (.mapVolume v params))
      (fun r s' => r = .ok () → Readable s' v) (c.ensureBDev v params) s := by
  refine Client.safe_getBDevs (fun _ _ => .getBDevs (.mapVolume v params) _) ?_ ?_
  · intro s₁ e _
    cases params with
    | malloc => exact fun _ _ h => absurd h (by simp)
    | missing => exact fun _ _ h => absurd h (by simp)
    | ceph params =>
      show Prog.Safe _ _ _ _ (c.mapCeph v params) s₁
      unfold mapCeph
      split_ifs
      · exact fun _ _ h => absurd h (by simp)
      · refine Client.safe_constructRBDBDev (fun _ _ => .constructRBDBDev rfl rfl) ?_ ?_
        · exact fun s₂ e _ s₃ _ h => absurd h (by simp)
        · rintro s₂ d hd n _ rfl ⟨size, hsize⟩ s₃ hsame _
          exact hsame.readable hne (readable_addBDev hd hne (blockcnt_lt_of_rbd hsize))
  · intro s₁ bs _ hbs s₂ hsame _
    obtain ⟨d, b, -, -, rfl⟩ := Spdk.getBDevs_ok hne hbs
    exact hsame.readable hne ⟨b, hbs⟩

/-- The answer of a successful `MapVolume`: the volume is behind the target of
the reply. -/
def MapPost (c : Controller) (v : String) : Except Status MapVolumeReply → State → Prop
  | .ok reply, s => (∃ n t, reply = c.mapReply t ∧ s.lun n t = some v) ∧ Readable s v
  | .error _, _ => True

theorem MapPost.stable (hne : v ≠ "") {n : String} {t : ℕ} {s' : State} (hsame : Same v s s')
    (hl : s.lun n t = some v) (hr : Readable s v) : MapPost c v (.ok (c.mapReply t)) s' :=
  ⟨⟨n, t, rfl, (hsame.lun n t).2 hl⟩, hsame.readable hne hr⟩

theorem safe_probe (hne : v ≠ "") (params : MapParams) {s : State} (hun : Unattached s v)
    (hr : Readable s v) (ts : List ℕ) (err : String) :
    Prog.Safe (server images) (Same v) (Issues c (.mapVolume v params)) (MapPost c v)
      (c.probe v ts err) s := by
  induction ts generalizing s err with
  | nil => exact fun _ _ => trivial
  | cons t ts ih =>
    refine Client.safe_addVHostSCSILUN
      (fun s' hs => .addVHostSCSILUN (hs.unattached hun)) ?_ ?_
    · intro s₁ e hs
      exact ih (hs.unattached hun) (hs.readable hne hr) e
    · intro s₁ hx hs htarget s₂ hsame
      refine MapPost.stable hne hsame (n := s₁.resolve c.vhostSCSI) (t := t) ?_ ?_
      · rw [State.lun_setLun, if_pos ⟨rfl, rfl, htarget⟩]
      · exact Same.readable ⟨rfl, fun _ _ => Iff.rfl⟩ hne (hs.readable hne hr)

theorem safe_mapVolumeLocked (hne : v ≠ "") (params : MapParams) :
    Prog.Safe (server images) (Same v) (Issues c (.mapVolume v params)) (MapPost c v)
      (c.mapVolumeLocked v params) s := by
  refine Prog.safe_bind (Same.refl v) ((safe_ensureBDev hne params).mono ?_)
  intro r s₁ hr
  cases r with
  | error e => exact fun _ _ => trivial
  | ok u =>
    have hread : Readable s₁ v := hr rfl
    refine Client.safe_getVHostControllers (fun _ _ => .getVHostControllers _ _) ?_ ?_
    · exact fun _ _ _ _ _ => trivial
    · intro s₂ hs
      have hread₂ := hs.readable hne hread
      simp only [findTarget_eq]
      cases hl : (attachments (dump s₂) v) with
      | nil =>
        refine safe_probe hne params (fun n t hnt => ?_) hread₂ _ _
        have := Spdk.mem_attachments_dump.2 hnt
        simp [hl] at this
      | cons a as =>
        have hmem : (a.1, a.2) ∈ attachments (dump s₂) v := by simp [hl]
        exact fun s₃ hsame => MapPost.stable hne hsame (Spdk.mem_attachments_dump.1 hmem) hread₂

/-- With the first of its targets emptied, the volume is on the others. -/
theorem lun_iff_mem_tail {n : String} {t : ℕ} {xs : List (String × ℕ)}
    (hnd : ((n, t) :: xs).Nodup) (h : ∀ n' t', s.lun n' t' = some v ↔ (n', t') ∈ (n, t) :: xs)
    (n' : String) (t' : ℕ) :
    (s.setLun n t none (by simp)).lun n' t' = some v ↔ (n', t') ∈ xs := by
  rw [State.lun_setLun]
  split_ifs with heq
  · obtain ⟨rfl, rfl, -⟩ := heq
    simp [(List.nodup_cons.1 hnd).1]
  · rw [h, List.mem_cons]
    refine or_iff_right fun he => heq ?_
    cases he
    exact ⟨rfl, rfl, State.hasTarget_of_lun ((h n t).2 List.mem_cons_self)⟩

/-- The loop of `UnmapVolume`: the targets that are still to be removed are
exactly those that hold the volume. -/
theorem safe_removeTargets (controllers : List Spdk.Controller)
    (hall : ∀ n t, s.lun n t = some v ↔ (n, t) ∈ attachments controllers v)
    (hnodup : (attachments controllers v).Nodup) :
    Prog.Safe (server images) (Same v) (Issues c (.unmapVolume v))
      (fun r s' => r = .ok () → Unattached s' v) (removeTargets controllers v) s := by
  rw [removeTargets_eq]
  refine Prog.safe_forE (Same.refl v)
    (fun xs s => xs.Nodup ∧ ∀ n t, s.lun n t = some v ↔ (n, t) ∈ xs) ?_ ?_ ⟨hnodup, hall⟩
  · rintro s₁ s₂ ⟨-, h⟩ hsame - n t hl
    exact absurd ((h n t).1 ((hsame.lun n t).1 hl)) (by simp)
  · rintro ⟨n, t⟩ xs s₁ ⟨hnd, h⟩
    refine Client.safe_removeVHostSCSITarget (fun s₂ hs => ?_) ?_ ?_
    · exact .removeVHostSCSITarget ((hs.lun n t).2 ((h n t).2 (by simp)))
    · exact fun s₂ e _ s₃ _ s₄ _ h => absurd h (by simp)
    · intro s₂ hs s₃ hsame
      have hl : s₂.lun n t = some v := (hs.lun n t).2 ((h n t).2 (by simp))
      refine ⟨(List.nodup_cons.1 hnd).2, fun n' t' => ?_⟩
      rw [hsame.lun]
      simp only [State.resolve_of_lun hl]
      exact lun_iff_mem_tail hnd (fun n' t' => (hs.lun n' t').trans (h n' t')) n' t'

theorem safe_deleteMapped (hne : v ≠ "") (hun : Unattached s v) :
    Prog.Safe (server images) (Same v) (Issues c (.unmapVolume v))
      (fun _ s' => Unattached s' v) (deleteMapped v) s := by
  refine Client.safe_getBDevs (fun _ _ => .getBDevs (.unmapVolume v) _) ?_ ?_
  · exact fun s₁ e hs s₂ hs' => hs'.unattached (hs.unattached hun)
  · intro s₁ bs hs hbs
    obtain ⟨d, b, hd, hdec, rfl⟩ := Spdk.getBDevs_ok hne hbs
    show Prog.Safe _ _ _ _ (if b.productName ≠ "Malloc disk" then _ else _) s₁
    split_ifs with hprod
    · have hm : d.isMalloc = false := by
        rw [(Spdk.decodeBDev_ok hdec).2] at hprod
        exact decide_eq_false hprod
      refine Client.safe_deleteBDev
        (fun s₂ hs₂ => .deleteMapped (hs₂.bdev.trans hd) hm) ?_ ?_
      · exact fun s₂ e hs₂ s₃ hs₃ => hs₃.unattached (hs₂.unattached (hs.unattached hun))
      · intro s₂ hs₂ s₃ hs₃
        exact hs₃.unattached (State.lun_detach_ne s₂ v)
    · exact fun s₂ hs' => hs'.unattached (hs.unattached hun)

theorem safe_unmapVolumeLocked (hne : v ≠ "") :
    Prog.Safe (server images) (Same v) (Issues c (.unmapVolume v))
      (fun r s' => r = .ok () → Unattached s' v) (unmapVolumeLocked v) s := by
  refine Client.safe_getVHostControllers (fun _ _ => .getVHostControllers _ _) ?_ ?_
  · exact fun _ _ _ _ _ h => absurd h (by simp)
  · intro s₁ _
    refine Prog.safe_bind (Same.refl v) ((safe_removeTargets (dump s₁)
      (fun n t => Spdk.mem_attachments_dump.symm) (Spdk.nodup_attachments_dump s₁ v)).mono ?_)
    intro r s₂ hr
    cases r with
    | error e => exact fun _ _ h => absurd h (by simp)
    | ok u =>
      refine Prog.safe_map ((safe_deleteMapped hne (hr rfl)).mono ?_)
      exact fun _ _ h _ => h

theorem safe_constructMalloc (hne : v ≠ "") {size : Int64} (hsize : size ≠ 0) :
    Prog.Safe (server images) (Same v) (Issues c (.provisionMallocBDev v size))
      (fun _ _ => True) (constructMalloc v size) s := by
  refine Client.safe_constructMallocBDev hne (fun _ _ => .constructMallocBDev hne hsize) ?_ ?_
  · exact fun _ _ _ _ _ => trivial
  · exact fun _ _ _ _ _ _ _ _ _ _ _ => trivial

theorem safe_provisionMallocBDevLocked (hne : v ≠ "") (size : Int64) :
    Prog.Safe (server images) (Same v) (Issues c (.provisionMallocBDev v size))
      (fun _ _ => True) (provisionMallocBDevLocked v size) s := by
  unfold provisionMallocBDevLocked
  split_ifs with hsize
  · refine Client.safe_getBDevs (fun _ _ => .getBDevs (.provisionMallocBDev v size) _) ?_ ?_
    · exact fun _ _ _ => safe_constructMalloc hne hsize
    · intro s₁ bs _ hbs
      obtain ⟨d, b, -, -, rfl⟩ := Spdk.getBDevs_ok hne hbs
      show Prog.Safe _ _ _ _ (if b.numBlocks * b.blockSize ≠ size then _ else _) s₁
      split_ifs
      · exact fun _ _ => trivial
      · exact fun _ _ => trivial
  · obtain rfl : size = 0 := by simpa using hsize
    refine Client.safe_deleteBDev (fun _ _ => .deleteBDev) ?_ ?_
    · exact fun _ _ _ _ _ => trivial
    · exact fun _ _ _ _ => trivial

theorem safe_checkMallocBDevLocked :
    Prog.Safe (server images) (Same v) (Issues c (.checkMallocBDev v))
      (fun _ _ => True) (checkMallocBDevLocked v) s := by
  refine Client.safe_getBDevs (fun _ _ => .getBDevs (.checkMallocBDev v) _) ?_ ?_
  · exact fun _ _ _ _ _ => trivial
  · intro s₁ bs _ _
    rcases bs with _ | ⟨b, _ | ⟨b', bs⟩⟩ <;> exact fun _ _ => trivial

end Outlines

/-! ## The discipline -/

/-- What the answer of a call means while its lock is still held. -/
def Post (c : Controller) : Request → Answer → State → Prop
  | .mapVolume v _, .mapped result, s => MapPost c v result s
  | .unmapVolume v, .done result, s => result = .ok () → Unattached s v
  | _, _, _ => True

/-- Every handler follows its outline. -/
theorem safe_body {req : Request} (h : c.early req = none) (s : State) :
    Prog.Safe (server images) (Same req.key) (Issues c req) (Post c req) (c.body req) s := by
  have hne := (key_ne_of_early h).1
  cases req with
  | mapVolume v params => exact Prog.safe_map (safe_mapVolumeLocked hne params)
  | unmapVolume v => exact Prog.safe_map (safe_unmapVolumeLocked hne)
  | provisionMallocBDev v size => exact Prog.safe_map (safe_provisionMallocBDevLocked hne size)
  | checkMallocBDev v => exact Prog.safe_map safe_checkMallocBDevLocked

/-- **The calls of the controller obey the lock**: what each of them counts on is
left alone by the requests of all calls for other volumes. -/
def discipline (c : Controller) (images : ConstructRBDBDevArgs → Option UInt64) :
    Discipline (server images) c.calls where
  rely := Same
  may := Issues c
  post := Post c
  refl := Same.refl
  trans _ _ _ _ h h' := h.trans h'
  frame _ _ _ _ _ _ hmay hstep hk := (hmay.moves hstep).same hk
  outline _ s h := safe_body h s

end Oim.Controller
