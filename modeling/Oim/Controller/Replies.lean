import Oim.Controller.MapUnmap

/-!
# What the replies are worth

A caller only sees replies.  Here a single call runs on an SPDK that is in any state, with any
number of controllers that others use as well, and any of whose requests may fail.

* `Backs` — the disk that a reply to `MapVolume` names is the volume; `mapVolume_reply_iff` —
  it always is, **unless** the volume is attached already and the first place where SPDK lists it
  is not a target of the controller's own vhost controller.  The search goes through all vhost
  controllers, the reply names only the target.
* `Gone` — what a success of `UnmapVolume` is meant to say; `unmapVolume_gone_iff` — it does,
  **unless** there is a BDev to be deleted and one of the two requests for that fails, because
  their errors are dropped.  An error never means that something was deleted.
-/

namespace Oim.Controller

open Interaction
open Spdk (Client Rpc State Disk attachments dump getBDevs server ConstructRBDBDevArgs)

variable {c : Controller} {images : ConstructRBDBDevArgs → Option UInt64} {v : String} {s : State}

/-! ## MapVolume -/

/-- The block device behind a LUN.  SPDK has one LUN per target, with number 0. -/
def lunAt (s : State) (name : String) (target lun : ℕ) : Option String :=
  if lun = 0 then s.lun name target else none

/-- The reply leads to the volume: to the controller's own PCI device, and there to a LUN that is
backed by the volume. -/
def Backs (c : Controller) (v : String) (reply : MapVolumeReply) (s : State) : Prop :=
  reply.pciAddress = c.vhostDev ∧
    lunAt s (s.resolve c.vhostSCSI) reply.scsiDisk.target reply.scsiDisk.lun = some v

/-- The volume is attached, but not behind that target of the own vhost controller which has the
number of the first target where the volume is listed. -/
def Misdirected (c : Controller) (s : State) (v : String) : Prop :=
  c.checkMapVolume v = none ∧ Readable s v ∧ ∃ n t,
    (attachments (dump s) v).head? = some (n, t) ∧ s.lun (s.resolve c.vhostSCSI) t ≠ some v

theorem backs_mapReply_iff {t : ℕ} :
    Backs c v (c.mapReply t) s ↔ s.lun (s.resolve c.vhostSCSI) t = some v := by
  simp [Backs, lunAt, mapReply]

/-- The search of `MapVolume` on a volume that is attached. -/
theorem run_mapVolumeLocked_head (hr : Readable s v) {n : String} {t : ℕ}
    (hhead : (attachments (dump s) v).head? = some (n, t)) (params : MapParams) :
    (c.mapVolumeLocked v params).run (server images) s = (.ok (c.mapReply t), s) := by
  have hfind : findTarget (dump s) v = some t := by
    rw [findTarget_eq, hhead]
    rfl
  unfold mapVolumeLocked
  rw [Prog.bind_eq, Prog.run_bind, run_ensureBDev hr]
  show Prog.run (server images) (Client.getVHostControllers.bind _) s = _
  rw [Client.run_getVHostControllers]
  simp only [hfind]
  rfl

/-- With a BDev that was there already nothing has changed, and a new one is attached nowhere. -/
theorem safe_ensureBDev_alone (hne : v ≠ "") (params : MapParams) :
    Prog.Safe (server images) Eq (fun _ _ => True)
      (fun r s' => r = .ok () → (s' = s ∧ Readable s v) ∨ Unattached s' v)
      (c.ensureBDev v params) s := by
  refine Client.safe_getBDevs (fun _ _ => trivial) ?_ ?_
  · rintro _ e rfl
    cases params with
    | malloc => exact fun _ _ h => absurd h (by simp)
    | missing => exact fun _ _ h => absurd h (by simp)
    | ceph params =>
      show Prog.Safe _ _ _ _ (c.mapCeph v params) s
      unfold mapCeph
      split_ifs
      · exact fun _ _ h => absurd h (by simp)
      · refine Client.safe_constructRBDBDev (fun _ _ => trivial) ?_ ?_
        · exact fun _ _ _ _ _ h => absurd h (by simp)
        · rintro _ d hd _ rfl rfl - _ rfl -
          refine .inr fun n t hl => ?_
          have hl' : s.lun n t = some _ := hl
          simpa [hd] using State.bdev?_of_lun hl'
  · rintro _ bs rfl hbs _ rfl -
    obtain ⟨d, b, -, -, rfl⟩ := Spdk.getBDevs_ok hne hbs
    exact .inl ⟨rfl, b, hbs⟩

theorem safe_probe_alone (ts : List ℕ) (err : String) :
    Prog.Safe (server images) Eq (fun _ _ => True)
      (fun r s' => ∀ reply, r = .ok reply → Backs c v reply s') (c.probe v ts err) s := by
  induction ts generalizing err with
  | nil => exact fun _ _ _ h => absurd h (by simp)
  | cons t ts ih =>
    refine Client.safe_addVHostSCSILUN (fun _ _ => trivial) ?_ ?_
    · rintro _ e rfl
      exact ih e
    · rintro _ hx rfl htarget _ rfl reply hreply
      obtain rfl := Except.ok.inj hreply
      refine backs_mapReply_iff.2 ?_
      show (s.setLun _ t _ hx).lun (s.resolve c.vhostSCSI) t = some v
      rw [State.lun_setLun, if_pos ⟨rfl, rfl, htarget⟩]

theorem safe_mapVolumeLocked_alone (hne : v ≠ "") (params : MapParams)
    (hown : Readable s v → ∀ n t, (attachments (dump s) v).head? = some (n, t) →
      s.lun (s.resolve c.vhostSCSI) t = some v) :
    Prog.Safe (server images) Eq (fun _ _ => True)
      (fun r s' => ∀ reply, r = .ok reply → Backs c v reply s') (c.mapVolumeLocked v params) s := by
  refine Prog.safe_bind (fun _ => rfl) ((safe_ensureBDev_alone hne params).mono ?_)
  intro r s₁ hr
  cases r with
  | error e => exact fun _ _ _ h => absurd h (by simp)
  | ok u =>
    refine Client.safe_getVHostControllers (fun _ _ => trivial) ?_ ?_
    · exact fun _ _ _ _ _ _ h => absurd h (by simp)
    · rintro _ rfl
      simp only [findTarget_eq]
      cases hhead : (attachments (dump s₁) v).head? with
      | none => exact safe_probe_alone _ _
      | some a =>
        obtain ⟨n, t⟩ := a
        rintro _ rfl reply hreply
        obtain rfl := Except.ok.inj hreply
        have hl : s₁.lun n t = some v := Spdk.mem_attachments_dump.1 (List.mem_of_head? hhead)
        rcases hr rfl with ⟨rfl, hread⟩ | hun
        · exact backs_mapReply_iff.2 (hown hread n t hhead)
        · exact absurd hl (hun n t)

/-- **When the reply to `MapVolume` leads to the volume.**  For every SPDK state and request, every
success names a LUN of the own vhost controller that is backed by the volume, exactly unless the
volume is `Misdirected`. -/
theorem mapVolume_reply_iff (c : Controller) (images : ConstructRBDBDevArgs → Option UInt64)
    (s : State) (v : String) (params : MapParams) :
    (∀ reply s', Prog.Runs (server images) (c.mapVolume v params) s (.ok reply) s' →
      Backs c v reply s') ↔ ¬ Misdirected c s v := by
  constructor
  · rintro h ⟨hcheck, hread, n, t, hhead, hother⟩
    have hrun := Prog.runs_run (server images) (c.mapVolume v params) s
    rw [mapVolume, hcheck] at hrun
    simp only [run_mapVolumeLocked_head hread hhead params] at hrun
    exact hother (backs_mapReply_iff.1 (h _ s (by rw [mapVolume, hcheck]; exact hrun)))
  · intro h reply s' hrun
    unfold mapVolume at hrun
    cases hcheck : c.checkMapVolume v with
    | some e =>
      rw [hcheck] at hrun
      exact absurd (Prog.runs_ret_iff.1 hrun).1 (by simp)
    | none =>
      rw [hcheck] at hrun
      refine ((safe_mapVolumeLocked_alone (checkMapVolume_eq_none hcheck).1 params
        fun hread n t hhead => ?_).runs (fun _ => rfl) hrun).2 reply rfl
      by_contra hother
      exact h ⟨hcheck, hread, n, t, hhead, hother⟩

/-- Two vhost controllers, each with a volume behind its first target. -/
def twoControllers : State where
  bdevs := [⟨"vol", "Malloc disk", 512, 2⟩, ⟨"other", "Malloc disk", 512, 2⟩]
  vhosts := [⟨"vhost.0", .scsi fun t => if t.val = 0 then some "other" else none⟩,
    ⟨"vhost.1", .scsi fun t => if t.val = 0 then some "vol" else none⟩]
  devDirname := ""
  mallocDiskCount := 0
  names_nodup := by decide
  ctrlrs_nodup := by decide
  luns_exist := by
    intro h hm t v hv
    have hname : v = "other" ∨ v = "vol" := by
      rcases List.mem_pair.1 hm with rfl | rfl <;>
        simp only [Spdk.VHost.lun, Spdk.Backend.lun] at hv <;> split_ifs at hv <;> simp_all
    rcases hname with rfl | rfl <;> simp
  ctrlrs_found := by simp [Spdk.resolve]

/-- The volume is on another controller, and the reply names a disk of somebody else. -/
theorem mapVolume_misdirects :
    let out := (configured.mapVolume "vol" .malloc).run (server fun _ => none) twoControllers
    out.1 = .ok ⟨configured.vhostDev, ⟨0, 0⟩⟩ ∧ out.2.lun "vhost.0" 0 = some "other" :=
  ⟨rfl, rfl⟩

/-! ## UnmapVolume -/

/-- What is left of the volume is a Malloc BDev at most. -/
def Gone (v : String) (s : State) : Prop :=
  Unattached s v ∧ ∀ d, s.bdev? v = some d → d.isMalloc = true

/-- No BDev was deleted, and no target was emptied that held another volume. -/
def Spared (v : String) (s s' : State) : Prop :=
  s'.bdevs = s.bdevs ∧ ∀ n t w, w ≠ v → s.lun n t = some w → s'.lun n t = some w

/-- The conversation of a call with SPDK. -/
abbrev Log : Type := List (Prog.Exchange Rpc Rpc.Reply State)

/-- The request was answered with an error. -/
def Failed (log : Log) (q : Rpc) : Prop :=
  ∃ x ∈ log, x.request = q ∧ ∃ e, (x.reply : Except String x.request.Result) = .error e

theorem failed_append {log log' : Log} {q : Rpc} :
    Failed (log ++ log') q ↔ Failed log q ∨ Failed log' q := by
  simp only [Failed, List.mem_append, or_and_right, exists_or]

theorem failed_error (s : State) (q : Rpc) (e : String) (log : Log) :
    Failed (⟨s, q, (Except.error e : Except String q.Result)⟩ :: log) q :=
  ⟨_, List.mem_cons_self, rfl, e, rfl⟩

theorem malloc_iff : (∀ d, s.bdev? v = some d → d.isMalloc = true) ↔
    ¬ ∃ d, s.bdev? v = some d ∧ d.isMalloc = false := by
  simp [not_exists, not_and]

/-- The end of `UnmapVolume` gets rid of a BDev, unless one of its two requests fails. -/
theorem logged_deleteMapped (hne : v ≠ "") {log : Log} {s' : State}
    (h : Prog.Logged (server images) (deleteMapped v) s log () s') :
    (∀ d, s'.bdev? v = some d → d.isMalloc = true) ↔
      ¬ ((∃ d, s.bdev? v = some d ∧ d.isMalloc = false) ∧
        (Failed log (.getBDevs v) ∨ Failed log (.deleteBDev v))) := by
  obtain ⟨r, s₁, log', hstep, hrest, rfl⟩ := Prog.logged_call_iff.1 h
  cases r with
  | error e =>
    obtain ⟨rfl, -, rfl⟩ := Prog.logged_ret_iff.1 hrest
    have hfailed : Failed [⟨s, .getBDevs v, .error e⟩] (.getBDevs v) :=
      failed_error s _ e []
    rw [Spdk.step_error rfl hstep, malloc_iff, and_iff_left (Or.inl hfailed)]
  | ok bs =>
    obtain ⟨hbs, rfl⟩ := Spdk.step_getBDevs_ok hstep
    obtain ⟨d, b, hd, hdec, rfl⟩ := Spdk.getBDevs_ok hne hbs
    have hprod : b.productName = d.productName := by rw [(Spdk.decodeBDev_ok hdec).2]
    change Prog.Logged _ (if b.productName ≠ "Malloc disk" then _ else _) _ _ _ _ at hrest
    split_ifs at hrest with hother
    · obtain ⟨r, s₂, log'', hstep', hrest', rfl⟩ := Prog.logged_call_iff.1 hrest
      obtain ⟨rfl, -, rfl⟩ := Prog.logged_ret_iff.1 hrest'
      cases r with
      | error e =>
        have hfailed : Failed [⟨s₁, .getBDevs v, .ok [b]⟩, ⟨s₁, .deleteBDev v, .error e⟩]
            (.deleteBDev v) := ⟨_, List.mem_cons_of_mem _ List.mem_cons_self, rfl, e, rfl⟩
        rw [Spdk.step_error rfl hstep', malloc_iff, and_iff_left (Or.inr hfailed)]
      | ok u =>
        rw [(Spdk.step_delete_ok hstep').2]
        simp [Failed, State.bdev?_deleteBDev]
    · -- a Malloc BDev stays, whatever its deletion would have come to
      obtain ⟨rfl, -, rfl⟩ := Prog.logged_ret_iff.1 hrest
      have hmalloc : d.isMalloc = true := decide_eq_true (hprod ▸ not_not.1 hother)
      simp [hd, hmalloc]

/-- The requests of a call leave the other volumes alone. -/
theorem same_of_steps {req : Request} {s' : State} {w : String} (hw : w ≠ req.key)
    (h : Relation.ReflTransGen
      (fun t t' => ∃ q r, Issues c req t q ∧ (server images).Step q t r t') s s') :
    Same w s s' := by
  induction h with
  | refl => exact Same.refl w s
  | tail _ hstep ih =>
    obtain ⟨q, r, hmay, hstep⟩ := hstep
    exact ih.trans ((hmay.moves hstep).same hw)

/-- The requests of the loops of `UnmapVolume`. -/
def Removes : Rpc → Prop
  | .removeVHostSCSITarget _ => True
  | _ => False

theorem only_removeTargets (controllers : List Spdk.Controller) :
    (removeTargets controllers v).Only Removes := by
  rw [removeTargets_eq]
  refine Prog.only_forE (A := Removes) (fun target => ?_) _
  refine ⟨trivial, fun r => ?_⟩
  cases r <;> trivial

/-- Taking a volume off a target deletes no BDev. -/
theorem step_removes {q : Rpc} {r : q.Reply} {s₁ s₂ : State} (hq : Removes q)
    (hstep : (server images).Step q s₁ r s₂) : s₂.bdevs = s₁.bdevs := by
  cases q with
  | removeVHostSCSITarget args =>
    cases r with
    | error e => rw [Spdk.step_error rfl hstep]
    | ok u =>
      rw [Spdk.step_remove_ok hstep]
      rfl
  | _ => exact hq.elim

/-- The loops of `UnmapVolume` only take the volume off its targets. -/
theorem runs_removeTargets {r : Except Status Unit} {s' : State}
    (h : Prog.Runs (server images) (removeTargets (dump s) v) s r s') :
    Spared v s s' ∧ (r = .ok () → Unattached s' v) := by
  have hsafe : Prog.Safe (server images) (Same v) (Issues configured (.unmapVolume v)) _ _ s :=
    safe_removeTargets (dump s) (fun n t => Spdk.mem_attachments_dump.symm)
      (Spdk.nodup_attachments_dump s v)
  obtain ⟨hsteps, hpost⟩ := hsafe.runs (Same.refl v) h
  refine ⟨⟨?_, fun n t w hw hl => ((same_of_steps hw hsteps).lun n t).2 hl⟩, hpost⟩
  exact Prog.Runs.keeps (P := fun s' => s'.bdevs = s.bdevs)
    (fun q s₁ r s₂ hq hstep hs => (step_removes hq hstep).trans hs) (only_removeTargets _) h rfl

theorem not_failed_of_only {A : Rpc → Prop} {log : Log} (h : ∀ x ∈ log, A x.request) {q : Rpc}
    (hq : ¬ A q) : ¬ Failed log q := by
  rintro ⟨x, hx, rfl, -⟩
  exact hq (h x hx)

/-- What is answered before the last part of `UnmapVolume` does not count as a failure of it. -/
theorem failed_deletion {log log' : Log} {controllers : List Spdk.Controller}
    {r : Except Status Unit} {s₁ s₂ : State}
    (h : Prog.Logged (server images) (removeTargets controllers v) s₁ log r s₂)
    {q : Rpc} (hq : ¬ Removes q) (hq' : q ≠ .getVHostControllers) :
    Failed (⟨s, .getVHostControllers, .ok (dump s)⟩ :: (log ++ log')) q ↔ Failed log' q := by
  have hnone := not_failed_of_only (h.only (only_removeTargets _)) hq
  have hhead : ¬ Failed [⟨s, .getVHostControllers, .ok (dump s)⟩] q :=
    not_failed_of_only (A := (· = .getVHostControllers)) (by simp) hq'
  rw [← List.singleton_append, failed_append, failed_append]
  simp only [hhead, hnone, false_or]

/-- How `UnmapVolume` can end: with an error before the last part, no request of which is made
then, or with that part. -/
theorem logged_unmapVolume {s' : State} {log : Log} {result : Except Status Unit}
    (h : Prog.Logged (server images) (c.unmapVolume v) s log result s') :
    (∃ e, result = .error e ∧ Spared v s s' ∧
        ∀ q, ¬ Removes q → q ≠ .getVHostControllers → ¬ Failed log q) ∨
      result = .ok () ∧ v ≠ "" ∧ ∃ s₁ log₁, Spared v s s₁ ∧ Unattached s₁ v ∧
        Prog.Logged (server images) (deleteMapped v) s₁ log₁ () s' ∧
        ∀ q, ¬ Removes q → q ≠ .getVHostControllers → (Failed log q ↔ Failed log₁ q) := by
  have hstay : Spared v s s := ⟨rfl, fun _ _ _ _ h => h⟩
  unfold unmapVolume at h
  cases hcheck : c.checkName "empty volume ID" v with
  | some e =>
    rw [hcheck] at h
    obtain ⟨rfl, rfl, rfl⟩ := Prog.logged_ret_iff.1 h
    exact Or.inl ⟨_, rfl, hstay, fun q _ _ => by simp [Failed]⟩
  | none =>
    rw [hcheck] at h
    obtain ⟨r, s₁, log', hstep, hrest, rfl⟩ := Prog.logged_call_iff.1 h
    cases r with
    | error e =>
      obtain ⟨rfl, rfl, rfl⟩ := Prog.logged_ret_iff.1 hrest
      rw [Spdk.step_error rfl hstep]
      refine Or.inl ⟨_, rfl, hstay, fun q _ hq' => ?_⟩
      exact not_failed_of_only (A := (· = .getVHostControllers)) (by simp) hq'
    | ok controllers =>
      obtain ⟨rfl, rfl⟩ := Spdk.step_dump_ok hstep
      change Prog.Logged _ ((removeTargets (dump s₁) v).bind _) _ _ _ _ at hrest
      obtain ⟨r, s₂, log₁, log₂, hremove, hrest, rfl⟩ := Prog.logged_bind_iff.1 hrest
      obtain ⟨hspared, hun⟩ := runs_removeTargets hremove.runs
      cases r with
      | error e =>
        obtain ⟨rfl, rfl, rfl⟩ := Prog.logged_ret_iff.1 hrest
        refine Or.inl ⟨_, rfl, hspared, fun q hq hq' => ?_⟩
        rw [failed_deletion hremove hq hq']
        simp [Failed]
      | ok u =>
        obtain ⟨u', s₃, log₃, log₄, hdelete, hret, rfl⟩ := Prog.logged_bind_iff.1 hrest
        obtain ⟨rfl, rfl, rfl⟩ := Prog.logged_ret_iff.1 hret
        refine Or.inr ⟨rfl, (checkName_eq_none.1 hcheck).1, s₂, log₃, hspared, hun rfl, hdelete, ?_⟩
        intro q hq hq'
        rw [failed_deletion hremove hq hq', List.append_nil]

/-- **A success of `UnmapVolume` says that the volume is gone, and an error that nothing else is,
unless there is a BDev to be deleted and one of the two requests for that fails.** -/
theorem unmapVolume_gone_iff (c : Controller) (images : ConstructRBDBDevArgs → Option UInt64)
    (v : String) (s s' : State) (log : Log) (result : Except Status Unit)
    (hrun : Prog.Logged (server images) (c.unmapVolume v) s log result s') :
    ((result = .ok () → Gone v s') ∧ (∀ e, result = .error e → Spared v s s')) ↔
      ¬ ((∃ d, s.bdev? v = some d ∧ d.isMalloc = false) ∧
        (Failed log (.getBDevs v) ∨ Failed log (.deleteBDev v))) := by
  rcases logged_unmapVolume hrun with
    ⟨e, rfl, hspared, hnone⟩ | ⟨rfl, hne, s₁, log₁, hspared, hun, hdelete, hfailed⟩
  · simp [hspared, hnone (.getBDevs v) id (by simp), hnone (.deleteBDev v) id (by simp)]
  · have hgone := logged_deleteMapped hne hdelete
    have hbdev : s₁.bdev? v = s.bdev? v := congrArg (List.find? _) hspared.1
    have hun' : Unattached s' v :=
      ((safe_deleteMapped (c := c) hne hun).runs (Same.refl v) hdelete.runs).2
    rw [hfailed _ id (by simp), hfailed _ id (by simp), ← hbdev]
    simpa [Gone, hun'] using hgone

/-- An SPDK with one volume from a Ceph cluster. -/
def cephVolume : State := (State.fresh "vhost.0").addBDev ⟨"vol", Spdk.rbdProduct, 512, 2⟩ rfl

/-- What `UnmapVolume` and SPDK say about it, up to the answer to `delete_bdev`. -/
def cephLog (r : Except String Unit) : Log :=
  [⟨cephVolume, .getVHostControllers, .ok (dump cephVolume)⟩,
    ⟨cephVolume, .getBDevs "vol", .ok [⟨"vol", Spdk.rbdProduct, 512, 2⟩]⟩,
    ⟨cephVolume, .deleteBDev "vol", r⟩]

theorem logged_cephLog {r : Except String Unit} {s' : State}
    (h : (server fun _ => none).Step (.deleteBDev "vol") cephVolume r s') :
    Prog.Logged (server fun _ => none) (configured.unmapVolume "vol") cephVolume (cephLog r)
      (.ok ()) s' := by
  refine .call (q := Rpc.getVHostControllers) (Or.inl ⟨rfl, rfl⟩) ?_
  refine .call (q := Rpc.getBDevs "vol") (Or.inl ⟨rfl, rfl⟩) ?_
  exact .call h (.ret _ _)

/-- Without failures the volume is gone. -/
theorem unmapVolume_gone_ceph : Gone "vol" (cephVolume.deleteBDev "vol") := by
  have hrun := logged_cephLog (r := .ok ()) (Or.inl ⟨rfl, rfl⟩)
  have h := unmapVolume_gone_iff configured (fun _ => none) "vol" cephVolume _ _ (.ok ()) hrun
  refine (h.2 ?_).1 rfl
  rintro ⟨-, hfailed⟩
  revert hfailed
  simp [Failed, cephLog]

/-- SPDK fails to delete the BDev, and the caller hears of a success. -/
theorem unmapVolume_forgets : Prog.Logged (server fun _ => none) (configured.unmapVolume "vol")
      cephVolume (cephLog (.error "internal error")) (.ok ()) cephVolume ∧
    ¬ Gone "vol" cephVolume := by
  refine ⟨logged_cephLog (Or.inr ⟨⟨_, rfl⟩, rfl⟩), ?_⟩
  rintro ⟨-, hmalloc⟩
  exact absurd (hmalloc ⟨"vol", Spdk.rbdProduct, 512, 2⟩ rfl) (by decide)

end Oim.Controller
