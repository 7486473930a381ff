import Oim.Controller.Protocol

/-!
# Concurrent calls of the controller

Any number of calls, interleaved at single SPDK requests, with a lock per volume
ID or BDev name and with requests failing at any moment.

* `Exclusive` — a volume is attached at most once, and only to the configured
  vhost controller.  Kept by every move of every call (`Moves.exclusive`).
* `attached_while_mapped` — the reply to `MapVolume` stays true until somebody
  asks for the volume to be released, so no two mapped volumes have the same
  reply, and `UnmapVolume` never takes another volume's target.
* `malloc_only_by_provision` — the content of a Malloc BDev depends on
  `ProvisionMallocBDev` alone.
-/

namespace Oim.Controller

open Interaction
open Spdk (Client Rpc State Disk server ConstructRBDBDevArgs)

/-- An event of the controller. -/
abbrev CallEvent : Type := Event Request Rpc Rpc.Reply Answer

/-- The controller with its calls in progress, and SPDK. -/
abbrev CallSys : Type := Sys Request Rpc Rpc.Reply Answer State

variable {c : Controller} {images : ConstructRBDBDevArgs → Option UInt64} {H : Type}
  {hash : String → H}

/-! ## At most one target -/

/-- Every volume is attached at most once, and only to the controller's own vhost
controller. -/
structure Exclusive (c : Controller) (s : State) : Prop where
  own : ∀ n t v, s.lun n t = some v → n = s.resolve c.vhostSCSI
  unique : ∀ n t n' t' v, s.lun n t = some v → s.lun n' t' = some v → n = n' ∧ t = t'

theorem exclusive_of_empty {s : State} (h : ∀ n t, s.lun n t = none) : Exclusive c s :=
  ⟨fun n t v hl => by simp [h] at hl, fun n t n' t' v hl => by simp [h] at hl⟩

/-- Fewer attachments keep it. -/
theorem Exclusive.shrink {s s' : State} (h : Exclusive c s)
    (hdir : s'.resolve c.vhostSCSI = s.resolve c.vhostSCSI)
    (hsub : ∀ n t v, s'.lun n t = some v → s.lun n t = some v) : Exclusive c s' := by
  constructor
  · intro n t v hl
    rw [hdir]
    exact h.own n t v (hsub n t v hl)
  · intro n t n' t' v hl hl'
    exact h.unique n t n' t' v (hsub _ _ _ hl) (hsub _ _ _ hl')

theorem Exclusive.attach {s : State} (h : Exclusive c s) {v : String} {t : ℕ}
    (hx : ∀ w, some v = some w → w ∈ s.bdevs.map Disk.name) (hun : Unattached s v) :
    Exclusive c (s.setLun (s.resolve c.vhostSCSI) t (some v) hx) := by
  -- a LUN afterwards is either the new one, or an old one of another volume
  have hcases : ∀ n t' w, (s.setLun (s.resolve c.vhostSCSI) t (some v) hx).lun n t' = some w →
      (n = s.resolve c.vhostSCSI ∧ t' = t ∧ w = v) ∨ (s.lun n t' = some w ∧ w ≠ v) := by
    intro n t' w hl
    rw [State.lun_setLun] at hl
    split_ifs at hl with heq
    · exact Or.inl ⟨heq.1, heq.2.1, (Option.some.inj hl).symm⟩
    · exact Or.inr ⟨hl, fun hw => hun n t' (hw ▸ hl)⟩
  constructor
  · intro n t' w hl
    rcases hcases n t' w hl with ⟨hn, -, -⟩ | ⟨hl, -⟩
    · exact hn
    · exact h.own n t' w hl
  · intro n₁ t₁ n₂ t₂ w hl₁ hl₂
    rcases hcases n₁ t₁ w hl₁ with ⟨hn₁, ht₁, hw₁⟩ | ⟨hl₁, hw₁⟩ <;>
      rcases hcases n₂ t₂ w hl₂ with ⟨hn₂, ht₂, hw₂⟩ | ⟨hl₂, hw₂⟩
    · exact ⟨hn₁.trans hn₂.symm, ht₁.trans ht₂.symm⟩
    · exact absurd hw₁ hw₂
    · exact absurd hw₂ hw₁
    · exact h.unique n₁ t₁ n₂ t₂ w hl₁ hl₂

/-- **One request keeps volumes on one target.** -/
theorem Moves.exclusive {req : Request} {s s' : State} (hm : Moves c s req s')
    (h : Exclusive c s) : Exclusive c s' := by
  have hdel : ∀ v, Exclusive c (s.deleteBDev v) := fun v => by
    refine h.shrink rfl fun n t w hl => ?_
    rw [State.lun_deleteBDev] at hl
    split_ifs at hl
    exact hl
  cases hm with
  | stay => exact h
  | create hd _ _ _ => exact h.shrink rfl fun _ _ _ hl => hl
  | provision hd _ _ => exact h.shrink rfl fun _ _ _ hl => hl
  | attach hx hun _ _ => exact h.attach hx hun
  | remove hl =>
    refine h.shrink rfl fun n t w hl' => ?_
    rw [State.lun_setLun] at hl'
    split_ifs at hl'
    exact hl'
  | forget _ _ => exact hdel _
  | delete => exact hdel _

/-- **In every reachable state** volumes are on one target. -/
theorem exclusive_run {s₀ : State} (h₀ : Exclusive c s₀) {evs : List CallEvent} {σ : CallSys}
    (hrun : Run (server images) c.calls hash (Sys.start s₀) evs σ) : Exclusive c σ.srv :=
  invariant_run (D := discipline c images)
    (fun _ _ _ _ _ hmay hstep h => (hmay.moves hstep).exclusive h) (good_start _ s₀) h₀ hrun

/-! ## Mapped until released -/

/-- The calls after which a volume may be gone from its target. -/
def Releases (v : String) : Request → Prop
  | .unmapVolume w => w = v
  | .provisionMallocBDev w size => w = v ∧ size = 0
  | _ => False

/-- According to the history, `v` is mapped with `reply`: some `MapVolume` of it
returned that, and no call that releases it has got its lock since. -/
def MappedBy (evs : List CallEvent) (v : String) (reply : MapVolumeReply) : Prop :=
  ∃ before i params after,
    evs = before ++ .ret i (.mapVolume v params) (.mapped (.ok reply)) :: after ∧
    ∀ j req, .acquire j req ∈ after → ¬ Releases v req

/-- A call that does not release the volume leaves it where it is. -/
theorem Moves.lun_of_not_releases {req : Request} {s s' : State} (hm : Moves c s req s')
    {v : String} (hrel : ¬ Releases v req) {n : String} {t : ℕ} (hl : s.lun n t = some v) :
    s'.lun n t = some v := by
  by_cases hk : v = req.key
  · subst hk
    cases hm with
    | stay => exact hl
    | create hd _ _ _ => exact hl
    | provision hd _ _ => exact hl
    | attach hx hun _ _ => exact absurd hl (hun n t)
    | remove _ => exact absurd rfl hrel
    | forget _ _ => exact absurd rfl hrel
    | delete => exact absurd ⟨rfl, rfl⟩ hrel
  · exact ((hm.same hk).lun n t).2 hl

/-- The volume is where the last reply put it. -/
theorem lun_of_mappedBy {s₀ : State} (h₀ : Exclusive c s₀) {evs : List CallEvent} {σ : CallSys}
    (hrun : Run (server images) c.calls hash (Sys.start s₀) evs σ) {v : String}
    {reply : MapVolumeReply} (hmap : MappedBy evs v reply) :
    ∃ t, reply = c.mapReply t ∧ σ.srv.lun (σ.srv.resolve c.vhostSCSI) t = some v := by
  obtain ⟨before, i, params, after, rfl, hacq⟩ := hmap
  obtain ⟨σ₁, hbefore, hrest⟩ := run_append_iff.1 hrun
  obtain ⟨σ₂, hret, hafter⟩ := run_cons_iff.1 hrest
  have hgood : Good (discipline c images) hash σ₁ := good_run (good_start _ s₀) hbefore
  obtain ⟨hsrv, hearly | ⟨⟨⟨n, t, rfl, hl⟩, -⟩, hothers⟩⟩ := hgood.ret_post hret
  · -- a call that is turned away returns an error
    have : ((c.checkMapVolume v).map fun e => Answer.mapped (.error e)) =
      some (.mapped (.ok reply)) := hearly
    simp at this
  · refine ⟨t, rfl, ?_⟩
    have hown : n = σ₁.srv.resolve c.vhostSCSI := (exclusive_run h₀ hbefore).own n t v hl
    have hnone : NoneRunning (Releases v) σ₂ := by
      intro j req p hj hrel
      apply hothers j req p hj
      cases req with
      | unmapVolume w => exact hrel
      | provisionMallocBDev w size => exact hrel.1
      | mapVolume _ _ => exact hrel.elim
      | checkMallocBDev _ => exact hrel.elim
    refine until_run (D := discipline c images)
      (P := fun s => s.lun (s.resolve c.vhostSCSI) t = some v) ?_ (hgood.step hret) hnone ?_
      hafter hacq
    · intro req s q r s' hrel hmay hstep hl
      have hm := hmay.moves hstep
      rw [hm.resolve]
      exact hm.lun_of_not_releases hrel hl
    · rw [hsrv, ← hown]
      exact hl

/-- **Mapped volumes have their target to themselves.**  From an SPDK without
LUNs, in every state any interleaving can reach: every volume is attached at most
once; the reply to `MapVolume` names the target that holds the volume, until the
next `UnmapVolume` or deletion of it gets the lock; different mapped volumes have
different replies; and `UnmapVolume` only removes targets of its own volume. -/
theorem attached_while_mapped (c : Controller) (images : ConstructRBDBDevArgs → Option UInt64)
    (hash : String → H) (s₀ : State) (h₀ : ∀ n t, s₀.lun n t = none) (evs : List CallEvent)
    (σ : CallSys) (hrun : Run (server images) c.calls hash (Sys.start s₀) evs σ) :
    (∀ v n t n' t', σ.srv.lun n t = some v → σ.srv.lun n' t' = some v → n = n' ∧ t = t') ∧
    (∀ v reply, MappedBy evs v reply →
      reply.pciAddress = c.vhostDev ∧ reply.scsiDisk.lun = 0 ∧
      σ.srv.lun (σ.srv.resolve c.vhostSCSI) reply.scsiDisk.target = some v) ∧
    (∀ v v' reply reply', MappedBy evs v reply → MappedBy evs v' reply' → v ≠ v' →
      reply ≠ reply') ∧
    (∀ i v args r σ', Step (server images) c.calls hash σ
      (.rpc i (.unmapVolume v) (.removeVHostSCSITarget args) r) σ' →
      σ.srv.lun (σ.srv.resolve args.controller) args.scsiTargetNum = some v) := by
  have hexcl : Exclusive c s₀ := exclusive_of_empty h₀
  refine ⟨fun v n t n' t' => (exclusive_run hexcl hrun).unique n t n' t' v, ?_, ?_, ?_⟩
  · intro v reply hmap
    obtain ⟨t, rfl, hl⟩ := lun_of_mappedBy hexcl hrun hmap
    exact ⟨rfl, rfl, hl⟩
  · intro v v' reply reply' hmap hmap' hne heq
    obtain ⟨t, rfl, hl⟩ := lun_of_mappedBy hexcl hrun hmap
    obtain ⟨t', rfl, hl'⟩ := lun_of_mappedBy hexcl hrun hmap'
    obtain rfl : t = t' := congrArg (fun reply => reply.scsiDisk.target) heq
    exact hne (Option.some.inj (hl.symm.trans hl'))
  · intro i v args r σ' hstep
    have hgood : Good (discipline c images) hash σ := good_run (good_start _ s₀) hrun
    have hmay : Issues c (.unmapVolume v) σ.srv (.removeVHostSCSITarget args) :=
      (hgood.rpc_may hstep).1
    cases hmay with
    | removeVHostSCSITarget hl =>
      rw [State.resolve_of_lun hl]
      exact hl

/-- A controller that is connected to SPDK and configured for `vhost.0`. -/
def configured : Controller := ⟨true, "vhost.0", some ⟨0, 0, 0x15, 0⟩⟩

/-- An SPDK with one Malloc BDev, which is attached nowhere. -/
def oneVolume : State := (State.fresh "vhost.0").addBDev ⟨"vol", "Malloc disk", 512, 2⟩ rfl

theorem lun_oneVolume (n : String) (t : ℕ) : oneVolume.lun n t = none := State.lun_fresh _ n t

/-- One volume, mapped: its target is the one of the reply. -/
theorem attached_while_mapped_vol :
    ∃ evs σ, Run (server fun _ => none) configured.calls id (Sys.start oneVolume) evs σ ∧
      MappedBy evs "vol" (configured.mapReply 0) ∧
      σ.srv.lun (σ.srv.resolve "vhost.0") 0 = some "vol" := by
  obtain ⟨es, -, hrun⟩ := run_alone (server fun _ => none) configured.calls id oneVolume 0
    (c := .mapVolume "vol" .malloc) rfl
  refine ⟨_, _, hrun, ⟨_, 0, .malloc, [], rfl, by simp⟩, ?_⟩
  exact ((attached_while_mapped configured _ id oneVolume lun_oneVolume _ _ hrun).2.1 "vol"
    (configured.mapReply 0) ⟨_, 0, .malloc, [], rfl, by simp⟩).2.2

/-! ## Malloc BDevs -/

/-- The Malloc BDev of a name: its name, product, block size and number of
blocks. -/
def mallocOf (s : State) (n : String) : Option Disk := (s.bdev? n).filter Disk.isMalloc

/-- **One request changes a Malloc BDev only for `ProvisionMallocBDev`.** -/
theorem Moves.mallocOf_eq {req : Request} {s s' : State} (hm : Moves c s req s') {n : String}
    (hreq : ∀ size, req ≠ .provisionMallocBDev n size) : mallocOf s' n = mallocOf s n := by
  by_cases hk : n = req.key
  · subst hk
    unfold mallocOf
    cases hm with
    | stay => rfl
    | attach _ _ _ _ => rfl
    | remove _ => rfl
    | create hd hdn hmal _ =>
      -- there was no BDev of the name, and the new one is no Malloc BDev
      subst hdn
      show ((s.addBDev _ hd).bdev? _).filter _ = (s.bdev? _).filter _
      simp [Request.key, State.bdev?_addBDev, hd, hmal]
    | forget hd hmal => simp [Request.key, State.bdev?_deleteBDev, hd, Option.filter, hmal]
    | provision _ _ _ => exact absurd rfl (hreq _)
    | delete => exact absurd rfl (hreq _)
  · unfold mallocOf
    rw [(hm.same hk).bdev]

/-- **Mapping and unmapping never touch a Malloc BDev.**  In every interleaving,
from any SPDK: a step that creates, deletes or changes the Malloc BDev `n` is a
request of a `ProvisionMallocBDev` call for `n`; and as long as no such call gets
its lock, the Malloc BDev is what it was at the start. -/
theorem malloc_only_by_provision (c : Controller) (images : ConstructRBDBDevArgs → Option UInt64)
    (hash : String → H) (s₀ : State) (evs : List CallEvent) (σ : CallSys)
    (hrun : Run (server images) c.calls hash (Sys.start s₀) evs σ) (n : String) :
    (∀ e σ', Step (server images) c.calls hash σ e σ' → mallocOf σ'.srv n ≠ mallocOf σ.srv n →
      ∃ i size q r, e = .rpc i (.provisionMallocBDev n size) q r) ∧
    ((∀ i size, .acquire i (.provisionMallocBDev n size) ∉ evs) →
      mallocOf σ.srv n = mallocOf s₀ n) := by
  constructor
  · intro e σ' hstep hne
    have hgood : Good (discipline c images) hash σ := good_run (good_start _ s₀) hrun
    rcases hgood.srv_step hstep with heq | ⟨i, req, p, q, r, -, rfl, hmay, hsv⟩
    · exact absurd (by rw [heq]) hne
    · by_contra hcon
      refine hne ((hmay.moves hsv).mallocOf_eq fun size hreq => hcon ?_)
      exact ⟨i, size, q, r, by rw [hreq]⟩
  · intro hnone
    refine until_run (D := discipline c images) (P := fun s => mallocOf s n = mallocOf s₀ n)
      (B := fun req => ∃ size, req = .provisionMallocBDev n size) ?_ (good_start _ s₀) ?_ rfl
      hrun ?_
    · intro req s q r s' hreq hmay hstep h
      rw [(hmay.moves hstep).mallocOf_eq fun size heq => hreq ⟨size, heq⟩, h]
    · intro i req p hi
      simp [Sys.start] at hi
    · rintro i req hmem ⟨size, rfl⟩
      exact hnone i size hmem

/-- Unmapping a Malloc volume leaves its BDev. -/
theorem malloc_only_by_provision_vol :
    ∃ evs σ, Run (server fun _ => none) configured.calls id (Sys.start oneVolume)
        (evs ++ [.ret 0 (.unmapVolume "vol") (.done (.ok ()))]) σ ∧
      mallocOf σ.srv "vol" = some ⟨"vol", "Malloc disk", 512, 2⟩ := by
  obtain ⟨es, hrpc, hrun⟩ := run_alone (server fun _ => none) configured.calls id oneVolume 0
    (c := .unmapVolume "vol") rfl
  refine ⟨_, _, hrun, ?_⟩
  refine ((malloc_only_by_provision configured _ id oneVolume _ _ hrun "vol").2 ?_).trans rfl
  intro i size hmem
  have hes : .acquire i (.provisionMallocBDev "vol" size) ∈ es := by simpa using hmem
  obtain ⟨q, r, heq⟩ := hrpc _ hes
  cases heq

end Oim.Controller
