import Oim.Controller.Exclusive
import Oim.Spdk.Session

/-!
# Mapping again, and unmapping

`spec.md` asks for two things of a caller's second try: `MapVolume` is idempotent,
and `UnmapVolume` cleans up whatever a `MapVolume` has left behind, also one that
failed half way.  Here the calls are made one after the other.

* `mapVolume_idempotent` — once mapped, mapping again gives the same reply and
  changes nothing, whatever happened to other volumes in between.  The controller has one
  connection to SPDK, which is lost as soon as SPDK reports a BDev with 2^63 or more blocks;
  `run_handle_session` says that it is not lost if there is no such BDev at the start.
* `unmapVolume_undoes_mapVolume` — after a `MapVolume` that stopped anywhere,
  `UnmapVolume` restores the state before it.
-/

namespace Oim.Controller

open Interaction
open Spdk (Client Rpc State Disk attachments dump server ConstructRBDBDevArgs Session session
  Counted)

variable {c : Controller} {images : ConstructRBDBDevArgs → Option UInt64} {v : String} {s : State}

/-! ## Calls in a row -/

/-- What a sequence of calls, one after the other, makes of SPDK, or of the connection to it. -/
def handleAll {S : Type} (c : Controller) (sv : Server Rpc Rpc.Reply S) : List Request → S → S
  | [], s => s
  | req :: reqs, s => handleAll c sv reqs ((c.handle req).run sv s).2

/-- A call alone is a sequence of its moves, and its answer means what it says. -/
theorem moves_of_runs {req : Request} {s s' : State} {a : Answer}
    (hrun : Prog.Runs (server images) (c.handle req) s a s') :
    Relation.ReflTransGen (fun t t' => Moves c t req t') s s' ∧
      (c.early req = some a ∨ Post c req a s') := by
  rw [handle_eq] at hrun
  cases hearly : c.early req with
  | some b =>
    rw [hearly] at hrun
    obtain ⟨rfl, rfl⟩ := Prog.runs_ret_iff.1 hrun
    exact ⟨.refl, Or.inl rfl⟩
  | none =>
    rw [hearly] at hrun
    obtain ⟨hmoves, hpost⟩ := (safe_body hearly s).runs (Same.refl _) hrun
    refine ⟨Relation.ReflTransGen.mono ?_ _ _ hmoves, Or.inr hpost⟩
    rintro t t' ⟨q, r, hmay, hstep⟩
    exact hmay.moves hstep

/-- What every move of a call keeps, the call keeps. -/
theorem keeps_of_moves {req : Request} {P : State → Prop}
    (hkeep : ∀ t t', Moves c t req t' → P t → P t') {s s' : State}
    (h : Relation.ReflTransGen (fun t t' => Moves c t req t') s s') (hP : P s) : P s' := by
  induction h with
  | refl => exact hP
  | tail _ hm ih => exact hkeep _ _ hm ih

/-- What every move of the calls keeps, a sequence of calls keeps. -/
theorem keeps_handleAll {P : State → Prop} {reqs : List Request}
    (hkeep : ∀ req ∈ reqs, ∀ t t', Moves c t req t' → P t → P t') {s : State} (hP : P s) :
    P (handleAll c (server images) reqs s) := by
  induction reqs generalizing s with
  | nil => exact hP
  | cons req reqs ih =>
    refine ih (fun req' hm => hkeep req' (List.mem_cons_of_mem _ hm)) ?_
    refine keeps_of_moves (hkeep req List.mem_cons_self) ?_ hP
    exact (moves_of_runs (Prog.runs_run (server images) (c.handle req) s)).1

/-! ## The connection is kept -/

/-- No request of a call makes a BDev with too many blocks. -/
theorem Issues.counted {req : Request} {q : Rpc} (h : Issues c req s q) (hs : Counted s) :
    Counted (Spdk.exec images q s).2 := by
  refine hs.exec q ?_
  rintro args size rfl -
  cases h with
  | constructRBDBDev _ hsize =>
    rw [hsize]
    exact blockcnt_lt_of_rbd rfl

section Session

variable (c images)

/-- A call by way of the connection. -/
theorem run_handle_session (req : Request) (hs : Counted s) :
    (c.handle req).run (session images) (.connect s) =
        (((c.handle req).run (server images) s).1,
          .connect ((c.handle req).run (server images) s).2) ∧
      Counted ((c.handle req).run (server images) s).2 := by
  rw [handle_eq]
  cases hearly : c.early req with
  | some a => exact ⟨rfl, hs⟩
  | none =>
    exact Spdk.run_session (Same.refl _) (fun _ _ hmay ht => hmay.counted ht)
      (safe_body hearly s) hs

/-- All calls by way of the connection. -/
theorem handleAll_session (reqs : List Request) (hs : Counted s) :
    handleAll c (session images) reqs (.connect s) =
        .connect (handleAll c (server images) reqs s) ∧
      Counted (handleAll c (server images) reqs s) := by
  induction reqs generalizing s with
  | nil => exact ⟨rfl, hs⟩
  | cons req reqs ih =>
    obtain ⟨hrun, hcounted⟩ := run_handle_session c images req hs
    rw [handleAll, handleAll, hrun]
    exact ih hcounted

/-- `MapVolume` by way of the connection. -/
theorem run_mapVolume_session (v : String) (params : MapParams) (hs : Counted s) :
    (c.mapVolume v params).run (session images) (.connect s) =
        (((c.mapVolume v params).run (server images) s).1,
          .connect ((c.mapVolume v params).run (server images) s).2) ∧
      Counted ((c.mapVolume v params).run (server images) s).2 := by
  have hhandle : c.handle (.mapVolume v params) =
      (c.mapVolume v params).bind fun r => .ret (.mapped r) := rfl
  obtain ⟨hrun, hcounted⟩ :=
    run_handle_session c images (.mapVolume v params) hs
  rw [hhandle, Prog.run_bind, Prog.run_bind] at hrun
  rw [hhandle, Prog.run_bind] at hcounted
  obtain ⟨hreply, hstate⟩ := Prod.mk.inj hrun
  exact ⟨Prod.ext (Answer.mapped.inj hreply) hstate, hcounted⟩

end Session

/-! ## Mapping again -/

theorem run_ensureBDev (hr : Readable s v) (params : MapParams) :
    (c.ensureBDev v params).run (server images) s = (.ok (), s) := by
  obtain ⟨b, hb⟩ := hr
  unfold ensureBDev
  rw [Prog.bind_eq, Client.run_getBDevs, hb]
  rfl

/-- A volume that is attached is found again. -/
theorem run_mapVolumeLocked (hr : Readable s v) {n : String} {t : ℕ} (hl : s.lun n t = some v)
    (huniq : ∀ n' t', s.lun n' t' = some v → t' = t) (params : MapParams) :
    (c.mapVolumeLocked v params).run (server images) s = (.ok (c.mapReply t), s) := by
  have hfind : findTarget (dump s) v = some t := by
    rw [findTarget_eq]
    cases hd : attachments (dump s) v with
    | nil => exact absurd (Spdk.mem_attachments_dump.2 hl) (by simp [hd])
    | cons a as =>
      have ha : (a.1, a.2) ∈ attachments (dump s) v := by simp [hd]
      simp [huniq a.1 a.2 (Spdk.mem_attachments_dump.1 ha)]
  unfold mapVolumeLocked
  rw [Prog.bind_eq, Prog.run_bind, run_ensureBDev hr]
  show Prog.run (server images) (Client.getVHostControllers.bind _) s = _
  rw [Client.run_getVHostControllers]
  simp only [hfind]
  rfl

/-- What a successful `MapVolume` means. -/
theorem mapVolume_ok {params : MapParams} {reply : MapVolumeReply} {s' : State}
    (h : (c.mapVolume v params).run (server images) s = (.ok reply, s')) :
    c.checkMapVolume v = none ∧
      Relation.ReflTransGen (fun t t' => Moves c t (.mapVolume v params) t') s s' ∧
      (∃ n t, reply = c.mapReply t ∧ s'.lun n t = some v) ∧ Readable s' v := by
  have hrun : (c.handle (.mapVolume v params)).run (server images) s =
      (.mapped (.ok reply), s') := by
    show Prog.run _ ((c.mapVolume v params).bind _) s = _
    rw [Prog.run_bind, h]
    rfl
  have hruns := Prog.runs_run (server images) (c.handle (.mapVolume v params)) s
  rw [hrun] at hruns
  obtain ⟨hmoves, hearly | ⟨hat, hread⟩⟩ := moves_of_runs hruns
  · simp [early] at hearly
  · refine ⟨?_, hmoves, hat, hread⟩
    cases hc : c.checkMapVolume v with
    | none => rfl
    | some e => simp [mapVolume, hc] at h

/-- A volume that is mapped, and not touched since, is found where it was. -/
theorem run_mapVolume_again {params : MapParams} {reply : MapVolumeReply} {s' : State}
    {between : List Request} (hexcl : Exclusive c s)
    (hmap : (c.mapVolume v params).run (server images) s = (.ok reply, s'))
    (hbetween : ∀ req ∈ between, req.key ≠ v) (params' : MapParams) :
    (c.mapVolume v params').run (server images) (handleAll c (server images) between s') =
      (.ok reply, handleAll c (server images) between s') := by
  obtain ⟨hcheck, hmoves, ⟨n, t, rfl, hl⟩, hread⟩ := mapVolume_ok hmap
  have hne : v ≠ "" := (checkMapVolume_eq_none hcheck).1
  have hexcl' : Exclusive c (handleAll c (server images) between s') := by
    have hmapped : Exclusive c s' := keeps_of_moves (fun _ _ hm h => hm.exclusive h) hmoves hexcl
    exact keeps_handleAll (fun _ _ _ _ hm h => hm.exclusive h) hmapped
  have hsame : Same v s' (handleAll c (server images) between s') := by
    refine keeps_handleAll (P := Same v s') (fun req hreq t t' hm h => ?_) (Same.refl v s')
    exact h.trans (hm.same (hbetween req hreq).symm)
  have hl' := (hsame.lun n t).2 hl
  unfold mapVolume
  rw [hcheck]
  refine run_mapVolumeLocked (hsame.readable hne hread) hl' (fun n' t' h' => ?_) params'
  exact (hexcl'.unique n' t' n t v h' hl').2

/-- **`MapVolume` is idempotent.**  From an SPDK without LUNs and with numbers of blocks that fit
into an `int64`, after any calls, a successful `MapVolume` and any calls for other volumes, a
further `MapVolume` of the volume gives the same reply and changes nothing.  All calls go through
one connection. -/
theorem mapVolume_idempotent (c : Controller) (images : ConstructRBDBDevArgs → Option UInt64)
    (s₀ : State) (h₀ : ∀ n t, s₀.lun n t = none) (hcounted : Counted s₀)
    (before between : List Request) (v : String) (params params' : MapParams)
    (reply : MapVolumeReply) (σ : Session)
    (hmap : (c.mapVolume v params).run (session images)
      (handleAll c (session images) before (.connect s₀)) = (.ok reply, σ))
    (hbetween : ∀ req ∈ between, req.key ≠ v) :
    (c.mapVolume v params').run (session images) (handleAll c (session images) between σ) =
      (.ok reply, handleAll c (session images) between σ) := by
  obtain ⟨hbefore, hcounted₁⟩ := handleAll_session c images before hcounted
  obtain ⟨hfirst, hcounted₂⟩ := run_mapVolume_session c images v params hcounted₁
  rw [hbefore, hfirst] at hmap
  obtain ⟨hreply, rfl⟩ := Prod.mk.inj hmap
  obtain ⟨hafter, hcounted₃⟩ := handleAll_session c images between hcounted₂
  have hexcl : Exclusive c (handleAll c (server images) before s₀) :=
    keeps_handleAll (fun _ _ _ _ hm h => hm.exclusive h) (exclusive_of_empty h₀)
  rw [hafter, (run_mapVolume_session c images v params' hcounted₃).1,
    run_mapVolume_again hexcl (Prod.ext hreply rfl) hbetween params']

/-- Mapping a second time, with another volume provisioned and mapped in between
and without parameters. -/
theorem mapVolume_idempotent_vol :
    let σ := ((configured.mapVolume "vol" .malloc).run (session fun _ => none)
      (.connect oneVolume)).2
    let σ' := handleAll configured (session fun _ => none)
      [.provisionMallocBDev "other" 1024, .mapVolume "other" .malloc] σ
    (configured.mapVolume "vol" .missing).run (session fun _ => none) σ' =
      (.ok (configured.mapReply 0), σ') :=
  mapVolume_idempotent configured _ oneVolume lun_oneVolume (by decide)
    [] _ "vol" .malloc .missing _ _ rfl (by decide)

/-- Why the numbers of blocks matter: once SPDK has reported a BDev that is too large, the
connection is gone, and mapping a volume again fails. -/
example :
    let huge : State := oneVolume.addBDev ⟨"huge", "null", 512, 2 ^ 63⟩ rfl
    let σ := ((configured.mapVolume "vol" .malloc).run (session fun _ => none) (.connect huge)).2
    let σ' := handleAll configured (session fun _ => none) [.mapVolume "huge" .malloc] σ
    σ.up = true ∧ σ'.up = false ∧
      ((configured.mapVolume "vol" .malloc).run (session fun _ => none) σ').1.isOk = false := by
  decide +kernel

/-! ## Unmapping on an SPDK that works -/

theorem execRemove_of_lun {n : String} {t : ℕ} (hl : s.lun n t = some v) :
    Spdk.execRemove s ⟨n, t⟩ = (.ok (), s.setLun n t none (by simp)) := by
  obtain ⟨h, hm, rfl, hlt⟩ := State.lun_eq_some_iff.1 hl
  have hlt8 : ¬ Spdk.maxDevs ≤ t := not_le.2 (Spdk.VHost.lun_lt hlt)
  simp [Spdk.execRemove, State.resolve_of_lun hl, State.vhost?_of_mem hm, hlt8, hlt]

/-- The loop of `UnmapVolume` empties every target of the volume. -/
theorem run_removeTargets (s : State) :
    (removeTargets (dump s) v).run (server images) s = (.ok (), s.detach v) := by
  have hloop : ∀ (xs : List (String × ℕ)) (s : State), xs.Nodup →
      (∀ n t, s.lun n t = some v ↔ (n, t) ∈ xs) →
      (Prog.forE removeTarget xs).run (server images) s = (.ok (), s.detach v) := by
    intro xs
    induction xs with
    | nil =>
      intro s _ h
      rw [State.detach_of_unattached fun n t hl => absurd ((h n t).1 hl) (by simp)]
      rfl
    | cons x xs ih =>
      obtain ⟨n, t⟩ := x
      intro s hnodup h
      have hl : s.lun n t = some v := (h n t).2 (by simp)
      have hone : (removeTarget (n, t)).run (server images) s =
          (.ok (), s.setLun n t none (by simp)) := by
        unfold removeTarget
        rw [Prog.bind_eq, Client.run_removeVHostSCSITarget, execRemove_of_lun hl]
        rfl
      rw [Prog.forE_cons, Prog.run_bind, hone]
      refine (ih _ (List.nodup_cons.1 hnodup).2 (lun_iff_mem_tail hnodup h)).trans ?_
      rw [State.detach_setLun (fun w hw => Option.some.inj (hw.symm.trans hl)) (by simp)]
  rw [removeTargets_eq]
  exact hloop _ s (Spdk.nodup_attachments_dump s v) fun n t => Spdk.mem_attachments_dump.symm

/-- A Malloc BDev survives the end of `UnmapVolume`. -/
theorem run_deleteMapped_malloc (hne : v ≠ "") {d : Disk} (hd : s.bdev? v = some d)
    (hmal : d.isMalloc = true) : (deleteMapped v).run (server images) s = ((), s) := by
  have hprod : d.productName = "Malloc disk" := of_decide_eq_true hmal
  unfold deleteMapped
  rw [Prog.bind_eq, Client.run_getBDevs, Spdk.getBDevs_named hne, hd]
  simp only
  cases hdec : Spdk.decodeBDev d with
  | error e => rfl
  | ok b =>
    have hb : b.productName = "Malloc disk" := by rw [(Spdk.decodeBDev_ok hdec).2]; exact hprod
    simp only [Except.map, hb, ne_eq, not_true_eq_false, if_false]
    rfl

/-- Any other BDev that can be reported does not. -/
theorem run_deleteMapped_other (hne : v ≠ "") (hbdev : ∀ d, s.bdev? v = some d →
    d.isMalloc = false ∧ d.blockcnt.toNat < 2 ^ 63) :
    (deleteMapped v).run (server images) s = ((), s.deleteBDev v) := by
  unfold deleteMapped
  rw [Prog.bind_eq, Client.run_getBDevs, Spdk.getBDevs_named hne]
  cases hd : s.bdev? v with
  | none =>
    rw [State.deleteBDev_of_none hd]
    rfl
  | some d =>
    obtain ⟨hmal, hlt⟩ := hbdev d hd
    have hprod : d.productName ≠ "Malloc disk" := of_decide_eq_false hmal
    simp only [Spdk.decodeBDev, if_pos hlt, Except.map, ne_eq, hprod, not_false_eq_true, if_true]
    show Prog.run (server images) ((Client.deleteBDev v).bind _) s = _
    rw [Client.run_deleteBDev, Spdk.execDelete, hd]
    rfl

theorem run_unmapVolume (hne : v ≠ "") (hconn : c.connected = true) {s' : State}
    (hdel : (deleteMapped v).run (server images) (s.detach v) = ((), s')) :
    (c.unmapVolume v).run (server images) s = (.ok (), s') := by
  unfold unmapVolume
  rw [checkName_eq_none.2 ⟨hne, hconn⟩]
  show Prog.run (server images) (unmapVolumeLocked v) s = _
  unfold unmapVolumeLocked
  rw [Prog.bind_eq, Client.run_getVHostControllers]
  simp only [Prog.bind_eq]
  rw [Prog.run_bind, run_removeTargets]
  show Prog.run (server images) ((deleteMapped v).bind _) _ = _
  rw [Prog.run_bind, hdel]
  rfl

variable (images) in
/-- On an SPDK that works `UnmapVolume` always succeeds, and then the volume is attached
nowhere. -/
theorem run_unmapVolume_unattached (hne : v ≠ "") (hconn : c.connected = true) (s : State) :
    ∃ s', (c.unmapVolume v).run (server images) s = (.ok (), s') ∧ Unattached s' v := by
  have hrun : (c.unmapVolume v).run (server images) s =
      (.ok (), ((deleteMapped v).run (server images) (s.detach v)).2) :=
    run_unmapVolume hne hconn rfl
  have hlocked : c.unmapVolume v = unmapVolumeLocked v := by
    unfold unmapVolume
    rw [checkName_eq_none.2 ⟨hne, hconn⟩]
  have hruns := Prog.runs_run (server images) (c.unmapVolume v) s
  rw [hrun, hlocked] at hruns
  exact ⟨_, hrun, ((safe_unmapVolumeLocked (c := c) hne).runs (Same.refl v) hruns).2 rfl⟩

/-! ## Unmapping after mapping -/

/-- Apart from the volume itself, `MapVolume` leaves SPDK alone. -/
theorem Moves.deleteBDev_eq {params : MapParams} {s' : State}
    (hm : Moves c s (.mapVolume v params) s') : s'.deleteBDev v = s.deleteBDev v := by
  cases hm with
  | stay => rfl
  | create hd hdn _ _ => subst hdn; exact State.deleteBDev_addBDev s _ hd
  | attach hx _ hfree _ => exact State.deleteBDev_congr (State.detach_attach hfree)

/-- Where the BDev exists already, `MapVolume` only attaches it. -/
theorem Moves.detach_eq {params : MapParams} {s' : State} {d : Disk}
    (hm : Moves c s (.mapVolume v params) s') (hd : s.bdev? v = some d) :
    s'.bdev? v = some d ∧ s'.detach v = s.detach v := by
  cases hm with
  | stay => exact ⟨hd, rfl⟩
  | create hd' hdn _ _ => subst hdn; rw [hd] at hd'; exact absurd hd' (by simp)
  | attach hx _ hfree _ => exact ⟨hd, State.detach_attach hfree⟩

/-- A BDev made by `MapVolume` is one that `UnmapVolume` deletes. -/
theorem Moves.deletable {params : MapParams} {s' : State}
    (hm : Moves c s (.mapVolume v params) s')
    (h : ∀ d, s.bdev? v = some d → d.isMalloc = false ∧ d.blockcnt.toNat < 2 ^ 63) :
    ∀ d, s'.bdev? v = some d → d.isMalloc = false ∧ d.blockcnt.toNat < 2 ^ 63 := by
  cases hm with
  | stay => exact h
  | attach _ _ _ _ => exact h
  | create hd hdn hmal hlt =>
    subst hdn
    intro d' hd'
    rw [State.bdev?_addBDev, if_pos rfl, Option.some.injEq] at hd'
    exact hd' ▸ ⟨hmal, hlt⟩

/-- **`UnmapVolume` undoes `MapVolume`**, also one that failed anywhere: with the
volume attached nowhere and the BDev missing (Ceph) or a Malloc BDev (Malloc)
before, SPDK is afterwards exactly as it was, and unmapping once more changes
nothing. -/
theorem unmapVolume_undoes_mapVolume (c : Controller) (hconn : c.connected = true)
    (images : ConstructRBDBDevArgs → Option UInt64) (v : String) (hne : v ≠ "")
    (params : MapParams) (s : State) (hun : ∀ n t, s.lun n t ≠ some v)
    (hbdev : (∃ ceph, params = .ceph ceph) ∧ s.bdev? v = none ∨
      params = .malloc ∧ ∃ d, s.bdev? v = some d ∧ d.isMalloc = true)
    (result : Except Status MapVolumeReply) (s' : State)
    (hmap : Prog.Runs (server images) (c.mapVolume v params) s result s') :
    (c.unmapVolume v).run (server images) s' = (.ok (), s) ∧
      (c.unmapVolume v).run (server images) s = (.ok (), s) := by
  have hmoves : Relation.ReflTransGen (fun t t' => Moves c t (.mapVolume v params) t') s s' := by
    have hruns : Prog.Runs (server images) (c.handle (.mapVolume v params)) s (.mapped result) s' :=
      Prog.runs_bind_iff.2 ⟨result, s', hmap, .ret _ _⟩
    exact (moves_of_runs hruns).1
  rcases hbdev with ⟨-, hnone⟩ | ⟨-, d, hd, hmal⟩
  · -- what is left of the volume is removed with its BDev
    have hdel : ∀ t, (∀ d, t.bdev? v = some d → d.isMalloc = false ∧ d.blockcnt.toNat < 2 ^ 63) →
        t.deleteBDev v = s.deleteBDev v →
        (c.unmapVolume v).run (server images) t = (.ok (), s) := by
      intro t ht heq
      refine run_unmapVolume hne hconn ((run_deleteMapped_other (s := t.detach v) hne ht).trans ?_)
      rw [State.deleteBDev_detach, heq, State.deleteBDev_of_none hnone]
    have hs : ∀ d, s.bdev? v = some d → d.isMalloc = false ∧ d.blockcnt.toNat < 2 ^ 63 :=
      fun d hd => absurd (hnone.symm.trans hd) (by simp)
    refine ⟨hdel s' ?_ ?_, hdel s hs rfl⟩
    · exact keeps_of_moves (fun _ _ hm h => hm.deletable h) hmoves hs
    · exact keeps_of_moves (P := fun t => t.deleteBDev v = s.deleteBDev v)
        (fun _ _ hm h => hm.deleteBDev_eq.trans h) hmoves rfl
  · -- the Malloc BDev stays, and its targets are emptied
    have hdet : ∀ t, t.bdev? v = some d ∧ t.detach v = s.detach v →
        (c.unmapVolume v).run (server images) t = (.ok (), s) := by
      rintro t ⟨ht, heq⟩
      refine run_unmapVolume hne hconn
        ((run_deleteMapped_malloc (s := t.detach v) hne ht hmal).trans ?_)
      rw [heq, State.detach_of_unattached hun]
    refine ⟨hdet s' ?_, hdet s ⟨hd, rfl⟩⟩
    refine keeps_of_moves (P := fun t => t.bdev? v = some d ∧ t.detach v = s.detach v) ?_ hmoves
      ⟨hd, rfl⟩
    rintro t t' hm ⟨ht, heq⟩
    exact ⟨(hm.detach_eq ht).1, (hm.detach_eq ht).2.trans heq⟩

/-- An RBD volume, mapped and unmapped. -/
theorem unmapVolume_undoes_mapVolume_rbd :
    let params : MapParams := .ceph ⟨"admin", "secret", "192.168.7.2:6789", "rbd", "image"⟩
    let s := State.fresh "vhost.0"
    let s' := ((configured.mapVolume "vol" params).run (server fun _ => some 1048576) s).2
    s'.lun "vhost.0" 0 = some "vol" ∧
      (configured.unmapVolume "vol").run (server fun _ => some 1048576) s' = (.ok (), s) := by
  intro params s s'
  refine ⟨rfl, (unmapVolume_undoes_mapVolume configured rfl (fun _ => some 1048576) "vol"
    (by decide) params s ?_ (Or.inl ⟨⟨_, rfl⟩, rfl⟩) _ s' (Prog.runs_run _ _ _)).1⟩
  intro n t
  rw [State.lun_fresh]
  simp

end Oim.Controller
