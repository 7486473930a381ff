import Oim.Controller.Exclusive
import Oim.Csi.Host
import Oim.Lib.KeyLock

/-!
# NBD devices of the local backend

`localSPDK.createDevice` looks for a `/dev/nbd*` node that seems unused and exports the volume
there, `deleteDevice` ends the export.  The node server makes these calls under a lock per
volume, so any number of them run at once and compete for the same nodes.

* `Issues`, `Moves` — what the calls ask SPDK for, and what comes of it: a call starts an export
  of its volume only where there is none, and stops only an export of its volume.
* `Moves.exclusive` — a volume is on one node at most.
* `nbd_devices_exclusive` — in every interleaving nodes are not shared, a device that was
  returned exports the volume until it is deleted, and nobody stops another volume's export.
-/

namespace Oim.Csi.Local

open Interaction
open Spdk (Exports StartNBDDiskArgs ConstructRBDBDevArgs)

/-! ## The calls -/

/-- A call, with what it meets: whether it can connect, and up to which node it may search. -/
inductive DeviceCall where
  | createDevice (connectErr : Option String) (limit : ℕ) (volumeID : String)
  | deleteDevice (connectErr : Option String) (volumeID : String)

/-- The volume whose lock the node server holds during the call. -/
def DeviceCall.key : DeviceCall → String
  | .createDevice _ _ v => v
  | .deleteDevice _ v => v

/-- What a call returns: a device node, or nothing. -/
inductive DeviceAnswer where
  | created (result : Except String String)
  | deleted (result : Except String Unit)

/-- What a call does under its lock. -/
def DeviceCall.body : DeviceCall → Task DeviceAnswer
  | .createDevice connectErr limit v => return .created (← Local.createDevice connectErr limit v)
  | .deleteDevice connectErr v => return .deleted (← Local.deleteDevice connectErr v)

/-- The calls of the node server. -/
def deviceCalls : Calls DeviceCall String Host.Request Host.Request.Reply DeviceAnswer where
  key := DeviceCall.key
  early _ := none
  body := DeviceCall.body

/-! ## What the calls do -/

/-- The volume is exported nowhere. -/
def Unexported (e : Exports) (v : String) : Prop := ∀ node, e.on node ≠ some v

/-- The requests of a call.  `createDevice` asks for an export of its volume on a node that has
it already, or if there is none; `deleteDevice` asks for the end of an export of its volume, or
of the one on the empty node. -/
inductive Issues : DeviceCall → Host → Host.Request → Prop where
  | probe (c : DeviceCall) (h : Host) (node : ℕ) : Issues c h (.probe node)
  | deliver (c : DeviceCall) (h : Host) (reply : Except String Unit) : Issues c h (.deliver reply)
  | list (c : DeviceCall) (h : Host) : Issues c h (.nbd .getNBDDisks)
  | start {connectErr : Option String} {limit : ℕ} {v node : String} {h : Host} :
      h.exports.on node = some v ∨ Unexported h.exports v →
      Issues (.createDevice connectErr limit v) h (.nbd (.startNBDDisk ⟨v, node⟩))
  | stop {connectErr : Option String} {v node : String} {h : Host} :
      h.exports.on node = some v ∨ node = "" →
      Issues (.deleteDevice connectErr v) h (.nbd (.stopNBDDisk ⟨node⟩))

/-- What becomes of the exports. -/
inductive Moves : DeviceCall → Exports → Exports → Prop where
  | stay {c : DeviceCall} {e : Exports} : Moves c e e
  | start {connectErr : Option String} {limit : ℕ} {v node : String} {e : Exports} (hne : node ≠ "")
      (hfree : e.on node = none) : Unexported e v →
      Moves (.createDevice connectErr limit v) e (e.start ⟨v, node⟩ hne hfree)
  | stop {connectErr : Option String} {v node : String} {e : Exports} : e.on node = some v →
      Moves (.deleteDevice connectErr v) e (e.stop node)

variable {images : ConstructRBDBDevArgs → Option UInt64} {H : Type}

theorem Issues.moves {c : DeviceCall} {h h' : Host} {q : Host.Request} {r : q.Reply}
    (hq : Issues c h q) (hstep : (Host.server images).Step q h r h') :
    Moves c h.exports h'.exports := by
  cases hq with
  | probe _ _ node => rw [Host.step_probe hstep]; exact .stay
  | deliver _ _ reply => rw [(Host.step_deliver hstep).1]; exact .stay
  | list => rw [(Host.step_getNBDDisks hstep).1]; exact .stay
  | start hwhere =>
    rcases Host.step_startNBDDisk hstep with ⟨-, hne, hfree, rfl⟩ | ⟨-, rfl⟩
    · rcases hwhere with hon | hnone
      · -- SPDK refuses a node that is in use
        exact absurd hfree (by simp [hon])
      · exact .start hne hfree hnone
    · exact .stay
  | stop hwhere =>
    rcases Host.step_stopNBDDisk hstep with ⟨-, hsome, rfl⟩ | ⟨-, rfl⟩
    · rcases hwhere with hon | rfl
      · exact .stop hon
      · exact absurd hsome (by simp [Exports.on_unnamed])
    · exact .stay

/-- **A call only touches the exports of its own volume.** -/
theorem Moves.same {c : DeviceCall} {e e' : Exports} (hm : Moves c e e') {k : String}
    (hk : k ≠ c.key) (node : String) : e'.on node = some k ↔ e.on node = some k := by
  cases hm with
  | stay => rfl
  | start hne hfree _ =>
    rw [Exports.on_start]
    exact or_iff_left fun hnew => hk hnew.2
  | stop hon =>
    rw [Exports.on_stop]
    refine and_iff_left_of_imp fun hk' heq => hk ?_
    rw [heq, hon] at hk'
    exact (Option.some.inj hk').symm

/-- Every volume is on one node at most. -/
def Exclusive (e : Exports) : Prop :=
  ∀ v node node', e.on node = some v → e.on node' = some v → node = node'

/-- **One request keeps volumes on one node.** -/
theorem Moves.exclusive {c : DeviceCall} {e e' : Exports} (hm : Moves c e e')
    (h : Exclusive e) : Exclusive e' := by
  cases hm with
  | stay => exact h
  | start hne hfree hnone =>
    intro v node node' hv hv'
    rcases Exports.on_start.1 hv with hv | ⟨hnode, hw⟩ <;>
      rcases Exports.on_start.1 hv' with hv' | ⟨hnode', hw'⟩
    · exact h v node node' hv hv'
    · exact absurd (hv.trans (congrArg some hw')) (hnone node)
    · exact absurd (hv'.trans (congrArg some hw)) (hnone node')
    · exact hnode.trans hnode'.symm
  | stop _ =>
    intro v node node' hv hv'
    exact h v node node' (Exports.on_stop.1 hv).1 (Exports.on_stop.1 hv').1

/-! ## The outlines -/

/-- What a call counts on: the others leave the exports of its volume alone. -/
def Keeps (v : String) (h h' : Host) : Prop :=
  ∀ node, h'.exports.on node = some v ↔ h.exports.on node = some v

theorem Keeps.refl (v : String) (h : Host) : Keeps v h h := fun _ => Iff.rfl

theorem Keeps.trans {v : String} {h₁ h₂ h₃ : Host} (h₁₂ : Keeps v h₁ h₂) (h₂₃ : Keeps v h₂ h₃) :
    Keeps v h₁ h₃ := fun node => (h₂₃ node).trans (h₁₂ node)

theorem Keeps.unexported {v : String} {h h' : Host} (hk : Keeps v h h')
    (hun : Unexported h.exports v) : Unexported h'.exports v :=
  fun node hon => hun node ((hk node).1 hon)

/-- What the answer of a call means. -/
def Post (v : String) : DeviceAnswer → Host → Prop
  | .created (.ok node), h => h.exports.on node = some v
  | _, _ => True

section Outlines

variable {c : DeviceCall} {v : String} {h : Host}

/-- The node is one of the volume, or there is none. -/
def Found (v : String) (h : Host) (node : String) : Prop :=
  h.exports.on node = some v ∨ (node = "" ∧ Unexported h.exports v)

theorem Found.keeps {h' : Host} {node : String} (hf : Found v h node) (hk : Keeps v h h') :
    Found v h' node :=
  hf.imp (hk node).2 fun ⟨hempty, hun⟩ => ⟨hempty, hk.unexported hun⟩

variable (v h) in
theorem found_nbdDeviceOf : Found v h (nbdDeviceOf h.exports.disks v) := by
  unfold nbdDeviceOf
  cases hfind : h.exports.disks.find? (·.bdevName = v) with
  | some nbd =>
    have hname : nbd.bdevName = v := by simpa using List.find?_some hfind
    refine .inl (Exports.on_eq_some_iff.2 ?_)
    rw [← hname]
    exact List.mem_of_find?_eq_some hfind
  | none =>
    refine .inr ⟨rfl, fun node hon => ?_⟩
    exact absurd (List.find?_eq_none.1 hfind _ (Exports.on_eq_some_iff.1 hon)) (by simp)

theorem safe_findNBDDevice {α : Type} {post : α → Host → Prop}
    {f : Except String String → Task α}
    (herr : ∀ h' e, Keeps v h h' →
      Prog.Safe (Host.server images) (Keeps v) (Issues c) post (f (.error e)) h')
    (hok : ∀ h' node, Keeps v h h' → Found v h' node →
      Prog.Safe (Host.server images) (Keeps v) (Issues c) post (f (.ok node)) h') :
    Prog.Safe (Host.server images) (Keeps v) (Issues c) post ((findNBDDevice v).bind f) h := by
  refine Prog.safe_call (fun _ _ => .list c _) fun h₁ r h₂ hk hstep => ?_
  obtain ⟨rfl, rfl | ⟨e, rfl⟩⟩ := Host.step_getNBDDisks hstep
  · exact hok h₂ _ hk (found_nbdDeviceOf v h₂)
  · exact herr h₂ _ hk

/-- The search changes nothing, whatever the nodes look like. -/
theorem safe_findUnused {α : Type} {post : α → Host → Prop} {f : Except String String → Task α}
    (limit i : ℕ) (nbdError : Option String)
    (herr : ∀ h' e, Keeps v h h' →
      Prog.Safe (Host.server images) (Keeps v) (Issues c) post (f (.error e)) h')
    (hok : ∀ h' node, Keeps v h h' →
      Prog.Safe (Host.server images) (Keeps v) (Issues c) post (f (.ok node)) h') :
    Prog.Safe (Host.server images) (Keeps v) (Issues c) post
      ((findUnused limit i nbdError).bind f) h := by
  induction limit generalizing h i nbdError with
  | zero => exact herr h _ (Keeps.refl v h)
  | succ limit ih =>
    refine Prog.safe_call (fun _ _ => .probe c _ i) fun h₁ r h₂ hk hstep => ?_
    obtain rfl := Host.step_probe hstep
    have hnext : ∀ nbdError', Prog.Safe (Host.server images) (Keeps v) (Issues c) post
        ((findUnused limit (i + 1) nbdError').bind f) h₂ := fun nbdError' =>
      ih (i + 1) nbdError' (fun h' e hk' => herr h' e (hk.trans hk'))
        fun h' node hk' => hok h' node (hk.trans hk')
    cases r with
    | notExist err => exact herr h₂ _ hk
    | failed err => exact hnext _
    | size bytes =>
      cases bytes with
      | zero => exact hok h₂ _ hk
      | succ n => exact hnext _

theorem safe_startDevice {connectErr : Option String} {limit : ℕ} {node : String}
    (hwhere : h.exports.on node = some v ∨ Unexported h.exports v) :
    Prog.Safe (Host.server images) (Keeps v) (Issues (.createDevice connectErr limit v))
      (fun r h' => Post v (.created r) h') (startDevice v node) h := by
  refine Prog.safe_call (fun h₁ hk => ?_) fun h₁ r h₂ hk hstart => ?_
  · exact .start (hwhere.imp (hk node).2 hk.unexported)
  · refine Prog.safe_call (fun _ _ => .deliver _ _ _) fun h₃ r' h₄ hk' hdeliver => ?_
    obtain ⟨rfl, hreply⟩ := Host.step_deliver hdeliver
    cases r' with
    | error e => exact fun _ _ => trivial
    | ok u =>
      have hr : r = .ok () := by rcases hreply with rfl | ⟨e, he⟩ <;> trivial
      rcases Host.step_startNBDDisk hstart with ⟨-, hne, hfree, rfl⟩ | ⟨⟨e, he⟩, -⟩
      · intro h₅ hk''
        have hon : (h₁.exports.start ⟨v, node⟩ hne hfree).on node = some v :=
          Exports.on_start.2 (.inr ⟨rfl, rfl⟩)
        exact (hk'.trans hk'' node).2 hon
      · exact absurd (hr.symm.trans he) (by simp)

theorem safe_createDevice (connectErr : Option String) (limit : ℕ) :
    Prog.Safe (Host.server images) (Keeps v) (Issues (.createDevice connectErr limit v))
      (fun r h' => Post v (.created r) h') (createDevice connectErr limit v) h := by
  cases connectErr with
  | some err => exact fun _ _ => trivial
  | none =>
    refine safe_findNBDDevice (fun _ _ _ _ _ => trivial) fun h₁ node _ hfound => ?_
    show Prog.Safe _ _ _ _ (if node ≠ "" then _ else _) h₁
    split_ifs with hne
    · exact safe_startDevice (hfound.imp_right And.right)
    · have hun : Unexported h₁.exports v := by
        rcases hfound with hon | ⟨-, hun⟩
        · rw [not_not.1 hne, Exports.on_unnamed] at hon
          exact nomatch hon
        · exact hun
      refine safe_findUnused limit 0 none (fun _ _ _ _ _ => trivial) fun h₂ node' hk => ?_
      exact safe_startDevice (.inr (hk.unexported hun))

theorem safe_deleteDevice (connectErr : Option String) :
    Prog.Safe (Host.server images) (Keeps v) (Issues (.deleteDevice connectErr v))
      (fun _ _ => True) (deleteDevice connectErr v) h := by
  cases connectErr with
  | some err => exact fun _ _ => trivial
  | none =>
    refine safe_findNBDDevice (fun _ _ _ _ _ => trivial) fun h₁ node _ hfound => ?_
    refine Prog.safe_call (fun h₂ hk => ?_) fun h₂ r h₃ hk hstop => ?_
    · exact .stop ((hfound.keeps hk).imp_right And.left)
    · refine Prog.safe_call (fun _ _ => .deliver _ _ _) fun h₄ r' h₅ hk' hdeliver => ?_
      cases r' <;> exact fun _ _ => trivial

end Outlines

/-- The discipline of the calls. -/
def discipline (images : ConstructRBDBDevArgs → Option UInt64) :
    Discipline (Host.server images) deviceCalls where
  rely := Keeps
  may := Issues
  post c := Post c.key
  refl := Keeps.refl
  trans _ _ _ _ := Keeps.trans
  frame c k h q r h' hq hstep hk := fun node => (hq.moves hstep).same hk node
  outline c h _ := by
    cases c with
    | createDevice connectErr limit v => exact Prog.safe_map (safe_createDevice connectErr limit)
    | deleteDevice connectErr v =>
      exact Prog.safe_map ((safe_deleteDevice connectErr).mono fun _ _ _ => trivial)

/-! ## Every interleaving -/

/-- An event of the node server. -/
abbrev DeviceEvent : Type := Event DeviceCall Host.Request Host.Request.Reply DeviceAnswer

/-- The node server with its calls in progress, and its host. -/
abbrev DeviceSys : Type := Sys DeviceCall Host.Request Host.Request.Reply DeviceAnswer Host

/-- According to the history `v` has the device `node`: some `createDevice` of it returned that,
and no `deleteDevice` of it has got the lock since. -/
def CreatedBy (evs : List DeviceEvent) (v node : String) : Prop :=
  ∃ before i connectErr limit after,
    evs = before ++ .ret i (.createDevice connectErr limit v) (.created (.ok node)) :: after ∧
    ∀ j connectErr', .acquire j (.deleteDevice connectErr' v) ∉ after

/-- Only `deleteDevice` of the volume ends an export. -/
theorem Moves.on_of_not_delete {c : DeviceCall} {e e' : Exports} (hm : Moves c e e')
    {v node : String} (hc : ¬ ∃ connectErr, c = .deleteDevice connectErr v)
    (hon : e.on node = some v) : e'.on node = some v := by
  cases hm with
  | stay => exact hon
  | start hne hfree _ => exact Exports.on_start.2 (.inl hon)
  | stop hon' =>
    refine Exports.on_stop.2 ⟨hon, fun heq => ?_⟩
    rw [heq, hon'] at hon
    exact hc ⟨_, by rw [Option.some.inj hon]⟩

/-- The device exports the volume that it was created for. -/
theorem on_of_createdBy {h₀ : Host} {hash : String → H} {evs : List DeviceEvent} {σ : DeviceSys}
    (hrun : Run (Host.server images) deviceCalls hash (Sys.start h₀) evs σ) {v node : String}
    (hcreated : CreatedBy evs v node) : σ.srv.exports.on node = some v := by
  obtain ⟨before, i, connectErr, limit, after, rfl, hacq⟩ := hcreated
  obtain ⟨σ₁, hbefore, hrest⟩ := run_append_iff.1 hrun
  obtain ⟨σ₂, hret, hafter⟩ := run_cons_iff.1 hrest
  have hgood : Good (discipline images) hash σ₁ := good_run (good_start _ h₀) hbefore
  obtain ⟨hsrv, hearly | ⟨hpost, hothers⟩⟩ := hgood.ret_post hret
  · exact nomatch hearly
  · refine until_run (D := discipline images) (P := fun h => h.exports.on node = some v)
      (B := fun c => ∃ connectErr', c = .deleteDevice connectErr' v) ?_ (hgood.step hret) ?_ ?_
      hafter ?_
    · intro c h q r h' hc hmay hstep hon
      exact (Issues.moves hmay hstep).on_of_not_delete hc hon
    · rintro j c p hj ⟨connectErr', rfl⟩
      exact hothers j _ p hj rfl
    · rw [hsrv]
      exact hpost
    · rintro j c hmem ⟨connectErr', rfl⟩
      exact hacq j connectErr' hmem

/-- **NBD devices are never shared.**  From a host without exports, in every state that any
interleaving can reach: every volume is exported on one node at most, and every node exports at
most one volume; a device that was created for a volume exports it until the next `deleteDevice`
of it gets the lock; and no request of `deleteDevice` ends the export of another volume. -/
theorem nbd_devices_exclusive (images : ConstructRBDBDevArgs → Option UInt64) (hash : String → H)
    (h₀ : Host) (hnone : h₀.exports.disks = []) (evs : List DeviceEvent) (σ : DeviceSys)
    (hrun : Run (Host.server images) deviceCalls hash (Sys.start h₀) evs σ) :
    (∀ d ∈ σ.srv.exports.disks, ∀ d' ∈ σ.srv.exports.disks,
      d.bdevName = d'.bdevName ∨ d.nbdDevice = d'.nbdDevice → d = d') ∧
    (∀ v node, CreatedBy evs v node → σ.srv.exports.on node = some v) ∧
    (∀ i connectErr v q r σ', Step (Host.server images) deviceCalls hash σ
      (.rpc i (.deleteDevice connectErr v) q r) σ' →
      ∀ w node, w ≠ v → σ.srv.exports.on node = some w → σ'.srv.exports.on node = some w) := by
  refine ⟨?_, fun v node => on_of_createdBy hrun, ?_⟩
  · have hexcl : Exclusive h₀.exports := by
      intro v node node' hv
      have hmem := Exports.on_eq_some_iff.1 hv
      rw [hnone] at hmem
      exact absurd hmem (by simp)
    have hexcl' : Exclusive σ.srv.exports :=
      invariant_run (D := discipline images)
        (fun _ _ _ _ _ hmay hstep h => (Issues.moves hmay hstep).exclusive h) (good_start _ h₀)
        hexcl hrun
    rintro ⟨v, node⟩ hd ⟨v', node'⟩ hd' hsame
    have hon := Exports.on_eq_some_iff.2 hd
    have hon' := Exports.on_eq_some_iff.2 hd'
    rcases hsame with hv | hnode
    · obtain rfl : v = v' := hv
      rw [hexcl' v node node' hon hon']
    · obtain rfl : node = node' := hnode
      rw [Option.some.inj (hon.symm.trans hon')]
  · intro i connectErr v q r σ' hstep w node hw hon
    have hgood : Good (discipline images) hash σ := good_run (good_start _ h₀) hrun
    obtain ⟨hmay, hsv⟩ := hgood.rpc_may hstep
    exact ((Issues.moves hmay hsv).same hw node).2 hon

/-- A host with one node, and an SPDK with one volume. -/
def oneNode : Host where
  mounts := []
  nodes := 1
  exports := .empty
  spdk := Controller.oneVolume

/-- One volume, exported: its device is the one that was returned. -/
theorem nbd_devices_exclusive_vol :
    ∃ evs σ, Run (Host.server fun _ => none) deviceCalls id (Sys.start oneNode) evs σ ∧
      CreatedBy evs "vol" "/dev/nbd0" ∧ σ.srv.exports.on "/dev/nbd0" = some "vol" := by
  obtain ⟨es, -, hrun⟩ := run_alone (Host.server fun _ => none) deviceCalls id oneNode 0
    (c := .createDevice none 1 "vol") rfl
  have hcreated : CreatedBy (.invoke 0 (.createDevice none 1 "vol") ::
      .acquire 0 (.createDevice none 1 "vol") :: es ++ [.ret 0 (.createDevice none 1 "vol")
        (.created (.ok "/dev/nbd0"))]) "vol" "/dev/nbd0" :=
    ⟨_, 0, none, 1, [], rfl, by simp⟩
  exact ⟨_, _, hrun, hcreated,
    (nbd_devices_exclusive _ id oneNode rfl _ _ hrun).2.1 "vol" "/dev/nbd0" hcreated⟩

end Oim.Csi.Local
