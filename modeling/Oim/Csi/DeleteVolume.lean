import Oim.Controller.Replies
import Oim.Csi.CreateVolume

/-!
# DeleteVolume

The CSI call `DeleteVolume` (`pkg/oim-csi-driver/controllerserver.go`,
`controllerserver0.go`) on top of either backend, with every SPDK request free to fail.  Both
backends come down to a single `delete_bdev`, and differ in the errors that they take for a
success: the local one only `ERROR_INVALID_PARAMS`, by which SPDK means that there is no such
BDev, the remote one, by way of `ProvisionMallocBDev` with size 0, all of them.

* `Deletes` — what a call does and answers; `logged_deleteVolume` — every call is one of these.
* `deleteVolume_gone_iff` — a success means that the BDev is gone, **unless** the backend is the
  remote one, its controller is reached, and the deletion of an existing BDev fails.
-/

namespace Oim.Csi

open Interaction
open Spdk (Client Rpc State Disk server ConstructRBDBDevArgs)
open Controller (Log Failed)

/-! ## The CSI call -/

/-- The checks of `DeleteVolume`; the second one is never reached with an empty ID. -/
def checkDeleteVolume (volumeID : String) : Option Status :=
  if volumeID.length = 0 then some ⟨.invalidArgument, "Volume ID missing in request"⟩
  else if volumeID = "" then some ⟨.invalidArgument, "empty volume ID"⟩
  else none

/-- `oimDriver.DeleteVolume` and `oimDriver03.DeleteVolume`, which are the same. -/
def Driver.deleteVolume (_ : Driver) (b : Backend) (volumeID : String) :
    Client (Except Status Unit) := do
  match checkDeleteVolume volumeID with
  | some e => return .error e
  | none =>
    match ← b.deleteVolume volumeID with
    | .error e => return .error e
    | .ok () => return .ok ()

/-! ## The two ways to delete -/

/-- The errors of `delete_bdev` that a backend answers with a success. -/
def Backend.Tolerates : Backend → String → Prop
  | .localSPDK _, err => Spdk.isJSONError err Spdk.errorInvalidParams = true
  | .remoteSPDK link _, _ => link = .up

/-- A deletion: what was said, the answer, and the state of SPDK afterwards. -/
inductive Deletes (tolerated : String → Prop) (v : String) (s : State) :
    Log → Except Status Unit → State → Prop where
  /-- SPDK is not asked. -/
  | refused (e : Status) : Deletes tolerated v s [] (.error e) s
  /-- SPDK fails, and that is taken for a success or not. -/
  | failed (err : String) (result : Except Status Unit) : (result = .ok () ↔ tolerated err) →
      Deletes tolerated v s [⟨s, .deleteBDev v, .error err⟩] result s
  /-- SPDK deletes the BDev; the answer may get lost. -/
  | done (result : Except Status Unit) :
      Deletes tolerated v s [⟨s, .deleteBDev v, .ok ()⟩] result (s.deleteBDev v)

variable {images : ConstructRBDBDevArgs → Option UInt64} {v : String} {s s' : State} {log : Log}
  {result : Except Status Unit} {tolerated : String → Prop}

/-- An answer that gets lost is an error, whatever it was. -/
theorem Deletes.lost (h : Deletes tolerated v s log result s') {tolerated' : String → Prop}
    (hnone : ∀ err, ¬ tolerated' err) (e : Status) : Deletes tolerated' v s log (.error e) s' := by
  cases h with
  | refused e' => exact .refused e
  | failed err _ herr => exact .failed err _ (iff_of_false (by simp) (hnone err))
  | done => exact .done _

/-- One `delete_bdev`, and an answer that depends on its reply. -/
theorem deletes_call (answer : Except String Unit → Except Status Unit)
    (hans : ∀ err, answer (.error err) = .ok () ↔ tolerated err)
    {k : Except String Unit → Client (Except Status Unit)} (hk : ∀ r, k r = .ret (answer r))
    (h : Prog.Logged (server images) (.call (.deleteBDev v) k) s log result s') :
    Deletes tolerated v s log result s' := by
  obtain ⟨r, s₁, log', hstep, hret, rfl⟩ := Prog.logged_call_iff.1 h
  obtain ⟨rfl, rfl, rfl⟩ := Prog.logged_ret_iff.1 (hk r ▸ hret)
  cases r with
  | error err =>
    rw [Spdk.step_error rfl hstep]
    exact .failed err _ (hans err)
  | ok u =>
    rw [(Spdk.step_delete_ok hstep).2]
    exact .done _

/-- What the local backend makes of the reply of SPDK. -/
def localAnswer (v : String) : Except String Unit → Except Status Unit
  | .ok () => .ok ()
  | .error err =>
    if Spdk.isJSONError err Spdk.errorInvalidParams = false then
      .error ⟨.failedPrecondition, "Failed to delete SPDK Malloc BDev " ++ v ++ ": " ++ err⟩
    else .ok ()

theorem deletes_local (h : Prog.Logged (server images) (Local.deleteVolume v) s log result s') :
    Deletes (fun err => Spdk.isJSONError err Spdk.errorInvalidParams = true) v s log result
      s' := by
  refine deletes_call (localAnswer v) ?_ ?_ h
  · intro err
    rw [localAnswer]
    split_ifs with hfalse
    · exact iff_of_false (by simp) (by simp [hfalse])
    · exact iff_of_true rfl (Bool.eq_true_of_not_eq_false hfalse)
  · intro r
    cases r with
    | ok u => rfl
    | error err => exact (apply_ite Prog.ret _ _ _).symm

theorem deletes_provision {c : Controller}
    (h : Prog.Logged (server images) (c.provisionMallocBDev v 0) s log result s') :
    Deletes (fun _ => True) v s log result s' := by
  unfold Controller.provisionMallocBDev at h
  cases hcheck : c.checkName "empty BDev name" v with
  | some e =>
    rw [hcheck] at h
    obtain ⟨rfl, rfl, rfl⟩ := Prog.logged_ret_iff.1 h
    exact .refused e
  | none =>
    rw [hcheck] at h
    exact deletes_call (fun _ => .ok ()) (fun _ => iff_of_true rfl trivial) (fun _ => rfl) h

/-- Only a controller that can be reached, and whose answers arrive, makes a success of an
error. -/
theorem deletes_link {link : Link} {p : Client (Except Status Unit)}
    (hp : ∀ {log result s'}, Prog.Logged (server images) p s log result s' →
      Deletes (fun _ => True) v s log result s')
    (h : Prog.Logged (server images) (link.call p) s log result s') :
    Deletes (fun _ => link = .up) v s log result s' := by
  cases link with
  | undialable err =>
    obtain ⟨rfl, rfl, rfl⟩ := Prog.logged_ret_iff.1 h
    exact .refused _
  | unreachable status =>
    obtain ⟨rfl, rfl, rfl⟩ := Prog.logged_ret_iff.1 h
    exact .refused _
  | replyLost status =>
    obtain ⟨r, s₁, log₁, log₂, hrun, hret, rfl⟩ := Prog.logged_bind_iff.1 h
    obtain ⟨rfl, rfl, rfl⟩ := Prog.logged_ret_iff.1 hret
    rw [List.append_nil]
    exact (hp hrun).lost (by simp) _
  | up => simpa using hp h

/-- **Every call is a deletion**, with the errors that its backend tolerates. -/
theorem logged_deleteVolume {driver : Driver} {b : Backend}
    (h : Prog.Logged (server images) (driver.deleteVolume b v) s log result s') :
    Deletes b.Tolerates v s log result s' := by
  unfold Driver.deleteVolume at h
  cases hcheck : checkDeleteVolume v with
  | some e =>
    rw [hcheck] at h
    obtain ⟨rfl, rfl, rfl⟩ := Prog.logged_ret_iff.1 h
    exact .refused e
  | none =>
    rw [hcheck] at h
    obtain ⟨r, s₁, log₁, log₂, hrun, hret, rfl⟩ := Prog.logged_bind_iff.1 h
    have hdel : Deletes b.Tolerates v s log₁ r s₁ := by
      cases b with
      | localSPDK connectErr =>
        cases connectErr with
        | some err =>
          obtain ⟨rfl, rfl, rfl⟩ := Prog.logged_ret_iff.1 hrun
          exact .refused _
        | none => exact deletes_local hrun
      | remoteSPDK link c => exact deletes_link deletes_provision hrun
    cases r with
    | error e =>
      obtain ⟨rfl, rfl, rfl⟩ := Prog.logged_ret_iff.1 hret
      rwa [List.append_nil]
    | ok u =>
      obtain ⟨rfl, rfl, rfl⟩ := Prog.logged_ret_iff.1 hret
      rwa [List.append_nil]

/-! ## What a success is worth -/

/-- Where SPDK answers `delete_bdev` with `ERROR_INVALID_PARAMS`, there is no such BDev. -/
def Truthful (log : Log) : Prop :=
  ∀ x ∈ log, ∀ n err, x.request = .deleteBDev n →
    (x.reply : Except String x.request.Result) = .error err →
      Spdk.isJSONError err Spdk.errorInvalidParams = true → x.state.bdev? n = none

/-- **A success of `DeleteVolume` says that the BDev is gone, and no call touches another BDev,
unless `delete_bdev` fails for a BDev that exists, behind a controller that is reached.** -/
theorem deleteVolume_gone_iff (images : ConstructRBDBDevArgs → Option UInt64) (driver : Driver)
    (b : Backend) (v : String) (s s' : State) (log : Log) (result : Except Status Unit)
    (hrun : Prog.Logged (server images) (driver.deleteVolume b v) s log result s')
    (htruth : Truthful log) :
    ((result = .ok () → s'.bdev? v = none) ∧ ∀ w, w ≠ v → s'.bdev? w = s.bdev? w) ↔
      ¬ ((∃ c, b = .remoteSPDK .up c) ∧ (s.bdev? v).isSome = true ∧
        Failed log (.deleteBDev v)) := by
  cases logged_deleteVolume hrun with
  | refused e => simp [Failed]
  | failed err _ htol =>
    have hfailed : Failed [⟨s, .deleteBDev v, .error err⟩] (.deleteBDev v) :=
      Controller.failed_error s _ err []
    cases b with
    | localSPDK connectErr =>
      have hnone : result = .ok () → s.bdev? v = none := fun hok =>
        htruth _ List.mem_cons_self v err rfl rfl (htol.1 hok)
      simpa using hnone
    | remoteSPDK link c =>
      have hup : result = .ok () ↔ link = .up := htol
      simp [hfailed, hup]
  | done =>
    have hgone : (s.deleteBDev v).bdev? v = none := by rw [State.bdev?_deleteBDev, if_pos rfl]
    have hother : ∀ w, w ≠ v → (s.deleteBDev v).bdev? w = s.bdev? w := fun w hw => by
      rw [State.bdev?_deleteBDev, if_neg hw]
    refine iff_of_true ⟨fun _ => hgone, hother⟩ ?_
    simp [Failed]

/-- A backend behind a controller that works. -/
def remoteBackend : Backend := .remoteSPDK .up Controller.configured

theorem logged_remoteBackend {r : Except String Unit} {s' : State}
    (h : (server fun _ => none).Step (.deleteBDev "vol") Controller.oneVolume r s') :
    Prog.Logged (server fun _ => none) (Driver.oimDriver.deleteVolume remoteBackend "vol")
      Controller.oneVolume [⟨Controller.oneVolume, .deleteBDev "vol", r⟩] (.ok ()) s' :=
  .call h (.ret _ _)

/-- Without failures the BDev is gone. -/
theorem deleteVolume_gone_remote :
    (Controller.oneVolume.deleteBDev "vol").bdev? "vol" = none := by
  have hrun := logged_remoteBackend (r := .ok ()) (Or.inl ⟨rfl, rfl⟩)
  have h := deleteVolume_gone_iff _ .oimDriver remoteBackend "vol" _ _ _ _ hrun (by simp [Truthful])
  refine (h.2 ?_).1 rfl
  rintro ⟨-, -, hfailed⟩
  revert hfailed
  simp [Failed]

/-- SPDK fails to delete the BDev, and the caller hears of a success. -/
theorem deleteVolume_forgets :
    Prog.Logged (server fun _ => none) (Driver.oimDriver.deleteVolume remoteBackend "vol")
      Controller.oneVolume
      [⟨Controller.oneVolume, .deleteBDev "vol", .error "code: -32603 msg: Internal error"⟩]
      (.ok ()) Controller.oneVolume ∧
    Spdk.isJSONError "code: -32603 msg: Internal error" Spdk.errorInvalidParams = false ∧
    (Controller.oneVolume.bdev? "vol").isSome = true :=
  ⟨logged_remoteBackend (Or.inr ⟨⟨_, rfl⟩, rfl⟩), by decide +kernel, rfl⟩

end Oim.Csi
