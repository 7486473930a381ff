import Oim.Spdk.Rpc

/-!
# The SPDK client

The functions of `pkg/spdk/spdk.go`: each is one JSON-RPC call.  For each there
are two rules, so that nothing further up has to look into a call again:

* `run_…` — what the call does on a daemon that works;
* `safe_…` — what has to be shown about the rest of a handler that makes the call
  while others use the daemon as well (`Prog.Safe`): one obligation for an error,
  which changes nothing, and one for success.
-/

namespace Oim.Spdk

open Interaction

/-- A program that talks to SPDK. -/
abbrev Client (α : Type) : Type := Prog Rpc Rpc.Reply α

namespace Client

/-- `spdk.GetBDevs`. -/
def getBDevs (name : String) : Client (Except String (List BDev)) :=
  .call (.getBDevs name) .ret

/-- `spdk.DeleteBDev`. -/
def deleteBDev (name : String) : Client (Except String Unit) :=
  .call (.deleteBDev name) .ret

/-- `spdk.ConstructMallocBDev`. -/
def constructMallocBDev (args : ConstructBDevArgs) : Client (Except String String) :=
  .call (.constructMallocBDev args) .ret

/-- `spdk.ConstructRBDBDev`. -/
def constructRBDBDev (args : ConstructRBDBDevArgs) : Client (Except String String) :=
  .call (.constructRBDBDev args) .ret

/-- `spdk.AddVHostSCSILUN`. -/
def addVHostSCSILUN (args : AddVHostSCSILUNArgs) : Client (Except String Unit) :=
  .call (.addVHostSCSILUN args) .ret

/-- `spdk.RemoveVHostSCSITarget`. -/
def removeVHostSCSITarget (args : RemoveVHostSCSITargetArgs) : Client (Except String Unit) :=
  .call (.removeVHostSCSITarget args) .ret

/-- `spdk.GetVHostControllers`. -/
def getVHostControllers : Client (Except String (List Controller)) :=
  .call .getVHostControllers .ret

/-! ## On a daemon that works -/

section Run

variable {α : Type} (images : ConstructRBDBDevArgs → Option UInt64) (s : State)

@[simp] theorem run_getBDevs (name : String) (f : Except String (List BDev) → Client α) :
    Prog.run (server images) ((getBDevs name).bind f) s =
      Prog.run (server images) (f (Spdk.getBDevs s name)) s := rfl

@[simp] theorem run_deleteBDev (name : String) (f : Except String Unit → Client α) :
    Prog.run (server images) ((deleteBDev name).bind f) s =
      Prog.run (server images) (f (execDelete s name).1) (execDelete s name).2 := rfl

@[simp] theorem run_constructMallocBDev (args : ConstructBDevArgs)
    (f : Except String String → Client α) :
    Prog.run (server images) ((constructMallocBDev args).bind f) s =
      Prog.run (server images) (f (execMalloc s args).1) (execMalloc s args).2 := rfl

@[simp] theorem run_removeVHostSCSITarget (args : RemoveVHostSCSITargetArgs)
    (f : Except String Unit → Client α) :
    Prog.run (server images) ((removeVHostSCSITarget args).bind f) s =
      Prog.run (server images) (f (execRemove s args).1) (execRemove s args).2 := rfl

@[simp] theorem run_getVHostControllers (f : Except String (List Controller) → Client α) :
    Prog.run (server images) (getVHostControllers.bind f) s =
      Prog.run (server images) (f (.ok (dump s))) s := rfl

end Run

/-! ## While others use the daemon -/

section Safe

variable {α : Type} {images : ConstructRBDBDevArgs → Option UInt64} {rely : State → State → Prop}
  {may : State → Rpc → Prop} {post : α → State → Prop} {s : State}

/-- The common part of the rules: an error changes nothing. -/
theorem safe_rpc {q : Rpc} {k : q.Reply → Client α} (hq : q.anonymous = false)
    (hmay : ∀ s', rely s s' → may s' q)
    (herr : ∀ s' e, rely s s' →
      Prog.Safe (server images) rely may post (k (Except.error e : Except String q.Result)) s')
    (hok : ∀ s' x s'', rely s s' →
      (server images).Step q s' (Except.ok x : Except String q.Result) s'' →
      Prog.Safe (server images) rely may post (k (Except.ok x : Except String q.Result)) s'') :
    Prog.Safe (server images) rely may post (.call q k) s := by
  refine Prog.safe_call hmay fun s' r s'' hrely hstep => ?_
  cases r with
  | error e =>
    rw [step_error hq hstep]
    exact herr s' e hrely
  | ok x => exact hok s' x s'' hrely hstep

theorem safe_getBDevs {name : String} {f : Except String (List BDev) → Client α}
    (hmay : ∀ s', rely s s' → may s' (.getBDevs name))
    (herr : ∀ s' e, rely s s' → Prog.Safe (server images) rely may post (f (.error e)) s')
    (hok : ∀ s' bs, rely s s' → Spdk.getBDevs s' name = .ok bs →
      Prog.Safe (server images) rely may post (f (.ok bs)) s') :
    Prog.Safe (server images) rely may post ((getBDevs name).bind f) s := by
  refine safe_rpc rfl hmay herr fun s' bs s'' hrely hstep => ?_
  obtain ⟨hbs, rfl⟩ := step_getBDevs_ok hstep
  exact hok s'' bs hrely hbs

theorem safe_getVHostControllers {f : Except String (List Controller) → Client α}
    (hmay : ∀ s', rely s s' → may s' .getVHostControllers)
    (herr : ∀ s' e, rely s s' → Prog.Safe (server images) rely may post (f (.error e)) s')
    (hok : ∀ s', rely s s' →
      Prog.Safe (server images) rely may post (f (.ok (dump s'))) s') :
    Prog.Safe (server images) rely may post (getVHostControllers.bind f) s := by
  refine safe_rpc rfl hmay herr fun s' cs s'' hrely hstep => ?_
  obtain ⟨rfl, rfl⟩ := step_dump_ok hstep
  exact hok s'' hrely

theorem safe_deleteBDev {name : String} {f : Except String Unit → Client α}
    (hmay : ∀ s', rely s s' → may s' (.deleteBDev name))
    (herr : ∀ s' e, rely s s' → Prog.Safe (server images) rely may post (f (.error e)) s')
    (hok : ∀ s', rely s s' →
      Prog.Safe (server images) rely may post (f (.ok ())) (s'.deleteBDev name)) :
    Prog.Safe (server images) rely may post ((deleteBDev name).bind f) s := by
  refine safe_rpc rfl hmay herr fun s' _ s'' hrely hstep => ?_
  obtain ⟨-, rfl⟩ := step_delete_ok hstep
  exact hok s' hrely

theorem safe_constructMallocBDev {args : ConstructBDevArgs}
    {f : Except String String → Client α} (hne : args.name ≠ "")
    (hmay : ∀ s', rely s s' → may s' (.constructMallocBDev args))
    (herr : ∀ s' e, rely s s' → Prog.Safe (server images) rely may post (f (.error e)) s')
    (hok : ∀ s' d hd n, rely s s' → d.name = args.name →
      d.blocklen = UInt32.ofNat args.blockSize.toInt.toNat →
      d.blockcnt = UInt64.ofNat args.numBlocks.toInt.toNat → 0 < args.numBlocks.toInt →
      Prog.Safe (server images) rely may post (f (.ok n)) (s'.addBDev d hd)) :
    Prog.Safe (server images) rely may post ((constructMallocBDev args).bind f) s := by
  have hq : (Rpc.constructMallocBDev args).anonymous = false := by simpa [Rpc.anonymous] using hne
  refine safe_rpc hq hmay herr fun s' n s'' hrely hstep => ?_
  obtain ⟨d, hd, rfl, hname, -, hlen, hcnt, hpos⟩ := step_malloc_ok hne hstep
  exact hok s' d hd n hrely hname hlen hcnt hpos

theorem safe_constructRBDBDev {args : ConstructRBDBDevArgs} {f : Except String String → Client α}
    (hmay : ∀ s', rely s s' → may s' (.constructRBDBDev args))
    (herr : ∀ s' e, rely s s' → Prog.Safe (server images) rely may post (f (.error e)) s')
    (hok : ∀ s' d hd n, rely s s' → d.name = args.name →
      (∃ size : UInt64, d.blockcnt = size / (UInt32.ofNat args.blockSize.toInt.toNat).toUInt64) →
      Prog.Safe (server images) rely may post (f (.ok n)) (s'.addBDev d hd)) :
    Prog.Safe (server images) rely may post ((constructRBDBDev args).bind f) s := by
  refine safe_rpc rfl hmay herr fun s' n s'' hrely hstep => ?_
  obtain ⟨d, hd, rfl, hname, -, hsize⟩ := step_rbd_ok hstep
  exact hok s' d hd n hrely hname hsize

theorem safe_addVHostSCSILUN {args : AddVHostSCSILUNArgs} {f : Except String Unit → Client α}
    (hmay : ∀ s', rely s s' → may s' (.addVHostSCSILUN args))
    (herr : ∀ s' e, rely s s' → Prog.Safe (server images) rely may post (f (.error e)) s')
    (hok : ∀ s' hx, rely s s' → s'.hasTarget (s'.resolve args.controller) args.scsiTargetNum →
      Prog.Safe (server images) rely may post (f (.ok ()))
        (s'.setLun (s'.resolve args.controller) args.scsiTargetNum (some args.bdevName) hx)) :
    Prog.Safe (server images) rely may post ((addVHostSCSILUN args).bind f) s := by
  refine safe_rpc rfl hmay herr fun s' _ s'' hrely hstep => ?_
  obtain ⟨-, htarget, hx, rfl⟩ := step_add_ok hstep
  exact hok s' hx hrely htarget

theorem safe_removeVHostSCSITarget {args : RemoveVHostSCSITargetArgs}
    {f : Except String Unit → Client α}
    (hmay : ∀ s', rely s s' → may s' (.removeVHostSCSITarget args))
    (herr : ∀ s' e, rely s s' → Prog.Safe (server images) rely may post (f (.error e)) s')
    (hok : ∀ s', rely s s' → Prog.Safe (server images) rely may post (f (.ok ()))
      (s'.setLun (s'.resolve args.controller) args.scsiTargetNum none (by simp))) :
    Prog.Safe (server images) rely may post ((removeVHostSCSITarget args).bind f) s := by
  refine safe_rpc rfl hmay herr fun s' _ s'' hrely hstep => ?_
  obtain rfl := step_remove_ok hstep
  exact hok s' hrely

end Safe

end Client

end Oim.Spdk
