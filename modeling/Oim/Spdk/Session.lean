import Oim.Spdk.Rpc

/-!
# The connection to SPDK

A client (`pkg/spdk/client.go`) makes all of its requests through one connection.  A reply that it
cannot decode costs more than the call that it belongs to: `net/rpc` stops reading then, and every
later call fails with `ErrShutdown`.  Among the replies that OIM asks for, those of `get_bdevs` can
be of that kind, when a number of blocks does not fit into an `int64`.

* `Session` — SPDK and the connection; `session` — SPDK as the client gets to see it.
* `Counted` — all numbers of blocks fit; `Counted.exec` — which requests keep it so.
* `run_session` — as long as they fit, nothing gets between the client and the daemon.
-/

namespace Oim.Spdk

open Interaction

variable {images : ConstructRBDBDevArgs → Option UInt64} {s : State}

/-! ## A connection that can be lost -/

/-- SPDK, and whether the connection to it is still in use. -/
structure Session where
  spdk : State
  up : Bool

/-- A new connection. -/
def Session.connect (s : State) : Session := ⟨s, true⟩

/-- Can the client decode what SPDK reports? -/
def Rpc.legible : Rpc → State → Bool
  | .getBDevs name, s =>
    if name = "" then s.bdevs.all fun d => d.blockcnt.toNat < 2 ^ 63
    else (s.bdev? name).all fun d => d.blockcnt.toNat < 2 ^ 63
  | _, _ => true

/-- A request by way of the connection.  The error for a reply that cannot be decoded is part of
`getBDevs`. -/
def Session.exec (images : ConstructRBDBDevArgs → Option UInt64) (q : Rpc) (σ : Session) :
    q.Reply × Session :=
  if σ.up then
    ((Spdk.exec images q σ.spdk).1, ⟨(Spdk.exec images q σ.spdk).2, q.legible σ.spdk⟩)
  else ((Except.error "connection is shut down" : Except String q.Result), σ)

/-- The daemon as it is seen through the connection. -/
def session (images : ConstructRBDBDevArgs → Option UInt64) : Server Rpc Rpc.Reply Session where
  exec := Session.exec images
  Fault q r := ∃ e : String, r = (Except.error e : Except String q.Result)

/-! ## Numbers of blocks -/

/-- The numbers of blocks fit into an `int64`. -/
def Counted (s : State) : Prop := ∀ d ∈ s.bdevs, d.blockcnt.toNat < 2 ^ 63

instance : DecidablePred Counted :=
  fun s => inferInstanceAs (Decidable (∀ d ∈ s.bdevs, d.blockcnt.toNat < 2 ^ 63))

theorem Counted.legible (h : Counted s) (q : Rpc) : q.legible s = true := by
  cases q with
  | getBDevs name =>
    simp only [Rpc.legible]
    split_ifs with hname
    · simpa using fun d hd => h d hd
    · cases hd : s.bdev? name with
      | none => rfl
      | some d => simpa using h d (List.mem_of_find?_eq_some hd)
  | _ => rfl

theorem Counted.register (h : Counted s) {d : Disk} (hd : d.blockcnt.toNat < 2 ^ 63) :
    Counted (Spdk.register s d).2 := by
  unfold Spdk.register
  split
  · intro d' hd'
    rcases List.mem_append.1 hd' with hd' | hd'
    · exact h d' hd'
    · rw [List.mem_singleton.1 hd']
      exact hd
  · exact h

theorem Counted.mallocName (h : Counted s) (name : String) :
    Counted (Spdk.mallocName s name).2 := by
  unfold Spdk.mallocName
  split
  · exact h
  · exact h

/-- What is behind the targets does not matter for it. -/
theorem bdevs_execAdd (s : State) (args : AddVHostSCSILUNArgs) :
    (execAdd s args).2.bdevs = s.bdevs := by
  unfold execAdd
  dsimp only
  split
  · rfl
  · split_ifs <;> rfl

theorem bdevs_execRemove (s : State) (args : RemoveVHostSCSITargetArgs) :
    (execRemove s args).2.bdevs = s.bdevs := by
  unfold execRemove
  dsimp only
  split
  · rfl
  · split_ifs <;> rfl

/-- Every request keeps it, unless it opens an image with too many blocks. -/
theorem Counted.exec (h : Counted s) (q : Rpc)
    (hrbd : ∀ args size, q = .constructRBDBDev args → images args = some size →
      (size / (UInt32.ofNat args.blockSize.toInt.toNat).toUInt64).toNat < 2 ^ 63) :
    Counted (Spdk.exec images q s).2 := by
  cases q with
  | getBDevs name => exact h
  | deleteBDev name =>
    change Counted (execDelete s name).2
    unfold execDelete
    split
    · exact h
    · exact fun d hd => h d (List.mem_of_mem_filter hd)
  | constructMallocBDev args =>
    change Counted (execMalloc s args).2
    unfold execMalloc
    split
    · refine (h.mallocName args.name).register ?_
      have hlt := args.numBlocks.toInt_lt
      change (UInt64.ofNat args.numBlocks.toInt.toNat).toNat < 2 ^ 63
      have hsize : args.numBlocks.toInt.toNat < 2 ^ 64 := by omega
      rw [UInt64.toNat_ofNat_of_lt' hsize]
      omega
    · exact h
  | constructRBDBDev args =>
    change Counted (execRBD images s args).2
    unfold execRBD
    cases himage : images args with
    | none => exact h
    | some size =>
      dsimp only
      split
      · exact h.register (hrbd args size rfl himage)
      · exact h
  | addVHostSCSILUN args => exact fun d hd => h d (bdevs_execAdd s args ▸ hd)
  | removeVHostSCSITarget args => exact fun d hd => h d (bdevs_execRemove s args ▸ hd)
  | getVHostControllers => exact h

/-! ## A connection that is not lost -/

theorem exec_connect (h : Counted s) (q : Rpc) :
    Session.exec images q (.connect s) =
      ((Spdk.exec images q s).1, .connect (Spdk.exec images q s).2) := by
  simp only [Session.exec, Session.connect, if_true, h.legible q]

/-- **A program whose requests keep the numbers of blocks small** does the same by way of the
connection as on the daemon itself, and the connection stays. -/
theorem run_session {α : Type} {rely : State → State → Prop} (hrefl : ∀ s, rely s s)
    {may : State → Rpc → Prop} {post : α → State → Prop}
    (hkeep : ∀ q s, may s q → Counted s → Counted (Spdk.exec images q s).2)
    {p : Prog Rpc Rpc.Reply α} (hp : Prog.Safe (server images) rely may post p s)
    (hs : Counted s) :
    p.run (session images) (.connect s) =
        ((p.run (server images) s).1, .connect (p.run (server images) s).2) ∧
      Counted (p.run (server images) s).2 := by
  have hexec : ∀ q t σ, may t q → (σ = Session.connect t ∧ Counted t) →
      ((session images).exec q σ).1 = ((server images).exec q t).1 ∧
        (((session images).exec q σ).2 = .connect ((server images).exec q t).2 ∧
          Counted ((server images).exec q t).2) := by
    rintro q t _ hmay ⟨rfl, ht⟩
    have heq : (session images).exec q (.connect t) = _ := exec_connect ht q
    rw [heq]
    exact ⟨rfl, rfl, hkeep q t hmay ht⟩
  obtain ⟨hreply, hstate, hcounted⟩ := hp.run_simulated hrefl hexec ⟨rfl, hs⟩
  exact ⟨Prod.ext hreply hstate, hcounted⟩

end Oim.Spdk
