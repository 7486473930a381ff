import Oim.Csi.EndToEnd

/-!
# Asking again for what there is

`ProvisionMallocBDev` turns bytes into blocks by a division that truncates, and compares by
multiplying back.  `createVolume` tests the limit of 1 TiB before it rounds up.  So a size
that was accepted, or handed out, is not always one that can be asked for again.

* `provision_ok` — all that a successful `ProvisionMallocBDev` can have done.
* `provisionMallocBDev_exact_iff` — it is exact, and can be repeated, for multiples of 512
  only.
* `capacity_again_iff` — the capacity of a volume can be requested again, except at the limit
  and for volumes without a name (`Irreproducible`).
-/

namespace Oim.Csi

open Interaction
open Spdk (Client State Disk BDev decodeBDev server ConstructRBDBDevArgs)

variable {images : ConstructRBDBDevArgs → Option UInt64} {v : String} {s s' : State}

/-- A run that fails does not succeed. -/
theorem error_ne_ok {ε α : Type} {e : ε} {a : α}
    (h : ((.error e, s) : Except ε α × State) = (.ok a, s')) : False := by
  cases h

/-! ## ProvisionMallocBDev -/

/-- The BDev that the controller has made for a size. -/
def mallocDisk (v : String) (size : Int64) : Disk :=
  ⟨v, Spdk.mallocProduct, 512, UInt64.ofNat (size / 512).toInt.toNat⟩

section Provision

variable {c : Controller} {size : Int64}

/-- A Malloc BDev is made of at least one block, under the name that it is given or that SPDK
makes up. -/
theorem execMalloc_ok {n : String} (h : Spdk.execMalloc s ⟨size / 512, 512, v⟩ = (.ok n, s')) :
    0 < (size / 512).toInt ∧
      ∃ hnone : (Spdk.mallocName s v).2.bdev? (Spdk.mallocName s v).1 = none,
        s' = (Spdk.mallocName s v).2.addBDev (mallocDisk (Spdk.mallocName s v).1 size) hnone := by
  have hlen : UInt32.ofNat (512 : Int64).toInt.toNat = 512 := by decide
  unfold Spdk.execMalloc at h
  split_ifs at h with hpos
  · simp only [hlen] at h
    exact ⟨hpos.1, Spdk.register_ok h⟩
  · exact (error_ne_ok h).elim

theorem execMalloc_named {n : String} (hne : v ≠ "")
    (h : Spdk.execMalloc s ⟨size / 512, 512, v⟩ = (.ok n, s')) :
    ∃ hnone : s.bdev? v = none, 0 < (size / 512).toInt ∧
      s' = s.addBDev (mallocDisk v size) hnone := by
  obtain ⟨hpos, hnone, rfl⟩ := execMalloc_ok h
  simp only [Spdk.mallocName, if_neg hne] at hnone ⊢
  exact ⟨hnone, hpos, trivial⟩

theorem constructMalloc_ok (hne : v ≠ "")
    (h : (Controller.constructMalloc v size).run (server images) s = (.ok (), s')) :
    ∃ hnone : s.bdev? v = none, 0 < (size / 512).toInt ∧
      s' = s.addBDev (mallocDisk v size) hnone := by
  simp only [Controller.constructMalloc, Prog.bind_eq, Client.run_constructMallocBDev] at h
  cases hexec : Spdk.execMalloc s ⟨size / 512, 512, v⟩ with
  | mk result s₁ =>
    rw [hexec] at h
    cases result with
    | error e => exact (error_ne_ok h).elim
    | ok n =>
      obtain rfl : s₁ = s' := (Prod.mk.inj h).2
      exact execMalloc_named hne hexec

/-- **What success means**: there was no BDev of the name and now there is one, or there was
one and its size, as Go computes it, is the one that was asked for. -/
theorem provision_ok (hsize : size ≠ 0)
    (h : (c.provisionMallocBDev v size).run (server images) s = (.ok (), s')) :
    v ≠ "" ∧ c.connected = true ∧
      ((∃ hnone : s.bdev? v = none, 0 < (size / 512).toInt ∧
          s' = s.addBDev (mallocDisk v size) hnone) ∨
        ∃ d b, s.bdev? v = some d ∧ decodeBDev d = .ok b ∧ b.blockSize * b.numBlocks = size ∧
          s' = s) := by
  cases hcheck : c.checkName "empty BDev name" v with
  | some e =>
    simp only [Controller.provisionMallocBDev, hcheck] at h
    exact (error_ne_ok h).elim
  | none =>
    obtain ⟨hne, hconn⟩ := Controller.checkName_eq_none.1 hcheck
    refine ⟨hne, hconn, ?_⟩
    cases hget : Spdk.getBDevs s v with
    | error e =>
      left
      simp only [Controller.provisionMallocBDev, hcheck, Controller.provisionMallocBDevLocked,
        if_pos hsize, Prog.bind_eq, Client.run_getBDevs, hget] at h
      exact constructMalloc_ok hne h
    | ok bs =>
      right
      obtain ⟨d, b, hd, hb, rfl⟩ := Spdk.getBDevs_ok hne hget
      obtain ⟨e, he⟩ := run_provision_some images hconn hne hget hsize
      rw [he] at h
      split_ifs at h with heq
      · exact ⟨d, b, hd, hb, heq, (Prod.mk.inj h).2.symm⟩
      · exact (error_ne_ok h).elim

theorem bytes_mallocDisk (hpos : 0 < (size / 512).toInt) :
    ((mallocDisk v size).bytes : ℤ) = 512 * size.toInt.tdiv 512 := by
  have hlen : (mallocDisk v size).blocklen = UInt32.ofNat (512 : Int64).toInt.toNat := by
    show (512 : UInt32) = _
    decide
  rw [bytes_of_construct hlen rfl hpos, toInt_div_512]

/-- The division loses what is not a whole block. -/
theorem bytes_mallocDisk_eq_iff (hpos : 0 < (size / 512).toInt) :
    ((mallocDisk v size).bytes : ℤ) = size.toInt ↔ 512 ∣ size.toInt := by
  rw [toInt_div_512, tdiv_512] at hpos
  rw [bytes_mallocDisk (by rwa [toInt_div_512, tdiv_512]), tdiv_512]
  split_ifs at hpos ⊢ <;> omega

/-- The size that was made is read back as it is. -/
theorem getBDevs_mallocDisk (hne : v ≠ "") (hpos : 0 < (size / 512).toInt)
    (hd : s.bdev? v = some (mallocDisk v size)) :
    ∃ b, Spdk.getBDevs s v = .ok [b] ∧
      (b.blockSize * b.numBlocks).toInt = (mallocDisk v size).bytes := by
  have hbytes : ((mallocDisk v size).bytes : ℤ) = _ := bytes_mallocDisk hpos
  have hmax := size.toInt_lt
  have hcnt : (mallocDisk v size).blockcnt.toNat ≤ (mallocDisk v size).bytes := by
    rw [Disk.bytes, show (mallocDisk v size).blocklen.toNat = 512 from rfl]
    omega
  rw [toInt_div_512, tdiv_512] at hpos
  rw [tdiv_512] at hbytes
  split_ifs at hpos hbytes with hsign
  · exact getBDevs_sized hne hd (by omega) (by omega)
  · omega

end Provision

/-- **ProvisionMallocBDev is exact and idempotent for multiples of 512 only.**  When it has
succeeded, there is a BDev of exactly that size and the same call succeeds again and changes
nothing, if and only if the size of the new BDev did not have to be cut off, or the one that
was there has that size also without wrapping around. -/
theorem provisionMallocBDev_exact_iff (images : ConstructRBDBDevArgs → Option UInt64)
    (c : Controller) (v : String) (size : Int64) (s s' : State) (hsize : size ≠ 0)
    (hrun : (c.provisionMallocBDev v size).run (server images) s = (.ok (), s')) :
    ((∃ d, s'.bdev? v = some d ∧ (d.bytes : ℤ) = size.toInt) ∧
      (c.provisionMallocBDev v size).run (server images) s' = (.ok (), s')) ↔
    (s.bdev? v = none → 512 ∣ size.toInt) ∧
      ∀ d, s.bdev? v = some d → (d.bytes : ℤ) = size.toInt := by
  obtain ⟨hne, hconn, ⟨hnone, hpos, rfl⟩ | ⟨d, b, hd, hb, heq, rfl⟩⟩ := provision_ok hsize hrun
  · have hnew : (s.addBDev (mallocDisk v size) hnone).bdev? v = some (mallocDisk v size) :=
      (State.bdev?_addBDev s (mallocDisk v size) hnone v).trans (if_pos rfl)
    rw [hnew, ← bytes_mallocDisk_eq_iff hpos]
    obtain ⟨b, hget, hbytes⟩ := getBDevs_mallocDisk hne hpos hnew
    obtain ⟨e, he⟩ := run_provision_some images hconn hne hget hsize
    constructor
    · rintro ⟨⟨d, hd, hexact⟩, -⟩
      obtain rfl := Option.some_inj.1 hd
      exact ⟨fun _ => hexact, fun d hd => nomatch hnone.symm.trans hd⟩
    · rintro ⟨hexact, -⟩
      refine ⟨⟨_, rfl, hexact hnone⟩, ?_⟩
      have hsame : b.blockSize * b.numBlocks = size := by
        rw [← Int64.toInt_inj, hbytes, hexact hnone]
      rw [he, if_pos hsame]
  · constructor
    · rintro ⟨⟨d', hd', hexact⟩, -⟩
      refine ⟨fun hnone => (nomatch hd.symm.trans hnone), fun d'' hd'' => ?_⟩
      obtain rfl := Option.some_inj.1 (hd'.symm.trans hd'')
      exact hexact
    · rintro ⟨-, hexact⟩
      exact ⟨⟨d, hd, hexact d hd⟩, hrun⟩

/-- One mebibyte, on a daemon without BDevs. -/
theorem provisionMallocBDev_exact_mib :
    ∃ s', (Controller.configured.provisionMallocBDev "vol" 1048576).run (server fun _ => none)
        (State.fresh "vhost.0") = (.ok (), s') ∧
      (∃ d, s'.bdev? "vol" = some d ∧ (d.bytes : ℤ) = 1048576) ∧
      (Controller.configured.provisionMallocBDev "vol" 1048576).run (server fun _ => none) s' =
        (.ok (), s') :=
  ⟨_, rfl, (provisionMallocBDev_exact_iff (fun _ => none) Controller.configured "vol" 1048576
    (State.fresh "vhost.0") _ (by decide) rfl).2 ⟨fun _ => by decide, fun _ h => nomatch h⟩⟩

/-- 1000 bytes: one block is made, and asking again fails. -/
theorem provisionMallocBDev_truncates :
    ∃ s' e, (Controller.configured.provisionMallocBDev "vol" 1000).run (server fun _ => none)
        (State.fresh "vhost.0") = (.ok (), s') ∧
      (∃ d, s'.bdev? "vol" = some d ∧ d.bytes = 512) ∧
      (Controller.configured.provisionMallocBDev "vol" 1000).run (server fun _ => none) s' =
        (.error e, s') :=
  ⟨_, _, rfl, ⟨_, rfl, rfl⟩, rfl⟩

/-! ## createVolume -/

/-- `createVolume` succeeds. -/
def Accepts (images : ConstructRBDBDevArgs → Option UInt64) (b : Backend) (v : String) (r : Int64)
    (s : State) : Prop :=
  ∃ c s', (b.createVolume v r).run (server images) s = (.ok c, s')

/-- The capacity that a call in state `s` has returned can be requested again, and if the name
was fresh, so could have been everything below it. -/
def Reproducible (images : ConstructRBDBDevArgs → Option UInt64) (b : Backend) (v : String)
    (r c : Int64) (s s' : State) : Prop :=
  (b.createVolume v c).run (server images) s' = (.ok c, s') ∧
  (s.bdev? v = none →
    (∀ r', 0 ≤ r'.toInt → r'.toInt ≤ r.toInt → Accepts images b v r' s) ∧
    (∀ r', 0 ≤ r'.toInt → r'.toInt ≤ c.toInt → Accepts images b v r' s))

/-- The volume has no name, and is not the only BDev, so another one is made; or the request is
rounded up to the limit, which is no longer accepted. -/
def Irreproducible : Backend → String → Int64 → State → Prop
  | .localSPDK _, v, r, s =>
    (v = "" ∧ 2 ≤ s.bdevs.length) ∨
      (2 ^ 40 - 512 < r.toInt ∧ s.bdev? v = none ∧ ¬ (v = "" ∧ s.bdevs.length = 1))
  | .remoteSPDK _ _, _, r, _ => 2 ^ 40 - 512 < r.toInt

variable {r c : Int64}

/-! ### Sizes at the limit -/

theorem blocksFor_mul {k : ℤ} (h : 0 < k) : blocksFor (512 * k) = k := by
  unfold blocksFor
  rw [tdiv_512]
  split_ifs <;> omega

theorem blocksFor_lt_limit_iff {r : ℤ} (h₀ : 0 ≤ r) (h : r < 2 ^ 40) :
    512 * blocksFor r < 2 ^ 40 ↔ ¬ 2 ^ 40 - 512 < r := by
  unfold blocksFor
  rw [tdiv_512]
  split_ifs <;> omega

theorem toInt_roundCapacity_lt_iff (h₀ : 0 ≤ r.toInt) (h : r.toInt < 2 ^ 40) :
    (roundCapacity r).toInt < 2 ^ 40 ↔ ¬ 2 ^ 40 - 512 < r.toInt := by
  rw [toInt_roundCapacity h, blocksFor_lt_limit_iff h₀ h]

theorem toInt_roundCapacity_pos (h₀ : 0 ≤ r.toInt) (h : r.toInt < 2 ^ 40) :
    0 < (roundCapacity r).toInt := by
  have hpos := blocksFor_pos_iff.2 h₀
  rw [toInt_roundCapacity h]
  omega

/-- A capacity below the limit is rounded to itself. -/
theorem roundCapacity_idem (h₀ : 0 ≤ r.toInt) (h : r.toInt < 2 ^ 40)
    (hlt : (roundCapacity r).toInt < 2 ^ 40) :
    roundCapacity (roundCapacity r) = roundCapacity r := by
  rw [← Int64.toInt_inj, toInt_roundCapacity hlt, toInt_roundCapacity h,
    blocksFor_mul (blocksFor_pos_iff.2 h₀)]

/-! ### localSPDK -/

theorem constructVolume_ok
    (h : (Local.constructVolume v r).run (server images) s = (.ok c, s')) :
    r.toInt < 2 ^ 40 ∧ c = roundCapacity r ∧
      ∃ n, Spdk.execMalloc s ⟨roundCapacity r / 512, 512, v⟩ = (.ok n, s') := by
  rcases checkCapacity_eq r with ⟨hlt, hc⟩ | ⟨-, e, hc⟩
  · simp only [Local.constructVolume, hc, Prog.bind_eq, Client.run_constructMallocBDev] at h
    cases hexec : Spdk.execMalloc s ⟨roundCapacity r / 512, 512, v⟩ with
    | mk result s₁ =>
      rw [hexec] at h
      cases result with
      | error e => exact (error_ne_ok h).elim
      | ok n =>
        obtain ⟨hok, rfl⟩ := Prod.mk.inj h
        exact ⟨hlt, (Except.ok.inj hok).symm, n, rfl⟩
  · simp only [Local.constructVolume, hc] at h
    exact (error_ne_ok h).elim

/-! What `get_bdevs` returns without a name. -/

theorem mapM_cases {α β ε : Type} (f : α → Except ε β) (l : List α) :
    (∃ bs, l.mapM f = .ok bs ∧ bs.length = l.length) ∨
      ∃ e a, l.mapM f = .error e ∧ a ∈ l ∧ f a = .error e := by
  induction l with
  | nil => exact .inl ⟨[], rfl, rfl⟩
  | cons a l ih =>
    rw [List.mapM_cons]
    cases ha : f a with
    | error e => exact .inr ⟨e, a, rfl, List.mem_cons_self, ha⟩
    | ok b =>
      rcases ih with ⟨bs, hbs, hlen⟩ | ⟨e, a', he, hmem, ha'⟩
      · rw [hbs]
        exact .inl ⟨b :: bs, rfl, congrArg (· + 1) hlen⟩
      · rw [he]
        exact .inr ⟨e, a', rfl, List.mem_cons_of_mem _ hmem, ha'⟩

/-- A BDev that cannot be decoded is no error of SPDK. -/
theorem isJSONError_decodeBDev {d : Disk} {e : String} (h : decodeBDev d = .error e) (code : ℤ) :
    Spdk.isJSONError e code = false := by
  unfold decodeBDev at h
  split_ifs at h
  obtain rfl := Except.error.inj h
  rw [String.append_assoc]
  have hmatch : ∀ text : String,
      Spdk.matchJSONError ("reading body json: cannot unmarshal number " ++ text) = none := by
    intro text
    simp [Spdk.matchJSONError, Spdk.jsonError, Pattern.lits, Pattern.matchAt]
  rw [Spdk.isJSONError, hmatch]

theorem getBDevs_unnamed (s : State) :
    (∃ bs, Spdk.getBDevs s "" = .ok bs ∧ bs.length = s.bdevs.length) ∨
      ∃ e, Spdk.getBDevs s "" = .error e ∧
        Spdk.isJSONError e Spdk.errorInvalidParams = false := by
  rcases mapM_cases decodeBDev s.bdevs with h | ⟨e, d, he, -, hd⟩
  · exact .inl h
  · exact .inr ⟨e, he, isJSONError_decodeBDev hd _⟩

theorem length_of_getBDevs_unnamed {bs : List BDev} (h : Spdk.getBDevs s "" = .ok bs) :
    bs.length = s.bdevs.length := by
  rcases getBDevs_unnamed s with ⟨bs', hok, hlen⟩ | ⟨e, he, -⟩
  · obtain rfl := Except.ok.inj (h.symm.trans hok)
    exact hlen
  · exact nomatch h.symm.trans he

/-- What success means: the BDev that is found is large enough, or none is and a new one is
made. -/
theorem local_ok (h : (Local.createVolume v r).run (server images) s = (.ok c, s')) :
    (∃ b, Spdk.getBDevs s v = .ok [b] ∧ r ≤ c ∧ c = b.blockSize * b.numBlocks ∧ s' = s) ∨
      ((v = "" → s.bdevs.length ≠ 1) ∧
        (Local.constructVolume v r).run (server images) s = (.ok c, s')) := by
  by_cases hfound : ∃ b, Spdk.getBDevs s v = .ok [b]
  · obtain ⟨b, hget⟩ := hfound
    obtain ⟨e, he⟩ := run_local_found images r hget
    rw [he] at h
    split_ifs at h with hle
    · obtain ⟨hok, rfl⟩ := Prod.mk.inj h
      obtain rfl := Except.ok.inj hok
      exact .inl ⟨b, hget, hle, rfl, rfl⟩
    · exact (error_ne_ok h).elim
  · have hmany : ∀ bs, Spdk.getBDevs s v = .ok bs → bs.length ≠ 1 := by
      rintro bs hget hone
      obtain ⟨b, rfl⟩ := List.length_eq_one_iff.1 hone
      exact hfound ⟨b, hget⟩
    simp only [Local.createVolume, Prog.bind_eq, Client.run_getBDevs] at h
    cases hget : Spdk.getBDevs s v with
    | error e =>
      rw [hget] at h
      simp only at h
      split_ifs at h with hjson
      · exact (error_ne_ok h).elim
      · refine .inr ⟨?_, h⟩
        rintro rfl
        rcases getBDevs_unnamed s with ⟨bs, hok, -⟩ | ⟨e', he', hjson'⟩
        · rw [hget] at hok
          cases hok
        · obtain rfl : e = e' := Except.error.inj (hget.symm.trans he')
          exact absurd hjson' hjson
    | ok bs =>
      have hlen : v = "" → s.bdevs.length ≠ 1 := by
        rintro rfl
        rw [← length_of_getBDevs_unnamed hget]
        exact hmany bs hget
      rw [hget] at h
      rcases bs with _ | ⟨b, _ | ⟨b', bs⟩⟩
      · exact .inr ⟨hlen, h⟩
      · exact absurd rfl (hmany _ hget)
      · exact .inr ⟨hlen, h⟩

/-! ### Volumes without a name -/

/-- SPDK makes up a name, and there is one more BDev. -/
theorem execMalloc_unnamed {n : String} {size : Int64}
    (h : Spdk.execMalloc s ⟨size / 512, 512, ""⟩ = (.ok n, s')) :
    s'.bdevs = s.bdevs ++ [mallocDisk (Spdk.mallocName s "").1 size] := by
  obtain ⟨-, hnone, rfl⟩ := execMalloc_ok h
  rfl

/-- If there is more than one BDev, a request without a name makes another one each time. -/
theorem unnamed_not_repeated (hlen : 2 ≤ s.bdevs.length)
    (h : (Local.createVolume "" r).run (server images) s = (.ok c, s')) :
    s'.bdevs.length = s.bdevs.length + 1 := by
  rcases local_ok h with ⟨b, hget, -⟩ | ⟨-, hconstruct⟩
  · have := length_of_getBDevs_unnamed hget
    rw [List.length_singleton] at this
    omega
  · obtain ⟨-, -, n, hexec⟩ := constructVolume_ok hconstruct
    rw [execMalloc_unnamed hexec, List.length_append, List.length_singleton]

variable (images) in
/-- Without any BDev, a request without a name makes one that is then found. -/
theorem run_unnamed_first (hempty : s.bdevs = []) (h₀ : 0 ≤ r.toInt) (h : r.toInt < 2 ^ 40) :
    ∃ s' b, (Local.createVolume "" r).run (server images) s = (.ok (roundCapacity r), s') ∧
      Spdk.getBDevs s' "" = .ok [b] ∧ b.blockSize * b.numBlocks = roundCapacity r := by
  have hnone : (Spdk.mallocName s "").2.bdev? (Spdk.mallocName s "").1 = none := by
    simp [State.bdev?, Spdk.mallocName, hempty]
  have hget : Spdk.getBDevs s "" = .ok [] := by
    rw [Spdk.getBDevs, if_pos rfl, hempty]
    rfl
  obtain ⟨-, hcnt, hle⟩ := wellSized_newDisk (v := (Spdk.mallocName s "").1) h₀ h
  obtain ⟨b, hb⟩ : ∃ b, decodeBDev (newDisk (Spdk.mallocName s "").1 r) = .ok b :=
    ⟨_, if_pos (by omega)⟩
  refine ⟨(Spdk.mallocName s "").2.addBDev (newDisk _ r) hnone, b, ?_, ?_, ?_⟩
  · rcases checkCapacity_eq r with ⟨-, hc⟩ | ⟨hge, -⟩
    · simp only [Local.createVolume, Prog.bind_eq, Client.run_getBDevs, hget, Local.constructVolume,
        hc, Client.run_constructMallocBDev, execMalloc_mallocName hnone h₀ h]
      rfl
    · omega
  · have hbdevs : ((Spdk.mallocName s "").2.addBDev (newDisk _ r) hnone).bdevs =
        [newDisk (Spdk.mallocName s "").1 r] := by
      show s.bdevs ++ _ = _
      rw [hempty]
      rfl
    rw [Spdk.getBDevs, if_pos rfl, hbdevs, List.mapM_cons, hb]
    rfl
  · have hbytes := toInt_roundCapacity h
    have hle' := blocksFor_le h
    have hpos := blocksFor_pos_iff.2 h₀
    rw [← Int64.toInt_inj, toInt_size hb, bytes_newDisk h₀ h, hbytes,
      bmod_of_range (by omega) (by omega)]

/-! ### Fresh names -/

section Fresh

variable {b : Backend}

theorem accepts_named_iff (hb : b.Works) (hne : v ≠ "") (hnone : s.bdev? v = none)
    (h₀ : 0 ≤ r.toInt) : Accepts images b v r s ↔ r.toInt < 2 ^ 40 := by
  constructor
  · rintro ⟨c, s', hrun⟩
    by_contra hge
    have hcap := (run_createVolume_large images hb hne hnone (not_lt.1 hge)).2
    rw [hrun] at hcap
    exact nomatch hcap
  · intro h
    exact ⟨_, _, run_createVolume_none hb hne hnone h₀ h⟩

theorem accepts_unnamed_iff (hempty : s.bdevs = []) (h₀ : 0 ≤ r.toInt) :
    Accepts images (.localSPDK none) "" r s ↔ r.toInt < 2 ^ 40 := by
  constructor
  · rintro ⟨c, s', hrun⟩
    rcases local_ok hrun with ⟨b, hget, -⟩ | ⟨-, hconstruct⟩
    · have := length_of_getBDevs_unnamed hget
      rw [hempty] at this
      exact nomatch this
    · exact (constructVolume_ok hconstruct).1
  · intro h
    obtain ⟨s', -, hrun, -⟩ := run_unnamed_first images hempty h₀ h
    exact ⟨_, s', hrun⟩

/-- All sizes below the limit are accepted for a fresh name, so what remains is whether the
capacity is below the limit. -/
theorem reproducible_fresh_iff (hnone : s.bdev? v = none) (h₀ : 0 ≤ r.toInt)
    (h : r.toInt < 2 ^ 40)
    (haccepts : ∀ r', 0 ≤ r'.toInt → (Accepts images b v r' s ↔ r'.toInt < 2 ^ 40))
    (hagain : (roundCapacity r).toInt < 2 ^ 40 →
      (b.createVolume v (roundCapacity r)).run (server images) s' = (.ok (roundCapacity r), s')) :
    Reproducible images b v r (roundCapacity r) s s' ↔ ¬ 2 ^ 40 - 512 < r.toInt := by
  have hpos := toInt_roundCapacity_pos h₀ h
  rw [← toInt_roundCapacity_lt_iff h₀ h]
  constructor
  · rintro ⟨-, hfresh⟩
    exact (haccepts _ hpos.le).1 ((hfresh hnone).2 _ hpos.le le_rfl)
  · intro hlt
    refine ⟨hagain hlt, fun _ => ⟨fun r' h' hle => ?_, fun r' h' hle => ?_⟩⟩
    · exact (haccepts r' h').2 (hle.trans_lt h)
    · exact (haccepts r' h').2 (hle.trans_lt hlt)

variable (images) in
/-- The BDev that was made for a request is taken for its size. -/
theorem run_newDisk_again (hb : b.Works) (hne : v ≠ "") (hnone : s.bdev? v = none)
    (h₀ : 0 ≤ r.toInt) (h : r.toInt < 2 ^ 40) (hlt : (roundCapacity r).toInt < 2 ^ 40) :
    (b.createVolume v (roundCapacity r)).run (server images) (s.addBDev (newDisk v r) hnone) =
      (.ok (roundCapacity r), s.addBDev (newDisk v r) hnone) := by
  have hd : (s.addBDev (newDisk v r) hnone).bdev? v = some (newDisk v r) :=
    (bdev?_newDisk hnone v).trans (if_pos rfl)
  have hbytes : ((newDisk v r).bytes : ℤ) = (roundCapacity r).toInt := by
    rw [bytes_newDisk h₀ h, toInt_roundCapacity h]
  obtain ⟨hstate, hcap⟩ := run_createVolume_some images hb hne hd (wellSized_newDisk h₀ h)
    (toInt_roundCapacity_pos h₀ h).le
  have hreuses : b.reuses ((newDisk v r).bytes : ℤ) (roundCapacity r).toInt = true := by
    rw [hbytes]
    cases b with
    | localSPDK => exact decide_eq_true le_rfl
    | remoteSPDK =>
      refine decide_eq_true ⟨hlt, ?_⟩
      rw [toInt_roundCapacity h, blocksFor_mul (blocksFor_pos_iff.2 h₀)]
  rw [hreuses, if_pos rfl, hbytes] at hcap
  exact Prod.ext (ok_of_capacity hcap) hstate

end Fresh

/-! ### Existing volumes -/

theorem remote_ok {ctrl : Controller}
    (h : (Remote.createVolume .up ctrl v r).run (server images) s = (.ok c, s')) :
    r.toInt < 2 ^ 40 ∧ c = roundCapacity r ∧
      (ctrl.provisionMallocBDev v (roundCapacity r)).run (server images) s = (.ok (), s') := by
  rcases checkCapacity_eq r with ⟨hlt, hc⟩ | ⟨-, e, hc⟩
  · simp only [Remote.createVolume, hc, Remote.provision, Link.call, Prog.bind_eq,
      Prog.run_bind] at h
    cases hrun : (ctrl.provisionMallocBDev v (roundCapacity r)).run (server images) s with
    | mk result s₁ =>
      rw [hrun] at h
      cases result with
      | error e => exact (error_ne_ok h).elim
      | ok u =>
        obtain ⟨hok, rfl⟩ := Prod.mk.inj h
        exact ⟨hlt, (Except.ok.inj hok).symm, rfl⟩
  · simp only [Remote.createVolume, hc] at h
    exact (error_ne_ok h).elim

variable (images) in
/-- The local backend takes any BDev that is large enough, for its whole size as well. -/
theorem reproducible_local_found {b : BDev} (hget : Spdk.getBDevs s v = .ok [b])
    (hle : r ≤ b.blockSize * b.numBlocks) :
    Reproducible images (.localSPDK none) v r (b.blockSize * b.numBlocks) s s := by
  have hfound : ∀ r' : Int64, r' ≤ b.blockSize * b.numBlocks →
      ((Backend.localSPDK none).createVolume v r').run (server images) s =
        (.ok (b.blockSize * b.numBlocks), s) := by
    intro r' h'
    obtain ⟨e, he⟩ := run_local_found images r' hget
    rw [if_pos h'] at he
    exact he
  refine ⟨hfound _ (Int64.le_refl _), fun _ => ⟨fun r' _ h' => ⟨_, _, hfound r' ?_⟩,
    fun r' _ h' => ⟨_, _, hfound r' ?_⟩⟩⟩
  · exact Int64.le_trans (Int64.le_iff_toInt_le.2 h') hle
  · exact Int64.le_iff_toInt_le.2 h'

/-- The remote backend takes it for the size that it is rounded to, unless that is the limit. -/
theorem reproducible_remote_found {ctrl : Controller} (hconn : ctrl.connected = true)
    (hne : v ≠ "") {d : Disk} (hd : s.bdev? v = some d) {b : BDev}
    (hget : Spdk.getBDevs s v = .ok [b]) (h₀ : 0 ≤ r.toInt) (h : r.toInt < 2 ^ 40)
    (hsize : b.blockSize * b.numBlocks = roundCapacity r) :
    Reproducible images (.remoteSPDK .up ctrl) v r (roundCapacity r) s s ↔
      ¬ 2 ^ 40 - 512 < r.toInt := by
  rw [← toInt_roundCapacity_lt_iff h₀ h]
  constructor
  · rintro ⟨hagain, -⟩
    exact (remote_ok hagain).1
  · intro hlt
    refine ⟨?_, fun hnone => nomatch hd.symm.trans hnone⟩
    obtain ⟨e, he⟩ : ∃ e, (Remote.createVolume .up ctrl v (roundCapacity r)).run (server images) s =
        _ := run_remote_found images hconn hne hget (toInt_roundCapacity_pos h₀ h).le hlt
    rw [roundCapacity_idem h₀ h hlt, if_pos hsize] at he
    exact he

/-- A request without a name, for which a BDev is made. -/
theorem reproducible_unnamed_iff (h₀ : 0 ≤ r.toInt) (h : r.toInt < 2 ^ 40)
    (hone : s.bdevs.length ≠ 1)
    (hrun : (Local.createVolume "" r).run (server images) s = (.ok (roundCapacity r), s')) :
    Reproducible images (.localSPDK none) "" r (roundCapacity r) s s' ↔
      ¬ Irreproducible (.localSPDK none) "" r s := by
  rcases Nat.lt_or_ge s.bdevs.length 2 with hfew | hmany
  · have hempty : s.bdevs = [] := List.length_eq_zero_iff.1 (by omega)
    have hnone : s.bdev? "" = none := by simp [State.bdev?, hempty]
    have hirr : Irreproducible (.localSPDK none) "" r s ↔ 2 ^ 40 - 512 < r.toInt := by
      simp [Irreproducible, hempty, hnone]
    obtain ⟨s₁, bdev, hrun₁, hget, hsize⟩ := run_unnamed_first images hempty h₀ h
    obtain rfl : s₁ = s' := (Prod.mk.inj (hrun₁.symm.trans hrun)).2
    rw [hirr]
    refine reproducible_fresh_iff hnone h₀ h (fun r' h' => accepts_unnamed_iff hempty h')
      fun _ => ?_
    have hagain := (reproducible_local_found images hget (Int64.le_refl _)).1
    rwa [hsize] at hagain
  · refine iff_of_false ?_ (not_not.2 (.inl ⟨rfl, hmany⟩))
    rintro ⟨hagain, -⟩
    have h₁ := unnamed_not_repeated hmany hrun
    have h₂ := unnamed_not_repeated (by omega) hagain
    omega

/-! ### All requests -/

theorem irreproducible_named_fresh_iff {b : Backend} (hne : v ≠ "") (hnone : s.bdev? v = none) :
    Irreproducible b v r s ↔ 2 ^ 40 - 512 < r.toInt := by
  cases b with
  | localSPDK => simp [Irreproducible, hne, hnone]
  | remoteSPDK => rfl

theorem not_irreproducible_found {connectErr : Option String} {b : BDev}
    (hget : Spdk.getBDevs s v = .ok [b]) : ¬ Irreproducible (.localSPDK connectErr) v r s := by
  by_cases hne : v = ""
  · subst hne
    have hone : s.bdevs.length = 1 := (length_of_getBDevs_unnamed hget).symm
    simp [Irreproducible, hone]
  · obtain ⟨d, -, hd, -⟩ := Spdk.getBDevs_ok hne hget
    simp [Irreproducible, hne, hd]

/-- **The reported capacity can be requested again**, except at the limit and without a
name. -/
theorem capacity_again_iff (images : ConstructRBDBDevArgs → Option UInt64) (b : Backend)
    (hb : b.Works) (v : String) (r c : Int64) (h₀ : 0 ≤ r.toInt) (s s' : State)
    (hrun : (b.createVolume v r).run (server images) s = (.ok c, s')) :
    Reproducible images b v r c s s' ↔ ¬ Irreproducible b v r s := by
  by_cases hfresh : v ≠ "" ∧ s.bdev? v = none
  · obtain ⟨hne, hnone⟩ := hfresh
    have hlt := (accepts_named_iff hb hne hnone h₀).1 ⟨c, s', hrun⟩
    rw [run_createVolume_none hb hne hnone h₀ hlt] at hrun
    obtain ⟨hc, rfl⟩ := Prod.mk.inj hrun
    obtain rfl := Except.ok.inj hc
    rw [irreproducible_named_fresh_iff hne hnone]
    exact reproducible_fresh_iff hnone h₀ hlt (fun r' h' => accepts_named_iff hb hne hnone h')
      (run_newDisk_again images hb hne hnone h₀ hlt)
  cases b with
  | remoteSPDK link ctrl =>
    obtain ⟨rfl, hconn⟩ := hb
    obtain ⟨hlt, rfl, hprovision⟩ := remote_ok hrun
    obtain ⟨hne, -, ⟨hnone, -⟩ | ⟨d, bdev, hd, hdecode, hsize, rfl⟩⟩ :=
      provision_ok (roundCapacity_ne_zero h₀ hlt) hprovision
    · exact absurd ⟨hne, hnone⟩ hfresh
    · exact reproducible_remote_found hconn hne hd (Spdk.getBDevs_some hne hd hdecode) h₀ hlt hsize
  | localSPDK connectErr =>
    obtain rfl : connectErr = none := hb
    rcases local_ok hrun with ⟨bdev, hget, hle, rfl, rfl⟩ | ⟨hlen, hconstruct⟩
    · exact iff_of_true (reproducible_local_found images hget hle) (not_irreproducible_found hget)
    · obtain ⟨hlt, rfl, n, hexec⟩ := constructVolume_ok hconstruct
      -- a named volume that is made is a fresh one
      obtain rfl : v = "" := by
        by_contra hne
        obtain ⟨hnone, -⟩ := execMalloc_named hne hexec
        exact hfresh ⟨hne, hnone⟩
      exact reproducible_unnamed_iff h₀ hlt (hlen rfl) hrun

/-- 1000 bytes through the controller: 1024 bytes are returned, and can be asked for. -/
theorem capacity_again_vol :
    ∃ c s', ((Backend.remoteSPDK .up Controller.configured).createVolume "vol" 1000).run
        (server fun _ => none) (State.fresh "vhost.0") = (.ok c, s') ∧
      Reproducible (fun _ => none) (.remoteSPDK .up Controller.configured) "vol" 1000 c
        (State.fresh "vhost.0") s' :=
  ⟨_, _, rfl, (capacity_again_iff (fun _ => none) (.remoteSPDK .up Controller.configured)
    ⟨rfl, rfl⟩ "vol" 1000 _ (by decide) (State.fresh "vhost.0") _ rfl).2
    (show ¬ 2 ^ 40 - 512 < (1000 : Int64).toInt by decide)⟩

/-- One byte less than 1 TiB: the volume has 1 TiB, and asking for that fails. -/
theorem capacity_at_limit_refused :
    ∃ s' e, ((Backend.remoteSPDK .up Controller.configured).createVolume "vol" 1099511627775).run
        (server fun _ => none) (State.fresh "vhost.0") = (.ok 1099511627776, s') ∧
      ((Backend.remoteSPDK .up Controller.configured).createVolume "vol" 1099511627776).run
        (server fun _ => none) s' = (.error e, s') :=
  ⟨_, _, rfl, rfl⟩

end Oim.Csi
