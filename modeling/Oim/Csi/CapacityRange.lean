import Oim.Csi.Capacity

/-!
# The capacity range of a request

A `CreateVolumeRequest` has a least and a largest size.  `CreateVolume` of both driver versions
looks at the first one only, and what it returns for an existing BDev is a product of two
`int64` values.

* `Granted` — the capacity that can be returned for a request, and the size of the BDev behind
  it; `ensures_granted` — nothing else is ever returned, whatever fails.
* `capacity_range_honoured_iff` — the range is honoured unless that capacity is above the
  limit, or not the size of the BDev because it has wrapped around.
-/

namespace Oim.Csi

open Interaction
open Spdk (Client State Disk BDev decodeBDev server ConstructRBDBDevArgs)

/-- A request with the upper limit of its capacity range, which is 0 if it is unset. -/
structure RangeRequest extends CreateVolumeRequest where
  limitBytes : Int64

/-- A volume that is returned has the size that the response says, which is in the range. -/
def Honoured (req : RangeRequest) (result : Except Status Volume) (s : State) : Prop :=
  ∀ volume, result = .ok volume →
    (∃ d, s.bdev? req.name = some d ∧ volume.capacityBytes.toInt = d.bytes) ∧
    req.requiredBytes.toInt ≤ volume.capacityBytes.toInt ∧
    (req.limitBytes ≠ 0 → volume.capacityBytes.toInt ≤ req.limitBytes.toInt)

/-- The capacity `c` that a backend returns for a request of `r` bytes, and the size of the
BDev: that of a new one, or of one that is there and can be used. -/
def Granted (b : Backend) (v : String) (r : ℤ) (s : State) (c size : ℤ) : Prop :=
  b.Works ∧
    ((s.bdev? v = none ∧ r < 2 ^ 40 ∧ c = 512 * blocksFor r ∧ size = c) ∨
      ∃ d, s.bdev? v = some d ∧ d.blockcnt.toNat < 2 ^ 63 ∧ c = (d.bytes : ℤ).bmod (2 ^ 64) ∧
        b.reuses c r = true ∧ size = d.bytes)

/-- The capacity is not the size, or above the limit. -/
def Broken (b : Backend) (req : RangeRequest) (s : State) : Prop :=
  ∃ c size, Granted b req.name req.requiredBytes.toInt s c size ∧
    (c ≠ size ∨ (req.limitBytes ≠ 0 ∧ req.limitBytes.toInt < c))

variable {images : ConstructRBDBDevArgs → Option UInt64} {v : String} {r : Int64} {s : State}

/-! ## Nothing else is returned -/

/-- A success is one with a BDev behind it. -/
def Backed (b : Backend) (v : String) (r : ℤ) (s : State) (result : Except Status Int64)
    (s' : State) : Prop :=
  ∀ c, result = .ok c → ∃ d, s'.bdev? v = some d ∧ Granted b v r s c.toInt d.bytes

theorem backed_error {b : Backend} {e : Status} {s' : State} :
    Backed b v r.toInt s (.error e) s' := fun _ h => nomatch h

/-- A BDev that was made for the request. -/
theorem backed_made {b : Backend} (hb : b.Works) {d : Disk} (hd : s.bdev? d.name = none)
    (hname : d.name = v) (hlen : d.blocklen = UInt32.ofNat (512 : Int64).toInt.toNat)
    (hcnt : d.blockcnt = UInt64.ofNat (roundCapacity r / 512).toInt.toNat)
    (hpos : 0 < (roundCapacity r / 512).toInt) (h : r.toInt < 2 ^ 40) :
    Backed b v r.toInt s (.ok (roundCapacity r)) (s.addBDev d hd) := by
  rintro c hc
  obtain rfl := Except.ok.inj hc
  subst hname
  refine ⟨d, ?_, hb, .inl ⟨hd, h, toInt_roundCapacity h, ?_⟩⟩
  · rw [State.bdev?_addBDev, if_pos rfl]
  · rw [bytes_of_construct hlen hcnt hpos, toInt_blocks h, toInt_roundCapacity h]

/-- A BDev that was there. -/
theorem granted_found {b : Backend} (hb : b.Works) {d : Disk} {bdev : BDev}
    (hd : s.bdev? v = some d) (hdecode : decodeBDev d = .ok bdev) {c : ℤ}
    (hc : c = (bdev.blockSize * bdev.numBlocks).toInt) (hreuses : b.reuses c r.toInt = true) :
    Granted b v r.toInt s c d.bytes :=
  ⟨hb, .inr ⟨d, hd, (Spdk.decodeBDev_ok hdecode).1, hc.trans (toInt_size hdecode), hreuses, rfl⟩⟩

theorem ensures_local_granted (hne : v ≠ "") :
    Ensures images (Backed (.localSPDK none) v r.toInt s) (Local.createVolume v r) s := by
  have hb : (Backend.localSPDK none).Works := rfl
  have hconstruct : Ensures images (Backed (.localSPDK none) v r.toInt s)
      (Local.constructVolume v r) s := by
    unfold Local.constructVolume
    rcases checkCapacity_eq r with ⟨hr, hc⟩ | ⟨-, e, hc⟩
    · simp only [hc]
      refine Client.safe_constructMallocBDev hne (fun _ _ => trivial) ?_ ?_
      · rintro _ e rfl
        exact ensures_ret backed_error
      · rintro _ d hd n rfl hname hlen hcnt hpos
        exact ensures_ret (backed_made hb hd hname hlen hcnt hpos hr)
    · simp only [hc]
      exact ensures_ret backed_error
  refine Client.safe_getBDevs (fun _ _ => trivial) ?_ ?_
  · rintro _ e rfl
    show Ensures images _ (if _ then _ else _) _
    split_ifs
    · exact ensures_ret backed_error
    · exact hconstruct
  · rintro s bs rfl hbs
    obtain ⟨d, bdev, hd, hdecode, rfl⟩ := Spdk.getBDevs_ok hne hbs
    show Ensures images _ (if _ then _ else _) _
    split_ifs with hsize
    · refine ensures_ret fun c hc => ⟨d, hd, ?_⟩
      obtain rfl := Except.ok.inj hc
      exact granted_found hb hd hdecode rfl (decide_eq_true (Int64.le_iff_toInt_le.1 hsize))
    · exact ensures_ret backed_error

/-- The controller answers for the size that the driver has rounded to. -/
theorem ensures_provision_granted {c : Controller} (hb : (Backend.remoteSPDK .up c).Works)
    (hne : v ≠ "") (h₀ : 0 ≤ r.toInt) (h : r.toInt < 2 ^ 40) :
    Ensures images (fun result s' => result = .ok () →
        Backed (.remoteSPDK .up c) v r.toInt s (.ok (roundCapacity r)) s')
      (c.provisionMallocBDev v (roundCapacity r)) s := by
  have hconstruct : Ensures images (fun result s' => result = .ok () →
        Backed (.remoteSPDK .up c) v r.toInt s (.ok (roundCapacity r)) s')
      (Controller.constructMalloc v (roundCapacity r)) s := by
    refine Client.safe_constructMallocBDev hne (fun _ _ => trivial) ?_ ?_
    · rintro _ e rfl
      exact ensures_ret (by rintro ⟨⟩)
    · rintro _ d hd n rfl hname hlen hcnt hpos
      exact ensures_ret fun _ => backed_made hb hd hname hlen hcnt hpos h
  unfold Controller.provisionMallocBDev
  rw [Controller.checkName_eq_none.2 ⟨hne, hb.2⟩]
  show Ensures images _ (Controller.provisionMallocBDevLocked v (roundCapacity r)) s
  rw [Controller.provisionMallocBDevLocked, if_pos (roundCapacity_ne_zero h₀ h)]
  refine Client.safe_getBDevs (fun _ _ => trivial) ?_ ?_
  · rintro _ e rfl
    exact hconstruct
  · rintro s bs rfl hbs
    obtain ⟨d, bdev, hd, hdecode, rfl⟩ := Spdk.getBDevs_ok hne hbs
    show Ensures images _ (if _ then _ else _) _
    split_ifs with hsize
    · exact ensures_ret (by rintro ⟨⟩)
    · refine ensures_ret fun _ c' hc' => ⟨d, hd, ?_⟩
      obtain rfl := Except.ok.inj hc'
      rw [not_ne_iff, Int64.mul_comm] at hsize
      exact granted_found hb hd hdecode (by rw [hsize])
        (decide_eq_true ⟨h, toInt_roundCapacity h⟩)

theorem ensures_trivial {α : Type} (p : Client α) (s : State) :
    Ensures images (fun _ _ => True) p s := by
  induction p generalizing s with
  | ret a => exact ensures_ret trivial
  | call q k ih => exact Prog.safe_call (fun _ _ => trivial) fun _ reply s' _ _ => ih reply s'

/-- A call that is not answered does not succeed. -/
theorem ensures_link_error {link : Link} (hlink : link ≠ .up) {p : Client (Except Status Unit)} :
    Ensures images (fun result _ => result ≠ .ok ()) (link.call p) s := by
  cases link with
  | undialable err => exact ensures_ret nofun
  | unreachable status => exact ensures_ret nofun
  | replyLost status => exact (ensures_trivial p s).bind fun _ _ _ => ensures_ret nofun
  | up => exact absurd rfl hlink

theorem ensures_remote_granted {link : Link} {c : Controller} (hne : v ≠ "") (h₀ : 0 ≤ r.toInt) :
    Ensures images (Backed (.remoteSPDK link c) v r.toInt s)
      (Remote.createVolume link c v r) s := by
  unfold Remote.createVolume
  rcases checkCapacity_eq r with ⟨hr, hc⟩ | ⟨-, e, hc⟩
  · simp only [hc]
    have hprovision : Ensures images (fun result s' => result = .ok () →
          Backed (.remoteSPDK link c) v r.toInt s (.ok (roundCapacity r)) s')
        (Remote.provision link c v (roundCapacity r)) s := by
      by_cases hlink : link = .up
      · subst hlink
        by_cases hconn : c.connected = true
        · exact ensures_provision_granted ⟨rfl, hconn⟩ hne h₀ hr
        · show Ensures images _ (c.provisionMallocBDev v (roundCapacity r)) s
          unfold Controller.provisionMallocBDev
          cases hcheck : c.checkName "empty BDev name" v with
          | some e => exact ensures_ret fun herror => nomatch herror
          | none => exact absurd (Controller.checkName_eq_none.1 hcheck).2 hconn
      · exact (ensures_link_error hlink).mono fun _ _ herror hok => absurd hok herror
    refine hprovision.bind fun result s' hresult => ?_
    cases result with
    | error e => exact ensures_ret backed_error
    | ok u => exact ensures_ret (hresult rfl)
  · simp only [hc]
    exact ensures_ret backed_error

/-- **Only what is granted is ever returned.** -/
theorem ensures_granted (b : Backend) (hne : v ≠ "") (h₀ : 0 ≤ r.toInt) :
    Ensures images (Backed b v r.toInt s) (b.createVolume v r) s := by
  cases b with
  | localSPDK connectErr =>
    cases connectErr with
    | some err => exact ensures_ret backed_error
    | none => exact ensures_local_granted hne
  | remoteSPDK link c => exact ensures_remote_granted hne h₀

/-! ## It is returned -/

theorem run_granted {b : Backend} {c size : ℤ} (hne : v ≠ "") (h₀ : 0 ≤ r.toInt)
    (h : Granted b v r.toInt s c size) :
    ∃ c' s' d, (b.createVolume v r).run (server images) s = (.ok c', s') ∧ c'.toInt = c ∧
      s'.bdev? v = some d ∧ (d.bytes : ℤ) = size := by
  obtain ⟨hb, ⟨hnone, hlt, rfl, rfl⟩ | ⟨d, hd, hcnt, hc, hreuses, hsize⟩⟩ := h
  · exact ⟨_, _, newDisk v r, run_createVolume_none hb hne hnone h₀ hlt, toInt_roundCapacity hlt,
      (bdev?_newDisk hnone v).trans (if_pos rfl), bytes_newDisk h₀ hlt⟩
  · obtain ⟨bdev, hdecode⟩ : ∃ bdev, decodeBDev d = .ok bdev := ⟨_, if_pos hcnt⟩
    have hget := Spdk.getBDevs_some hne hd hdecode
    rw [← toInt_size hdecode] at hc
    subst hc
    refine ⟨bdev.blockSize * bdev.numBlocks, s, d, ?_, rfl, hd, hsize.symm⟩
    cases b with
    | localSPDK connectErr =>
      obtain rfl : connectErr = none := hb
      obtain ⟨e, he⟩ := run_local_found images r hget
      rw [if_pos (Int64.le_iff_toInt_le.2 (of_decide_eq_true hreuses))] at he
      exact he
    | remoteSPDK link ctrl =>
      obtain ⟨rfl, hconn⟩ := hb
      obtain ⟨hlt, hsize⟩ := of_decide_eq_true hreuses
      rw [← toInt_roundCapacity hlt, Int64.toInt_inj] at hsize
      obtain ⟨e, he⟩ : ∃ e, (Remote.createVolume .up ctrl v r).run (server images) s = _ :=
        run_remote_found images hconn hne hget h₀ hlt
      rw [if_pos hsize, ← hsize] at he
      exact he

theorem Granted.le {b : Backend} {r c size : ℤ} (h : Granted b v r s c size) : r ≤ c := by
  obtain ⟨-, ⟨-, -, rfl, -⟩ | ⟨d, -, -, -, hreuses, -⟩⟩ := h
  · exact le_blocksFor r
  · cases b with
    | localSPDK connectErr => exact of_decide_eq_true hreuses
    | remoteSPDK link c =>
      obtain ⟨-, rfl⟩ := of_decide_eq_true hreuses
      exact le_blocksFor r

/-! ## The CSI call -/

theorem ensures_createVolumeWith_granted {attributes : List (String × String)} (b : Backend)
    {req : CreateVolumeRequest} (h₀ : 0 ≤ req.requiredBytes.toInt) :
    Ensures images (fun result s' => ∀ volume, result = .ok volume →
        checkCreateVolume req = none ∧
        ∃ d, s'.bdev? req.name = some d ∧
          Granted b req.name req.requiredBytes.toInt s volume.capacityBytes.toInt d.bytes)
      (createVolumeWith attributes b req) s := by
  unfold createVolumeWith
  cases hcheck : checkCreateVolume req with
  | some e => exact ensures_ret fun _ herror => nomatch herror
  | none =>
    refine (ensures_granted b (name_ne_of_check hcheck) h₀).bind fun result s' hresult => ?_
    cases result with
    | error e => exact ensures_ret fun _ herror => nomatch herror
    | ok c =>
      refine ensures_ret fun volume hvolume => ⟨rfl, ?_⟩
      obtain rfl := Except.ok.inj hvolume
      exact hresult c rfl

/-- **When the capacity range is honoured.**  In every run, whatever fails, a volume that is
returned has the reported size, which is at least the required one and at most the limit;
exactly unless the request passes the checks and what is granted for it is broken. -/
theorem capacity_range_honoured_iff (images : ConstructRBDBDevArgs → Option UInt64)
    (driver : Driver) (b : Backend) (req : RangeRequest) (h₀ : 0 ≤ req.requiredBytes.toInt)
    (s : State) :
    (∀ result s', Prog.Runs (server images) (driver.createVolume b req.toCreateVolumeRequest) s
      result s' → Honoured req result s') ↔
    ¬ (checkCreateVolume req.toCreateVolumeRequest = none ∧ Broken b req s) := by
  obtain ⟨attributes, hdriver⟩ : ∃ attributes, driver.createVolume b req.toCreateVolumeRequest =
      createVolumeWith attributes b req.toCreateVolumeRequest := by
    cases driver with
    | oimDriver => exact ⟨_, rfl⟩
    | oimDriver03 => exact ⟨_, rfl⟩
  rw [hdriver]
  constructor
  · rintro h ⟨hcheck, c, size, hgranted, hbad⟩
    obtain ⟨c', s', d, hrun, rfl, hd, hsize⟩ : ∃ c' s' d,
        (b.createVolume req.name req.requiredBytes).run (server images) s = (.ok c', s') ∧ _ :=
      run_granted (name_ne_of_check hcheck) h₀ hgranted
    have hhonoured := h _ _ (Prog.runs_run _ _ _)
    rw [run_createVolumeWith hcheck, hrun] at hhonoured
    obtain ⟨⟨d', hd', hexact⟩, -, hlimit⟩ := hhonoured _ rfl
    obtain rfl := Option.some_inj.1 (hd.symm.trans hd')
    rcases hbad with hne | ⟨hset, hlt⟩
    · exact hne (hexact.trans hsize)
    · exact absurd (hlimit hset) (not_le.2 hlt)
  · intro h result s' hrun volume hvolume
    obtain ⟨hcheck, d, hd, hgranted⟩ :=
      (ensures_createVolumeWith_granted b h₀).runs hrun volume hvolume
    have hfine := fun hbad => h ⟨hcheck, _, _, hgranted, hbad⟩
    refine ⟨⟨d, hd, ?_⟩, hgranted.le, fun hset => ?_⟩
    · exact not_not.1 fun hne => hfine (.inl hne)
    · exact not_lt.1 fun hlt => hfine (.inr ⟨hset, hlt⟩)

/-- One byte or more, for a volume that one node writes to. -/
def RangeRequest.oneByte (limitBytes : Int64) : RangeRequest where
  name := "vol"
  volumeCapabilities := some [⟨false, .singleNodeWriter⟩]
  hasContentSource := false
  requiredBytes := 1
  parameters := []
  limitBytes := limitBytes

/-- An unset limit, and no BDev of that name. -/
theorem capacity_range_honoured_unset :
    ∃ s', (Driver.oimDriver.createVolume (.localSPDK none)
        (RangeRequest.oneByte 0).toCreateVolumeRequest).run (server fun _ => none)
        (State.fresh "vhost.0") = (.ok ⟨"vol", 512, []⟩, s') ∧
      Honoured (.oneByte 0) (.ok ⟨"vol", 512, []⟩) s' := by
  have hrange := (capacity_range_honoured_iff (fun _ => none) .oimDriver (.localSPDK none)
    (.oneByte 0) (by decide) (State.fresh "vhost.0")).2 (by
      rintro ⟨-, c, size, ⟨-, ⟨-, -, -, rfl⟩ | ⟨d, hd, -⟩⟩, hne | ⟨hset, -⟩⟩
      · exact hne rfl
      · exact hset rfl
      · exact nomatch hd
      · exact hset rfl)
  exact ⟨_, rfl, hrange _ _ (Prog.runs_run _ _ _)⟩

/-- At least 1 byte and at most 511 are asked for, and 512 are given. -/
theorem capacity_above_limit :
    ∃ s', ((Driver.oimDriver.createVolume (.localSPDK none)
        (RangeRequest.oneByte 511).toCreateVolumeRequest).run (server fun _ => none)
        (State.fresh "vhost.0") = (.ok ⟨"vol", 512, []⟩, s')) ∧
      ¬ Honoured (.oneByte 511) (.ok ⟨"vol", 512, []⟩) s' := by
  refine ⟨_, rfl, fun h => ?_⟩
  have hlimit := (h _ rfl).2.2 (by decide)
  revert hlimit
  decide

end Oim.Csi
