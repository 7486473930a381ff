import Oim.Controller.Calls
import Oim.Lib.Fields

/-!
# Parameters of Ceph volumes

`pkg/oim-csi-driver/ceph-csi.go`: when the driver stands in for `ceph-csi`, it finds the
parameters of a `MapVolume` call in the staging path, the attributes and the secrets of a
`NodeStageVolume` request.

* `Derived` — what the parameters have to be.
* `mapCephVolumeParams_cases` — what the code makes of a request.
* `mapCephVolumeParams_correct_iff` — the two agree, except that an empty image name is
  accepted, and that a secret with the monitors is overlooked if the attribute `monitors` is
  there but empty, or if the name of the secret is empty (`Overlooked`).
-/

namespace Oim.Csi.Ceph

open Controller Fields

/-! ## The code -/

/-- A Go map of strings. -/
abbrev StringMap : Type := String → Option String

/-- `rbdVolume`, without the fields that are never set. -/
structure RbdVolume where
  monitors : String
  monValueFromSecret : String
  pool : String
  adminID : String
  userID : String

/-- `oim.MapVolumeRequest`. -/
structure MapVolumeRequest where
  volumeId : String
  params : MapParams

/-- `rbdDefaultAdminID`. -/
def rbdDefaultAdminID : String := "admin"

/-- `rbdDefaultUserID`. -/
def rbdDefaultUserID : String := rbdDefaultAdminID

/-- `getRBDVolumeOptions`. -/
def getRBDVolumeOptions (volOptions : StringMap) : Except String RbdVolume :=
  match volOptions "pool" with
  | none => .error "Missing required parameter pool"
  | some pool =>
    let rbdVol (monitors monValueFromSecret : String) : RbdVolume := {
      monitors := monitors
      monValueFromSecret := monValueFromSecret
      pool := pool
      adminID := (volOptions "adminid").getD rbdDefaultAdminID
      userID := (volOptions "userid").getD rbdDefaultUserID }
    match volOptions "monitors", volOptions "monValueFromSecret" with
    | some monitors, _ => .ok (rbdVol monitors "")
    | none, some name => .ok (rbdVol "" name)
    | none, none => .error "Either monitors or monValueFromSecret must be set"

/-- `getRBDKey`. -/
def getRBDKey (id : String) (credentials : StringMap) : Except String String :=
  match credentials id with
  | some key => .ok key
  | none => .error ("RBD key for ID: " ++ id ++ " not found")

/-- `getMon`. -/
def getMon (pOpts : RbdVolume) (credentials : StringMap) : Except String String :=
  if pOpts.monitors = "" then
    if pOpts.monValueFromSecret = "" then
      .error "either monitors or monValueFromSecret must be set"
    else
      match credentials pOpts.monValueFromSecret with
      | some val => .ok val
      | none => .error ("mon data " ++ pOpts.monValueFromSecret ++ " is not set in secret")
  else .ok pOpts.monitors

/-- `mapCephVolumeParams`: what it returns, and the request afterwards. -/
def mapCephVolumeParams (stagingTargetPath : String) (volumeAttributes nodeStageSecrets : StringMap)
    (req : MapVolumeRequest) : Except String Unit × MapVolumeRequest :=
  match stagingTargetPath.toList.dropSuffix? "/globalmount".toList with
  | none => (.error ("malformed value of target path: " ++ stagingTargetPath), req)
  | some path =>
    let volName := String.ofList ((path.splitOnP (· == '/')).getLast?.getD [])
    match getRBDVolumeOptions volumeAttributes with
    | .error err => (.error err, req)
    | .ok volOptions =>
      match getMon volOptions nodeStageSecrets with
      | .error err => (.error err, req)
      | .ok mon =>
        match getRBDKey volOptions.userID nodeStageSecrets with
        | .error err => (.error err, req)
        | .ok key =>
          let ceph : CephParams := ⟨volOptions.userID, key, mon, volOptions.pool, volName⟩
          (.ok (), { req with params := .ceph ceph })

/-! ## What the parameters have to be -/

/-- The path is that of a `globalmount` below an element `image`. -/
def Below (path image : String) : Prop :=
  '/' ∉ image.toList ∧
    (path = image ++ "/globalmount" ∨ ∃ before, path = before ++ "/" ++ image ++ "/globalmount")

/-- The user, who is `admin` unless there is an attribute. -/
def user (attributes : StringMap) : String := (attributes "userid").getD "admin"

/-- The monitors that are available: those of the attribute, unless there are none, or otherwise
those of the secret that another attribute names. -/
def Available (attributes secrets : StringMap) (mon : String) : Prop :=
  (attributes "monitors" = some mon ∧ mon ≠ "") ∨
    ((attributes "monitors" = none ∨ attributes "monitors" = some "") ∧
      ∃ name, attributes "monValueFromSecret" = some name ∧ secrets name = some mon)

/-- **The parameters of a volume.** -/
structure Derived (path : String) (attributes secrets : StringMap) (ceph : CephParams) : Prop where
  image : ceph.image ≠ ""
  below : Below path ceph.image
  pool : attributes "pool" = some ceph.pool
  userId : ceph.userId = user attributes
  secret : secrets (user attributes) = some ceph.secret
  monitors : Available attributes secrets ceph.monitors

/-- The parameters are derived completely, if they can be, or not at all. -/
def AllOrNothing (path : String) (attributes secrets : StringMap) (req : MapVolumeRequest) : Prop :=
  ((mapCephVolumeParams path attributes secrets req).1 = .ok () ↔
    ∃ ceph, Derived path attributes secrets ceph) ∧
  ((mapCephVolumeParams path attributes secrets req).1 = .ok () →
    ∃ ceph, Derived path attributes secrets ceph ∧
      (mapCephVolumeParams path attributes secrets req).2 = { req with params := .ceph ceph }) ∧
  ((mapCephVolumeParams path attributes secrets req).1 ≠ .ok () →
    (mapCephVolumeParams path attributes secrets req).2 = req)

/-- The monitors that the code finds. -/
def Found (attributes secrets : StringMap) (mon : String) : Prop :=
  (attributes "monitors" = some mon ∧ mon ≠ "") ∨
    (attributes "monitors" = none ∧
      ∃ name ≠ "", attributes "monValueFromSecret" = some name ∧ secrets name = some mon)

/-- The parameters that the code derives. -/
structure Accepted (path : String) (attributes secrets : StringMap) (ceph : CephParams) : Prop where
  below : Below path ceph.image
  pool : attributes "pool" = some ceph.pool
  userId : ceph.userId = user attributes
  secret : secrets (user attributes) = some ceph.secret
  monitors : Found attributes secrets ceph.monitors

/-- What the code does not see: that the image has no name, or that there is a secret with the
monitors although the attribute `monitors` is set, or the name of the secret is empty. -/
def Overlooked (path : String) (attributes secrets : StringMap) : Prop :=
  (∃ pool, attributes "pool" = some pool) ∧ (∃ key, secrets (user attributes) = some key) ∧
    ((Below path "" ∧ ∃ mon, Found attributes secrets mon) ∨
      ((∃ image ≠ "", Below path image) ∧
        ∃ name mon, attributes "monValueFromSecret" = some name ∧ secrets name = some mon ∧
          (attributes "monitors" = some "" ∨ (attributes "monitors" = none ∧ name = ""))))

/-! ## What the code does -/

variable {path image : String} {attributes secrets : StringMap} {req : MapVolumeRequest}

theorem below_iff : Below path image ↔
    ∃ p, path.toList.dropSuffix? "/globalmount".toList = some p ∧
      (p.splitOnP (· == '/')).getLast? = some image.toList := by
  simp only [List.dropSuffix?_eq_some_iff, beq_iff_eq, getLast?_splitOnP]
  constructor
  · rintro ⟨hslash, rfl | ⟨before, rfl⟩⟩
    · exact ⟨image.toList, ⟨_, String.toList_append, rfl⟩, hslash, .inl rfl⟩
    · refine ⟨before.toList ++ '/' :: image.toList, ⟨_, ?_, rfl⟩, hslash, .inr ⟨_, rfl⟩⟩
      simp [String.toList_append]
  · rintro ⟨p, ⟨_, hpath, rfl⟩, hslash, rfl | ⟨before, rfl⟩⟩
    · refine ⟨hslash, .inl (String.toList_inj.1 ?_)⟩
      rw [hpath, String.toList_append]
    · refine ⟨hslash, .inr ⟨String.ofList before, String.toList_inj.1 ?_⟩⟩
      simp [hpath, String.toList_append]

theorem Below.eq {image' : String} (h : Below path image) (h' : Below path image') :
    image = image' := by
  obtain ⟨p, hp, hlast⟩ := below_iff.1 h
  obtain ⟨p', hp', hlast'⟩ := below_iff.1 h'
  obtain rfl : p = p' := Option.some_inj.1 (hp.symm.trans hp')
  exact String.toList_inj.1 (Option.some_inj.1 (hlast.symm.trans hlast'))

variable (secrets) in
/-- The presence tests of one function and the emptiness tests of the other together. -/
theorem getRBDVolumeOptions_ok {volOptions : RbdVolume}
    (h : getRBDVolumeOptions attributes = .ok volOptions) :
    attributes "pool" = some volOptions.pool ∧ volOptions.userID = user attributes ∧
      ∀ mon, getMon volOptions secrets = .ok mon ↔ Found attributes secrets mon := by
  unfold getRBDVolumeOptions at h
  unfold Found getMon
  cases hpool : attributes "pool" with
  | none => simp [hpool] at h
  | some pool =>
    cases hmonitors : attributes "monitors" with
    | some monitors =>
      simp only [hpool, hmonitors] at h
      obtain rfl := Except.ok.inj h
      refine ⟨rfl, rfl, fun mon => ?_⟩
      by_cases hempty : monitors = ""
      · simp [hempty]
      · simp only [hempty, if_false, Except.ok.injEq, Option.some_inj, reduceCtorEq, false_and,
          or_false]
        exact ⟨fun h => ⟨h, h ▸ hempty⟩, And.left⟩
    | none =>
      cases hname : attributes "monValueFromSecret" with
      | none => simp [hpool, hmonitors, hname] at h
      | some name =>
        simp only [hpool, hmonitors, hname] at h
        obtain rfl := Except.ok.inj h
        refine ⟨rfl, rfl, fun mon => ?_⟩
        by_cases hempty : name = ""
        · simp [hempty]
        · cases hsecret : secrets name <;> simp [hempty, hsecret]

theorem getRBDVolumeOptions_error {err : String} (h : getRBDVolumeOptions attributes = .error err)
    {ceph : CephParams} : ¬ Accepted path attributes secrets ceph := by
  rintro ⟨-, hpool, -, -, hmonitors⟩
  unfold getRBDVolumeOptions at h
  rcases hmonitors with ⟨hmonitors, -⟩ | ⟨hmonitors, name, -, hname, -⟩
  · simp [hpool, hmonitors] at h
  · simp [hpool, hmonitors, hname] at h

/-- **What the code does**: it derives the parameters, or leaves the request alone. -/
theorem mapCephVolumeParams_cases (req : MapVolumeRequest) :
    (∃ ceph, Accepted path attributes secrets ceph ∧
      mapCephVolumeParams path attributes secrets req =
        (.ok (), { req with params := .ceph ceph })) ∨
    ((∀ ceph, ¬ Accepted path attributes secrets ceph) ∧
      ∃ err, mapCephVolumeParams path attributes secrets req = (.error err, req)) := by
  unfold mapCephVolumeParams
  cases hpath : path.toList.dropSuffix? "/globalmount".toList with
  | none =>
    refine .inr ⟨fun ceph h => ?_, _, rfl⟩
    obtain ⟨p, hp, -⟩ := below_iff.1 h.below
    rw [hpath] at hp
    exact nomatch hp
  | some p =>
    obtain ⟨image, himage⟩ : ∃ image, (p.splitOnP (· == '/')).getLast? = some image :=
      ⟨_, List.getLast?_eq_some_getLast (List.splitOnP_ne_nil _ _)⟩
    have hbelow : Below path (String.ofList image) :=
      below_iff.2 ⟨p, hpath, by simp [himage]⟩
    simp only [himage, Option.getD_some]
    cases hopts : getRBDVolumeOptions attributes with
    | error err => exact .inr ⟨fun ceph => getRBDVolumeOptions_error hopts, _, rfl⟩
    | ok volOptions =>
      obtain ⟨hpool, huser, hfound⟩ := getRBDVolumeOptions_ok secrets hopts
      simp only
      cases hmon : getMon volOptions secrets with
      | error err =>
        refine .inr ⟨fun ceph h => ?_, _, rfl⟩
        have hok := (hfound ceph.monitors).2 h.monitors
        rw [hmon] at hok
        exact nomatch hok
      | ok mon =>
        unfold getRBDKey
        rw [huser]
        cases hkey : secrets (user attributes) with
        | none =>
          refine .inr ⟨fun ceph h => ?_, _, rfl⟩
          have hsecret := h.secret
          rw [hkey] at hsecret
          exact nomatch hsecret
        | some key => exact .inl ⟨_, ⟨hbelow, hpool, rfl, hkey, (hfound mon).1 hmon⟩, rfl⟩

/-! ## Agreement -/

theorem Found.available {mon : String} (h : Found attributes secrets mon) :
    Available attributes secrets mon := by
  rcases h with h | ⟨hnone, name, -, hname, hmon⟩
  · exact .inl h
  · exact .inr ⟨.inl hnone, name, hname, hmon⟩

/-- With parameters derived, all there is to see is whether the image has a name. -/
theorem Accepted.overlooked_iff {ceph : CephParams} (h : Accepted path attributes secrets ceph) :
    Overlooked path attributes secrets ↔ ceph.image = "" := by
  constructor
  · rintro ⟨-, -, ⟨hbelow, -⟩ | ⟨-, name, mon, hname, -, hmonitors⟩⟩
    · exact h.below.eq hbelow
    · -- the monitors that were found are not those that would be overlooked
      rcases h.monitors with ⟨hsome, hne⟩ | ⟨hnone, name', hne, hname', -⟩
      · rcases hmonitors with hempty | ⟨hnone, -⟩
        · exact absurd (Option.some_inj.1 (hsome.symm.trans hempty)) hne
        · exact nomatch hsome.symm.trans hnone
      · rcases hmonitors with hempty | ⟨-, rfl⟩
        · exact nomatch hempty.symm.trans hnone
        · exact absurd (Option.some_inj.1 (hname'.symm.trans hname)) hne
  · intro himage
    exact ⟨⟨_, h.pool⟩, ⟨_, h.secret⟩, .inl ⟨himage ▸ h.below, _, h.monitors⟩⟩

/-- Without them, it is whether they should have been. -/
theorem overlooked_iff_derived (h : ∀ ceph, ¬ Accepted path attributes secrets ceph) :
    Overlooked path attributes secrets ↔ ∃ ceph, Derived path attributes secrets ceph := by
  constructor
  · rintro ⟨⟨pool, hpool⟩, ⟨key, hkey⟩, ⟨hbelow, mon, hfound⟩ |
      ⟨⟨image, himage, hbelow⟩, name, mon, hname, hmon, hmonitors⟩⟩
    · exact absurd ⟨hbelow, hpool, rfl, hkey, hfound⟩ (h ⟨user attributes, key, mon, pool, ""⟩)
    · refine ⟨⟨user attributes, key, mon, pool, image⟩, himage, hbelow, hpool, rfl, hkey,
        .inr ⟨?_, name, hname, hmon⟩⟩
      exact hmonitors.symm.imp_left And.left
  · rintro ⟨ceph, himage, hbelow, hpool, huser, hsecret, hmonitors⟩
    have hnot : ¬ Found attributes secrets ceph.monitors := fun hfound =>
      h ceph ⟨hbelow, hpool, huser, hsecret, hfound⟩
    refine ⟨⟨_, hpool⟩, ⟨_, hsecret⟩, .inr ⟨⟨_, himage, hbelow⟩, ?_⟩⟩
    rcases hmonitors with hfound | ⟨hnone | hempty, name, hname, hmon⟩
    · exact absurd (.inl hfound) hnot
    · refine ⟨name, _, hname, hmon, .inr ⟨hnone, ?_⟩⟩
      by_contra hne
      exact hnot (.inr ⟨hnone, name, hne, hname, hmon⟩)
    · exact ⟨name, _, hname, hmon, .inl hempty⟩

/-- **Ceph parameters are derived completely or not at all**, unless something is
overlooked. -/
theorem mapCephVolumeParams_correct_iff (path : String) (attributes secrets : StringMap)
    (req : MapVolumeRequest) :
    AllOrNothing path attributes secrets req ↔ ¬ Overlooked path attributes secrets := by
  unfold AllOrNothing
  rcases mapCephVolumeParams_cases req with ⟨ceph, hceph, heq⟩ | ⟨hnone, err, heq⟩
  · rw [heq, hceph.overlooked_iff]
    constructor
    · rintro ⟨hiff, -⟩ himage
      obtain ⟨ceph', hderived⟩ := hiff.1 rfl
      exact hderived.image (hderived.below.eq (himage ▸ hceph.below))
    · intro himage
      have hderived : Derived path attributes secrets ceph :=
        ⟨himage, hceph.below, hceph.pool, hceph.userId, hceph.secret, hceph.monitors.available⟩
      exact ⟨iff_of_true rfl ⟨ceph, hderived⟩, fun _ => ⟨ceph, hderived, rfl⟩,
        fun hne => absurd rfl hne⟩
  · rw [heq, overlooked_iff_derived hnone]
    simp

/-- A path without an image is mapped to an image without a name, and the secret with the
monitors is not found if the attribute `monitors` is there, too. -/
theorem image_and_monitors_overlooked :
    let secrets : StringMap := fun key => List.lookup key
      [("monitors", "192.168.7.2:6789"), ("admin", "AQAOLsdbXztfHBAAul7+rC3JCVIC7HdjAe27yA==")]
    mapCephVolumeParams "/plugins//globalmount"
        (fun key => List.lookup key [("pool", "rbd"), ("monValueFromSecret", "monitors")]) secrets
        ⟨"vol", .missing⟩ =
      (.ok (), ⟨"vol", .ceph ⟨"admin", "AQAOLsdbXztfHBAAul7+rC3JCVIC7HdjAe27yA==",
        "192.168.7.2:6789", "rbd", ""⟩⟩) ∧
    mapCephVolumeParams "/plugins/pvc-1/globalmount"
        (fun key => List.lookup key
          [("pool", "rbd"), ("monitors", ""), ("monValueFromSecret", "monitors")]) secrets
        ⟨"vol", .missing⟩ =
      (.error "either monitors or monValueFromSecret must be set", ⟨"vol", .missing⟩) :=
  ⟨rfl, rfl⟩

end Oim.Csi.Ceph
