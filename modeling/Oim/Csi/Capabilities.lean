import Oim.Csi.CreateVolume

/-!
# Volume capabilities

`ValidateVolumeCapabilities` of both driver versions, which is meant to tell in advance what
`CreateVolume` makes of a list of capabilities.

* `Capability` — a capability with its access type, which is one of block and mount, or unset.
* `confirmCapabilities` — the loop of CSI 1.0, which rejects, skips or confirms each capability;
  `confirmCapabilities_ok` says all that it can come to.
* `ReachesBackend` — `CreateVolume` has nothing to say against the request.
* `validation_agrees_iff` — in version 1.0 the two always agree.  Version 0.3 only looks at the
  access mode and only knows one, so it promises block volumes and denies read-only ones.
-/

namespace Oim.Csi

open Interaction
open Spdk (Client State server ConstructRBDBDevArgs)
open Controller (Readable)

/-! ## Requests and responses -/

/-- `VolumeCapability_MountVolume`. -/
structure MountVolume where
  fsType : String
  mountFlags : List String
  deriving DecidableEq

/-- `csi.VolumeCapability` with its whole access type, which is a protobuf `oneof`. -/
structure Capability extends VolumeCapability where
  mount : Option MountVolume
  oneof : block = true → mount = none
  deriving DecidableEq

/-- The capability has an access type. -/
def Capability.Typed (cap : Capability) : Prop := cap.block = true ∨ cap.mount.isSome = true

/-- `csi.ValidateVolumeCapabilitiesRequest`; version 0.3 has neither context nor parameters. -/
structure ValidateRequest where
  volumeId : String
  volumeCapabilities : Option (List Capability)
  volumeContext : List (String × String)
  parameters : List (String × String)

/-- `ValidateVolumeCapabilitiesResponse_Confirmed`. -/
structure Confirmed where
  volumeContext : List (String × String)
  parameters : List (String × String)
  volumeCapabilities : List Capability
  deriving DecidableEq

/-- `csi.ValidateVolumeCapabilitiesResponse` of the two versions. -/
inductive ValidateResponse where
  | v1 (confirmed : Option Confirmed) (message : String)
  | v0 (supported : Bool) (message : String)
  deriving DecidableEq

/-! ## The code -/

/-- The loop of `oimDriver.ValidateVolumeCapabilities`: the capabilities that are confirmed, or
the message that goes with a rejection. -/
def confirmCapabilities (confirmed : List Capability) :
    List Capability → Except String (List Capability)
  | [] => .ok confirmed
  | cap :: caps =>
    if cap.block then .error "Block Volume not supported"
    else if cap.mount = none then confirmCapabilities confirmed caps
    else match cap.mode with
      | .singleNodeWriter => confirmCapabilities (confirmed ++ [cap]) caps
      | .singleNodeReaderOnly => confirmCapabilities (confirmed ++ [cap]) caps
      | .multiNodeReaderOnly => confirmCapabilities (confirmed ++ [cap]) caps
      | .multiNodeSingleWriter => .error "multi-node reader, single writer not supported"
      | .multiNodeMultiWriter => .error "multi-node reader, multi-node writer not supported"
      | .unknown => confirmCapabilities confirmed caps
      | .other _ => confirmCapabilities confirmed caps

/-- The end of `oimDriver.ValidateVolumeCapabilities`. -/
def respond (req : ValidateRequest) (caps : List Capability) : ValidateResponse :=
  match confirmCapabilities [] caps with
  | .error message => .v1 none message
  | .ok confirmed => .v1 (some ⟨req.volumeContext, req.parameters, confirmed⟩) ""

/-- The end of `oimDriver03.ValidateVolumeCapabilities`. -/
def respond03 : List Capability → ValidateResponse
  | [] => .v0 true ""
  | cap :: caps => if cap.mode ≠ .singleNodeWriter then .v0 false "" else respond03 caps

/-- What the versions make of a volume that exists. -/
def Driver.respond : Driver → ValidateRequest → List Capability → ValidateResponse
  | .oimDriver, req, caps => Csi.respond req caps
  | .oimDriver03, _, caps => respond03 caps

/-- `oimDriver.ValidateVolumeCapabilities` and `oimDriver03.ValidateVolumeCapabilities`. -/
def Driver.validateVolumeCapabilities (d : Driver) (b : Backend) (req : ValidateRequest) :
    Client (Except Status ValidateResponse) :=
  if req.volumeId = "" then
    return .error ⟨.invalidArgument, "Volume ID missing in request"⟩
  else match req.volumeCapabilities with
    | none => return .error ⟨.invalidArgument, "Volume capabilities missing in request"⟩
    | some caps =>
      if req.volumeId = "" then return .error ⟨.invalidArgument, "empty volume ID"⟩
      else do
        match ← b.checkVolumeExists req.volumeId with
        | .error e => return .error e
        | .ok () => return .ok (d.respond req caps)

/-! ## What is wanted -/

/-- The whole list is supported. -/
def ValidateResponse.Supports (caps : List Capability) : ValidateResponse → Prop
  | .v1 confirmed _ => ∃ c, confirmed = some c ∧ c.volumeCapabilities = caps
  | .v0 supported _ => supported = true

/-- `CreateVolume` comes down to a call of its backend, whichever that is. -/
def ReachesBackend (d : Driver) (req : CreateVolumeRequest) : Prop :=
  ∃ f, ∀ b, d.createVolume b req = (b.createVolume req.name req.requiredBytes).bind f

/-- The lists about which the versions are wrong: 0.3 supports block volumes, and of the access
modes only one. -/
def Misjudged : Driver → List Capability → Prop
  | .oimDriver, _ => False
  | .oimDriver03, caps =>
    ((∀ cap ∈ caps, cap.mode = .singleNodeWriter) ∧ ∃ cap ∈ caps, cap.block = true) ∨
    ((∀ cap ∈ caps, cap.block = false ∧
        (cap.mode = .singleNodeWriter ∨ cap.mode = .singleNodeReaderOnly ∨
          cap.mode = .multiNodeReaderOnly)) ∧
      ∃ cap ∈ caps, cap.mode ≠ .singleNodeWriter)

/-! ## Creation -/

theorem reachesBackend_iff {d : Driver} {req : CreateVolumeRequest} :
    ReachesBackend d req ↔ checkCreateVolume req = none := by
  obtain ⟨attributes, hd⟩ : ∃ attributes, ∀ b,
      d.createVolume b req = createVolumeWith attributes b req := by
    cases d with
    | oimDriver => exact ⟨_, fun _ => rfl⟩
    | oimDriver03 => exact ⟨_, fun _ => rfl⟩
  constructor
  · rintro ⟨f, hf⟩
    cases hcheck : checkCreateVolume req with
    | none => rfl
    | some e =>
      -- The local backend starts with a request to SPDK, a rejection makes none.
      have hcall := hf (.localSPDK none)
      rw [hd, createVolumeWith, hcheck] at hcall
      cases (hcall : Prog.ret _ = Prog.call _ _)
  · intro hcheck
    refine ⟨fun r => .ret (r.map fun actualBytes => ⟨req.name, actualBytes, attributes⟩),
      fun b => ?_⟩
    rw [hd, createVolumeWith, hcheck]
    refine congrArg (Prog.bind _) (funext fun r => ?_)
    cases r <;> rfl

/-- What `CreateVolume` takes. -/
theorem checkCapability_eq_none_iff {cap : VolumeCapability} : checkCapability cap = none ↔
    cap.block = false ∧ (cap.mode = .singleNodeWriter ∨ cap.mode = .singleNodeReaderOnly ∨
      cap.mode = .multiNodeReaderOnly) := by
  unfold checkCapability
  cases cap.block with
  | true => simp
  | false => cases cap.mode <;> simp

theorem checkCreateVolume_eq_none {req : CreateVolumeRequest} {caps : List Capability}
    (hname : req.name ≠ "") (hsource : req.hasContentSource = false)
    (hcaps : req.volumeCapabilities = some (caps.map Capability.toVolumeCapability)) :
    checkCreateVolume req = none ↔
      ∀ cap ∈ caps, checkCapability cap.toVolumeCapability = none := by
  have hfind : (caps.map Capability.toVolumeCapability).findSome? checkCapability = none ↔
      ∀ cap ∈ caps, checkCapability cap.toVolumeCapability = none := by
    simp [List.findSome?_eq_none_iff]
  rw [← hfind, checkCreateVolume, if_neg hname, hcaps]
  simp only [hsource, hname]
  cases (caps.map Capability.toVolumeCapability).findSome? checkCapability <;> simp

/-! ## Validation -/

/-- A capability that the loop of version 1.0 confirms. -/
def Confirms (cap : Capability) : Bool :=
  cap.mount.isSome && (checkCapability cap.toVolumeCapability).isNone

/-- One round of the loop: the capability is confirmed, skipped or rejected. -/
theorem confirmCapabilities_cons (confirmed : List Capability) (cap : Capability)
    (caps : List Capability) :
    (Confirms cap = true ∧ confirmCapabilities confirmed (cap :: caps) =
      confirmCapabilities (confirmed ++ [cap]) caps) ∨
    (Confirms cap = false ∧
      confirmCapabilities confirmed (cap :: caps) = confirmCapabilities confirmed caps) ∨
    (checkCapability cap.toVolumeCapability ≠ none ∧
      ∃ message, confirmCapabilities confirmed (cap :: caps) = .error message) := by
  simp only [confirmCapabilities, Confirms, checkCapability]
  by_cases hblock : cap.block = true
  · simp [hblock]
  · by_cases hmount : cap.mount = none
    · simp [hblock, hmount]
    · have hsome : cap.mount.isSome = true := Option.isSome_iff_ne_none.2 hmount
      cases cap.mode <;> simp [hblock, hmount, hsome]

/-- **What the loop comes to.**  It confirms what it can, in order; and it rejects a list only for
a capability that `CreateVolume` rejects as well. -/
theorem confirmCapabilities_cases (confirmed caps : List Capability) :
    confirmCapabilities confirmed caps = .ok (confirmed ++ caps.filter Confirms) ∨
      (∃ message, confirmCapabilities confirmed caps = .error message) ∧
        ∃ cap ∈ caps, checkCapability cap.toVolumeCapability ≠ none := by
  induction caps generalizing confirmed with
  | nil => exact .inl (by simp [confirmCapabilities])
  | cons cap caps ih =>
    have hlater : (∃ cap' ∈ caps, checkCapability cap'.toVolumeCapability ≠ none) →
        ∃ cap' ∈ cap :: caps, checkCapability cap'.toVolumeCapability ≠ none :=
      fun ⟨cap', hmem, hbad⟩ => ⟨cap', List.mem_cons_of_mem _ hmem, hbad⟩
    rcases confirmCapabilities_cons confirmed cap caps with
      ⟨hyes, heq⟩ | ⟨hno, heq⟩ | ⟨hbad, hmessage⟩
    · rw [heq, List.filter_cons_of_pos hyes, List.append_cons confirmed cap (caps.filter _)]
      exact (ih _).imp_right (And.imp_right hlater)
    · rw [heq, List.filter_cons_of_neg (by simp [hno])]
      exact (ih _).imp_right (And.imp_right hlater)
    · exact .inr ⟨hmessage, cap, List.mem_cons_self, hbad⟩

/-- Version 1.0 supports what `CreateVolume` takes. -/
theorem supports_respond {req : ValidateRequest} {caps : List Capability}
    (htyped : ∀ cap ∈ caps, cap.Typed) :
    (respond req caps).Supports caps ↔
      ∀ cap ∈ caps, checkCapability cap.toVolumeCapability = none := by
  unfold respond
  rcases confirmCapabilities_cases [] caps with heq | ⟨⟨message, heq⟩, cap, hmem, hbad⟩
  · rw [heq]
    simp only [ValidateResponse.Supports, Option.some.injEq, exists_eq_left', List.nil_append,
      List.filter_eq_self]
    refine forall₂_congr fun cap hmem => ?_
    -- A block volume fails both, so only the access mode counts.
    rcases htyped cap hmem with hblock | hmount
    · simp [Confirms, cap.oneof hblock, checkCapability, hblock]
    · simp [Confirms, hmount]
  · rw [heq]
    refine iff_of_false ?_ fun hall => hbad (hall cap hmem)
    rintro ⟨c, hc, -⟩
    exact absurd hc (by simp)

/-- Version 0.3 supports one access mode. -/
theorem supports_respond03 (caps : List Capability) :
    (respond03 caps).Supports caps ↔ ∀ cap ∈ caps, cap.mode = .singleNodeWriter := by
  suffices h : ∀ all, (respond03 caps).Supports all ↔ ∀ cap ∈ caps, cap.mode = .singleNodeWriter
    from h caps
  intro all
  induction caps with
  | nil => simp [respond03, ValidateResponse.Supports]
  | cons cap caps ih =>
    rw [respond03]
    split_ifs with hmode
    · simp [ValidateResponse.Supports, hmode]
    · rw [ih, List.forall_mem_cons, and_iff_right (not_not.1 hmode)]

/-- With the access mode that version 0.3 knows, `CreateVolume` only objects to block volumes. -/
theorem checks_iff_of_modes {caps : List Capability}
    (hmodes : ∀ cap ∈ caps, cap.mode = .singleNodeWriter) :
    (∀ cap ∈ caps, checkCapability cap.toVolumeCapability = none) ↔
      ¬ ∃ cap ∈ caps, cap.block = true := by
  rw [not_exists]
  refine forall_congr' fun cap => ?_
  rw [not_and]
  refine forall_congr' fun hmem => ?_
  cases hblock : cap.block <;> simp [checkCapability, hblock, hmodes cap hmem]

variable {images : ConstructRBDBDevArgs → Option UInt64} {s : State} {v : String}

/-- A volume that exists is found. -/
theorem run_checkVolumeExists_readable {b : Backend} (hb : b.Works) (hv : v ≠ "")
    (hread : Readable s v) :
    (b.checkVolumeExists v).run (server images) s = (.ok (), s) := by
  obtain ⟨bdev, hget⟩ := hread
  cases b with
  | localSPDK connectErr =>
    obtain rfl : connectErr = none := hb
    simp only [Backend.checkVolumeExists, Local.connect, Local.checkVolumeExists, Prog.bind_eq]
    rw [Client.run_getBDevs, hget]
    rfl
  | remoteSPDK link c =>
    obtain ⟨rfl, hconn⟩ := hb
    simp only [Backend.checkVolumeExists, Remote.checkVolumeExists, Link.call,
      Controller.checkMallocBDev, Controller.checkName_eq_none.2 ⟨hv, hconn⟩,
      Controller.checkMallocBDevLocked, Prog.bind_eq]
    rw [Client.run_getBDevs, hget]
    rfl

theorem run_validateVolumeCapabilities {d : Driver} {b : Backend} (hb : b.Works)
    {req : ValidateRequest} (hv : req.volumeId ≠ "") {caps : List Capability}
    (hcaps : req.volumeCapabilities = some caps) (hread : Readable s req.volumeId) :
    (d.validateVolumeCapabilities b req).run (server images) s = (.ok (d.respond req caps), s) := by
  unfold Driver.validateVolumeCapabilities
  simp only [if_neg hv, hcaps, Prog.bind_eq]
  rw [Prog.run_bind, run_checkVolumeExists_readable hb hv hread]
  rfl

/-! ## Agreement -/

/-- **When validation agrees with creation.**  For every existing volume and every list of
capabilities with an access type, the whole list is reported as supported exactly if
`CreateVolume` with the same list gets to its backend: always in version 1.0, and in version 0.3
unless the list is misjudged. -/
theorem validation_agrees_iff (images : ConstructRBDBDevArgs → Option UInt64) (d : Driver)
    (b : Backend) (hb : b.Works) (s : State) (req : ValidateRequest) (hv : req.volumeId ≠ "")
    (hread : Readable s req.volumeId) (caps : List Capability)
    (htyped : ∀ cap ∈ caps, cap.Typed) (hcaps : req.volumeCapabilities = some caps)
    (creq : CreateVolumeRequest) (hname : creq.name ≠ "") (hsource : creq.hasContentSource = false)
    (hsame : creq.volumeCapabilities = some (caps.map Capability.toVolumeCapability)) :
    ((∃ response, ((d.validateVolumeCapabilities b req).run (server images) s).1 = .ok response ∧
        response.Supports caps) ↔ ReachesBackend d creq) ↔
      ¬ Misjudged d caps := by
  rw [run_validateVolumeCapabilities hb hv hcaps hread, reachesBackend_iff,
    checkCreateVolume_eq_none hname hsource hsame]
  simp only [Except.ok.injEq, exists_eq_left']
  cases d with
  | oimDriver =>
    simp only [Driver.respond, Misjudged, not_false_eq_true, iff_true]
    exact supports_respond htyped
  | oimDriver03 =>
    simp only [Driver.respond, supports_respond03, Misjudged]
    by_cases hmodes : ∀ cap ∈ caps, cap.mode = .singleNodeWriter
    · have hother : ¬ ∃ cap ∈ caps, cap.mode ≠ .singleNodeWriter := by
        rintro ⟨cap, hmem, hmode⟩
        exact hmode (hmodes cap hmem)
      rw [iff_true_left hmodes, checks_iff_of_modes hmodes]
      simp only [and_iff_right hmodes, hother, and_false, or_false]
    · have hother : ∃ cap ∈ caps, cap.mode ≠ .singleNodeWriter := by simpa using hmodes
      rw [iff_false_left hmodes]
      simp only [hmodes, false_and, false_or, and_iff_left hother, checkCapability_eq_none_iff]

/-- A mounted volume with the given access mode. -/
def mounted (mode : AccessMode) : Capability := ⟨⟨false, mode⟩, some ⟨"ext4", []⟩, nofun⟩

/-- A block volume for one writer. -/
def blockVolume : Capability := ⟨⟨true, .singleNodeWriter⟩, none, fun _ => rfl⟩

/-- Version 0.3 is right about an ordinary volume. -/
theorem validation_agrees_iff_mounted :
    (∃ response, ((Driver.oimDriver03.validateVolumeCapabilities (.localSPDK none)
        ⟨"vol", some [mounted .singleNodeWriter], [], []⟩).run (server fun _ => none)
          Controller.oneVolume).1 = .ok response ∧
        response.Supports [mounted .singleNodeWriter]) ↔
      ReachesBackend .oimDriver03 ⟨"new", some [⟨false, .singleNodeWriter⟩], false, 0, []⟩ := by
  refine (validation_agrees_iff (fun _ => none) .oimDriver03 (.localSPDK none) rfl
    Controller.oneVolume ⟨"vol", some [mounted .singleNodeWriter], [], []⟩ (by decide) ⟨_, rfl⟩
    [mounted .singleNodeWriter] ?_ rfl
    ⟨"new", some [⟨false, .singleNodeWriter⟩], false, 0, []⟩ (by decide) rfl rfl).2 ?_
  · simp [Capability.Typed, mounted]
  · simp [Misjudged, mounted]

/-- Version 0.3 supports a block volume, which `CreateVolume` rejects, and does not support a
volume that is only read, which it takes. -/
theorem validation_misjudges :
    let validate caps := ((Driver.oimDriver03.validateVolumeCapabilities (.localSPDK none)
      ⟨"vol", some caps, [], []⟩).run (server fun _ => none) Controller.oneVolume).1
    let create (caps : List Capability) : CreateVolumeRequest :=
      ⟨"new", some (caps.map Capability.toVolumeCapability), false, 0, []⟩
    validate [blockVolume] = .ok (.v0 true "") ∧
      checkCreateVolume (create [blockVolume]) =
        some ⟨.unimplemented, "Block Volume not supported"⟩ ∧
      validate [mounted .multiNodeReaderOnly] = .ok (.v0 false "") ∧
      checkCreateVolume (create [mounted .multiNodeReaderOnly]) = none :=
  ⟨rfl, rfl, rfl, rfl⟩

end Oim.Csi
