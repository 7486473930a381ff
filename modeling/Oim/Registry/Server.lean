import Oim.Common.Path

/-!
# The OIM registry

`pkg/oim-registry`: a key–value store that hosts and controllers talk to with
mutual TLS, and a proxy that forwards calls of a host to its controller.

* `getPeer` — who is calling: the common name of the verified certificate.
* `setValue`, `getValues`, `connect` — the three entry points, over the in-memory
  database `MemDB`.  What `setValue` checks is `checkSetValue`, which does not look
  at the database.
* `checkSetValue_ok`, `connect_ok` — what a call that gets through has shown.
-/

namespace Oim.Registry

/-! ## The caller -/

/-- The part of a certificate that is used. -/
structure Certificate where
  commonName : String
  deriving DecidableEq

/-- What a gRPC context says about the caller. -/
inductive PeerContext where
  /-- No peer. -/
  | absent
  /-- A peer whose `AuthInfo` is no `credentials.TLSInfo`. -/
  | insecure
  | tls (verifiedChains : List (List Certificate))
  deriving DecidableEq

/-- `getPeer`. -/
def getPeer : PeerContext → Except Status String
  | .absent => .error ⟨.failedPrecondition, "cannot determine caller identity"⟩
  | .insecure => .error ⟨.failedPrecondition, "no TLS info"⟩
  | .tls ((certificate :: _) :: _) => .ok certificate.commonName
  | .tls _ =>
    .error ⟨.failedPrecondition, "cannot determine peer, empty TLS verification chain"⟩

/-- A caller with the given common name. -/
def PeerContext.named (commonName : String) : PeerContext := .tls [[⟨commonName⟩]]

/-! ## The database -/

/-- `memRegistryDB`. -/
abbrev MemDB : Type := AList fun _ : String => String

namespace MemDB

/-- `Store`: an empty value removes the entry. -/
def store (db : MemDB) (key value : String) : MemDB :=
  if value = "" then db.erase key else db.insert key value

/-- `Lookup`: the empty string if there is no entry. -/
def lookup (db : MemDB) (key : String) : String := (AList.lookup key db).getD ""

/-- The entries.  `Foreach` visits them in an order that is not specified. -/
def pairs (db : MemDB) : List (String × String) := db.entries.map fun e => (e.1, e.2)

end MemDB

/-! ## SetValue -/

/-- `oim.Value`. -/
structure Value where
  path : String
  value : String
  deriving DecidableEq

/-- "Permission check: admin can set anything, controller only
'<controller ID>/address'." -/
def allowed (peer : String) (elements : List String) : Bool :=
  peer == "user.admin" ||
    peer == "controller." ++ elements.headD "" && elements.length == 2 &&
      elements[1]? == some registryAddress

/-- Everything `SetValue` checks: the elements and the value to be stored. -/
def checkSetValue (ctx : PeerContext) (value : Option Value) :
    Except Status (List String × String) :=
  match value with
  | none => .error (.new "missing value")
  | some value =>
    match splitRegistryPath value.path with
    | .error e => .error e
    | .ok elements =>
      if elements = [] then .error (.new "empty path")
      else match getPeer ctx with
        | .error e => .error e
        | .ok peer =>
          if allowed peer elements then .ok (elements, value.value)
          else .error ⟨.permissionDenied, "caller " ++ quote peer ++ " not allowed to set " ++
            quote (joinRegistryPath elements)⟩

/-- `SetValue`. -/
def setValue (db : MemDB) (ctx : PeerContext) (value : Option Value) : Except Status Unit × MemDB :=
  match checkSetValue ctx value with
  | .error e => (.error e, db)
  | .ok (elements, v) => (.ok (), db.store (joinRegistryPath elements) v)

/-! ## GetValues -/

/-- `GetValues`, where `visited` are the entries in the order of `Foreach`. -/
def getValues (visited : List (String × String)) (ctx : PeerContext) (path : String) :
    Except Status (List Value) :=
  match splitRegistryPath path with
  | .error e => .error e
  | .ok elements =>
    match getPeer ctx with
    | .error e => .error e
    | .ok _ => .ok ((visited.filter fun entry => startsWith entry.1 (joinRegistryPath elements)).map
        fun entry => ⟨entry.1, entry.2⟩)

/-! ## The proxy -/

/-- gRPC metadata. -/
abbrev Metadata : Type := AList fun _ : String => List String

/-- What the proxy dials: the address, the name the peer's certificate has to
have, and the metadata it passes on. -/
structure Dial where
  address : String
  serverName : String
  metadata : Metadata

/-- `streamDirector.Connect`, up to dialing. -/
def connect (db : MemDB) (ctx : PeerContext) (md : Option Metadata) (method : String) :
    Except Status Dial :=
  if "/oim.v0.Registry/".toList <+: method.toList then
    .error ⟨.unimplemented, "unknown method"⟩
  else match md with
    | none => .error ⟨.failedPrecondition, "missing metadata"⟩
    | some md =>
      match md.lookup "controllerid" with
      | some [controllerID] =>
        match getPeer ctx with
        | .error e => .error e
        | .ok peer =>
          if ¬ "host.".toList <+: peer.toList ∨ peer.toList.drop 5 ≠ controllerID.toList then
            .error ⟨.permissionDenied, "caller " ++ quote peer ++
              " not allowed to contact controller " ++ quote controllerID⟩
          else
            let address := db.lookup (controllerID ++ "/" ++ registryAddress)
            if address = "" then .error ⟨.unavailable, controllerID ++ ": no address registered"⟩
            else .ok ⟨address, "controller." ++ controllerID, md⟩
      | _ => .error ⟨.failedPrecondition, "missing or invalid controllerid meta data"⟩

/-! ## What gets through -/

theorem allowed_iff {peer : String} {elements : List String} :
    allowed peer elements = true ↔ peer = "user.admin" ∨
      ∃ id, elements = [id, registryAddress] ∧ peer = "controller." ++ id := by
  simp only [allowed, Bool.or_eq_true, Bool.and_eq_true, beq_iff_eq]
  apply or_congr_right
  constructor
  · rintro ⟨⟨hpeer, hlen⟩, hlast⟩
    obtain ⟨a, b, rfl⟩ := List.length_eq_two.1 hlen
    obtain rfl : b = registryAddress := by simpa using hlast
    exact ⟨a, rfl, hpeer⟩
  · rintro ⟨id, rfl, hpeer⟩
    exact ⟨⟨hpeer, rfl⟩, rfl⟩

theorem checkSetValue_ok {ctx : PeerContext} {value : Option Value} {es : List String}
    {v : String} (h : checkSetValue ctx value = .ok (es, v)) :
    ∃ path, value = some ⟨path, v⟩ ∧ splitRegistryPath path = .ok es ∧ es ≠ [] ∧
      ∃ peer, getPeer ctx = .ok peer ∧ allowed peer es = true := by
  unfold checkSetValue at h
  cases value with
  | none => exact absurd h (by simp)
  | some value =>
    cases hs : splitRegistryPath value.path with
    | error e => simp [hs] at h
    | ok elements =>
      simp only [hs] at h
      split_ifs at h with hne
      cases hp : getPeer ctx with
      | error e => simp [hp] at h
      | ok peer =>
        simp only [hp] at h
        split_ifs at h with hallowed
        obtain ⟨rfl, rfl⟩ := Prod.mk.inj (Except.ok.inj h)
        exact ⟨value.path, rfl, hs, hne, peer, rfl, hallowed⟩

theorem host_iff {peer id : String} :
    ¬ (¬ "host.".toList <+: peer.toList ∨ peer.toList.drop 5 ≠ id.toList) ↔
      peer = "host." ++ id := by
  rw [not_or, not_not, not_not, ← String.toList_inj, String.toList_append]
  constructor
  · rintro ⟨⟨rest, hrest⟩, hdrop⟩
    rw [← hrest] at hdrop ⊢
    rw [← hdrop]
    rfl
  · intro h
    rw [h]
    exact ⟨List.prefix_append _ _, rfl⟩

theorem connect_ok {db : MemDB} {ctx : PeerContext} {md : Option Metadata} {method : String}
    {dial : Dial} (h : connect db ctx md method = .ok dial) :
    ¬ "/oim.v0.Registry/".toList <+: method.toList ∧
    ∃ id, md = some dial.metadata ∧ dial.metadata.lookup "controllerid" = some [id] ∧
      getPeer ctx = .ok ("host." ++ id) ∧ dial.serverName = "controller." ++ id ∧
      dial.address = db.lookup (id ++ "/" ++ registryAddress) ∧ dial.address ≠ "" := by
  unfold connect at h
  split_ifs at h with hmethod
  refine ⟨hmethod, ?_⟩
  cases md with
  | none => simp at h
  | some md =>
    simp only at h
    split at h
    next id hid =>
      cases hp : getPeer ctx with
      | error e => simp [hp] at h
      | ok peer =>
        simp only [hp] at h
        split_ifs at h with hhost haddr
        obtain rfl := Except.ok.inj h
        exact ⟨id, rfl, hid, by rw [host_iff.1 hhost], rfl, rfl, haddr⟩
    next => simp at h

end Oim.Registry
