import Oim.Controller.Calls
import Oim.Registry.Guarantees

/-!
# Where the remote backend looks for a device

`remoteSPDK.createDevice` learns the PCI address of the device from two sides: from
the reply to `MapVolume` and from the value at `<controller ID>/pci` in the registry.
Either side may leave fields open.

* `Remote.createDevice` — the code, up to the point where it starts to wait for the
  device.
* `Resolves` — what the two sides are meant to be combined to, field by field.
* `createDevice_resolves_iff` — the replies and registry contents for which the code
  does that.  It does not when the reply has no address, when the registry has no
  entry or one that is no address, and when there are entries beneath the key.
-/

namespace Oim.Csi

open Registry (Value PeerContext Call serveAll written getValues getPeer)

/-! ## The code -/

namespace Remote

/-- One byte of a string in the text format of protocol buffers. -/
def textByte (b : UInt8) : String :=
  if b = 10 then "\\n" else if b = 13 then "\\r" else if b = 9 then "\\t"
  else if b = 34 then "\\\"" else if b = 92 then "\\\\"
  else if 32 ≤ b ∧ b < 127 then (Char.ofNat b.toNat).toString
  else "\\" ++ String.ofList ((Nat.toDigits 8 b.toNat).leftpad 3 '0')

/-- A field of a message in that format, which leaves out empty strings. -/
def textField (name value : String) : String :=
  if value = "" then ""
  else name ++ ":\"" ++ String.join (value.toUTF8.toList.map textByte) ++ "\" "

/-- The verb `%s` on a list of `oim.Value` messages. -/
def valuesText (values : List Value) : String :=
  "[" ++ " ".intercalate (values.map fun v => textField "path" v.path ++ textField "value" v.value)
    ++ "]"

/-- The address that is configured in the registry, with `none` for a panic.
`values` is what `GetValues` has returned for `path`. -/
def defPCIAddress (path : String) (values : Except Status (List Value)) :
    Option (Except Status PCIAddress) :=
  match values with
  | .error e => some (.error (.wrap e.text "get PCI address from registry"))
  | .ok [] => some (.ok ⟨0, 0, 0, 0⟩)
  | .ok [value] =>
    match parseBDFString value.value with
    | none => none
    | some (.error e) =>
      some (.error (.wrap e.message ("get PCI address from registry at path " ++ path)))
    | some (.ok p) => some (.ok p)
  | .ok values => some (.error (.new ("expected at most one PCI address in registry at path " ++
      path ++ ": " ++ valuesText values)))

/-- "If the PCI address is missing or incomplete, it must be set in the registry."
The address to wait for; the last two arguments of the error are swapped in the
source. -/
def completeAddress (path : String) (dflt : PCIAddress) (reply : MapVolumeReply) :
    Except Status PCIAddress :=
  let pciAddress := reply.pciAddress.getD ⟨0, 0, 0, 0⟩
  let merged := completePCIAddress pciAddress dflt
  let complete :=
    if merged.domain = PCIAddress.unknown then { merged with domain := 0 } else merged
  if complete.bus = PCIAddress.unknown ∨ complete.device = PCIAddress.unknown ∨
      complete.function = PCIAddress.unknown then
    .error (.new ("need complete PCI address with bus:device.function: " ++
      (prettyPCIAddress (some pciAddress) ++ " from controller, " ++
        prettyPCIAddress (some dflt) ++ " from registry at path " ++
        prettyPCIAddress (some complete) ++ " => combined " ++ path)))
  else .ok complete

/-- `remoteSPDK.createDevice`, from the connection to the registry to the address
that it waits for.  `values` is what `GetValues` returns for the path, `mapped` what
`MapVolume` returns, and `none` stands for a panic. -/
def createDevice (controllerID volumeID : String) (values : Except Status (List Value))
    (mapped : Except Status MapVolumeReply) : Option (Except Status PCIAddress) := do
  let path := controllerID ++ "/" ++ registryPCI
  match ← defPCIAddress path values with
  | .error e => return .error e
  | .ok dflt =>
    match mapped with
    | .error e => return .error (.wrap e.text ("MapVolume for " ++ volumeID))
    | .ok reply => return completeAddress path dflt reply

end Remote

/-! ## What it is meant to do -/

/-- A field of an address that is there and known. -/
def supplied (field : PCIAddress → UInt32) (addr : Option PCIAddress) : Option UInt32 :=
  (addr.map field).filter fun v => v ≠ PCIAddress.unknown

/-- The controller's value if it supplied one, otherwise the stored one. -/
def resolved (field : PCIAddress → UInt32) (reply stored : Option PCIAddress) : Option UInt32 :=
  (supplied field reply).or (supplied field stored)

/-- The device to wait for.  Only the domain has a default. -/
def expected (reply stored : Option PCIAddress) : Option PCIAddress := do
  return ⟨(resolved PCIAddress.domain reply stored).getD 0,
    ← resolved PCIAddress.bus reply stored, ← resolved PCIAddress.device reply stored,
    ← resolved PCIAddress.function reply stored⟩

/-- The error for an address that remains incomplete. -/
def NeedsComplete (e : Status) : Prop :=
  ∃ rest, e = .new ("need complete PCI address with bus:device.function: " ++ rest)

/-- The outcome is the one that the two sides call for. -/
def Resolves (reply stored : Option PCIAddress) (outcome : Option (Except Status PCIAddress)) :
    Prop :=
  match expected reply stored with
  | some addr => outcome = some (.ok addr)
  | none => ∃ e, outcome = some (.error e) ∧ NeedsComplete e

/-! ## Combining two addresses -/

/-- Bus, device and function are known. -/
def Located (p : PCIAddress) : Prop :=
  p.bus ≠ PCIAddress.unknown ∧ p.device ≠ PCIAddress.unknown ∧ p.function ≠ PCIAddress.unknown

instance : DecidablePred Located := fun _ => inferInstanceAs (Decidable (_ ∧ _ ∧ _))

/-- An address about which nothing is known. -/
def nowhere : PCIAddress :=
  ⟨PCIAddress.unknown, PCIAddress.unknown, PCIAddress.unknown, PCIAddress.unknown⟩

/-- The device at an address, with the default for the domain. -/
def locate (p : PCIAddress) : Option PCIAddress :=
  if Located p then
    some { p with domain := if p.domain = PCIAddress.unknown then 0 else p.domain }
  else none

/-- One field of the combination. -/
theorem resolved_eq {field : PCIAddress → UInt32} {reply stored : Option PCIAddress}
    (hnowhere : field nowhere = PCIAddress.unknown)
    (hfield : ∀ p q, field (completePCIAddress p q) =
      if field p = PCIAddress.unknown then field q else field p) :
    resolved field reply stored = supplied field
      (some (completePCIAddress (reply.getD nowhere) (stored.getD nowhere))) := by
  have hsome : ∀ addr : Option PCIAddress,
      supplied field addr = supplied field (some (addr.getD nowhere)) := by
    intro addr
    cases addr with
    | none => simp [supplied, hnowhere, Option.filter]
    | some p => rfl
  rw [resolved, hsome reply, hsome stored]
  simp only [supplied, Option.map_some, hfield, Option.filter]
  by_cases h : field (reply.getD nowhere) = PCIAddress.unknown <;> simp [h]

/-- What the two sides are meant to be combined to is the completed address. -/
theorem expected_eq (reply stored : Option PCIAddress) :
    expected reply stored =
      locate (completePCIAddress (reply.getD nowhere) (stored.getD nowhere)) := by
  unfold expected
  rw [resolved_eq rfl fun _ _ => rfl, resolved_eq rfl fun _ _ => rfl,
    resolved_eq rfl fun _ _ => rfl, resolved_eq rfl fun _ _ => rfl]
  generalize completePCIAddress (reply.getD nowhere) (stored.getD nowhere) = p
  unfold locate Located
  by_cases hb : p.bus = PCIAddress.unknown
  · simp [supplied, Option.filter, hb]
  by_cases hd : p.device = PCIAddress.unknown
  · simp [supplied, Option.filter, hb, hd]
  by_cases hf : p.function = PCIAddress.unknown
  · simp [supplied, Option.filter, hb, hd, hf]
  · by_cases h : p.domain = PCIAddress.unknown <;> simp [supplied, Option.filter, hb, hd, hf, h]

/-- The code locates the completed address as well; it takes a missing one for
`0000:00:00.0`. -/
theorem completeAddress_eq (path : String) (dflt : PCIAddress) (reply : MapVolumeReply) :
    match locate (completePCIAddress (reply.pciAddress.getD ⟨0, 0, 0, 0⟩) dflt) with
    | some addr => Remote.completeAddress path dflt reply = .ok addr
    | none => ∃ e, Remote.completeAddress path dflt reply = .error e ∧ NeedsComplete e := by
  simp only [Remote.completeAddress]
  generalize completePCIAddress (reply.pciAddress.getD ⟨0, 0, 0, 0⟩) dflt = p
  have hdomain : (if p.domain = PCIAddress.unknown then { p with domain := 0 } else p) =
      { p with domain := if p.domain = PCIAddress.unknown then 0 else p.domain } := by
    split_ifs <;> rfl
  simp only [hdomain]
  by_cases h : Located p
  · rw [locate, if_pos h]
    refine if_neg ?_
    rintro (hb | hd | hf)
    · exact h.1 hb
    · exact h.2.1 hd
    · exact h.2.2 hf
  · rw [locate, if_neg h]
    have hopen : p.bus = PCIAddress.unknown ∨ p.device = PCIAddress.unknown ∨
        p.function = PCIAddress.unknown := by
      by_contra hcon
      rw [not_or, not_or] at hcon
      exact h hcon
    rw [if_pos hopen]
    exact ⟨_, rfl, _, rfl⟩

theorem resolves_completeAddress_iff {reply : MapVolumeReply} {stored : Option PCIAddress}
    {path : String} {dflt : PCIAddress} :
    Resolves reply.pciAddress stored (some (Remote.completeAddress path dflt reply)) ↔
      locate (completePCIAddress (reply.pciAddress.getD nowhere) (stored.getD nowhere)) =
        locate (completePCIAddress (reply.pciAddress.getD ⟨0, 0, 0, 0⟩) dflt) := by
  have hcode := completeAddress_eq path dflt reply
  unfold Resolves
  rw [expected_eq]
  cases hc : locate (completePCIAddress (reply.pciAddress.getD ⟨0, 0, 0, 0⟩) dflt) with
  | some a =>
    rw [hc] at hcode
    cases locate (completePCIAddress (reply.pciAddress.getD nowhere) (stored.getD nowhere)) with
    | some b => simp [hcode, eq_comm]
    | none => simp [hcode]
  | none =>
    rw [hc] at hcode
    obtain ⟨e, he, hneeds⟩ := hcode
    cases locate (completePCIAddress (reply.pciAddress.getD nowhere) (stored.getD nowhere)) with
    | some b => simp [he]
    | none => simpa [he] using hneeds

/-! ### When the combinations are the same -/

theorem complete_nowhere_left (q : PCIAddress) : completePCIAddress nowhere q = q := rfl

theorem complete_nowhere_right (p : PCIAddress) : completePCIAddress p nowhere = p := by
  cases p
  simp only [completePCIAddress, nowhere, ite_eq_right_iff, PCIAddress.mk.injEq]
  exact ⟨Eq.symm, Eq.symm, Eq.symm, Eq.symm⟩

/-- Nothing is missing in `0000:00:00.0`. -/
theorem complete_zero (q : PCIAddress) : completePCIAddress ⟨0, 0, 0, 0⟩ q = ⟨0, 0, 0, 0⟩ := rfl

theorem locate_zero : locate ⟨0, 0, 0, 0⟩ = some ⟨0, 0, 0, 0⟩ := by decide

theorem locate_eq_none_iff {p : PCIAddress} : locate p = none ↔ ¬ Located p := by
  unfold locate
  split_ifs with h <;> simp [h]

theorem Located.complete {p : PCIAddress} (h : Located p) (q : PCIAddress) :
    Located (completePCIAddress p q) := by
  simp [Located, completePCIAddress, h.1, h.2.1, h.2.2]

/-- An address at zero, the domain being zero or unknown. -/
theorem locate_eq_zero_iff {q : PCIAddress} :
    locate q = some ⟨0, 0, 0, 0⟩ ↔ q.bus = 0 ∧ q.device = 0 ∧ q.function = 0 ∧
      (q.domain = 0 ∨ q.domain = PCIAddress.unknown) := by
  have hne : (0 : UInt32) ≠ PCIAddress.unknown := by decide
  unfold locate
  constructor
  · intro h
    split_ifs at h with hl hd
    · simp only [Option.some.injEq, PCIAddress.mk.injEq] at h
      exact ⟨h.2.1, h.2.2.1, h.2.2.2, Or.inr hd⟩
    · simp only [Option.some.injEq, PCIAddress.mk.injEq] at h
      exact ⟨h.2.1, h.2.2.1, h.2.2.2, Or.inl h.1⟩
  · rintro ⟨hb, hd, hf, hdom⟩
    have hl : Located q := by simp [Located, hb, hd, hf, hne]
    rw [if_pos hl, hb, hd, hf]
    rcases hdom with h | h
    · rw [h, if_neg hne]
    · rw [h, if_pos rfl]

/-- Completing a located address changes nothing but maybe the domain. -/
theorem locate_complete_iff {p q : PCIAddress} (h : Located p) :
    locate p = locate (completePCIAddress p q) ↔ p.domain ≠ PCIAddress.unknown ∨
      q.domain = 0 ∨ q.domain = PCIAddress.unknown := by
  have hzero : ∀ x : UInt32, (0 : UInt32) = (if x = PCIAddress.unknown then 0 else x) ↔
      x = 0 ∨ x = PCIAddress.unknown := by
    intro x
    by_cases hx : x = PCIAddress.unknown
    · simp [hx]
    · simp [hx, eq_comm]
  unfold locate
  rw [if_pos h, if_pos (h.complete q)]
  by_cases hd : p.domain = PCIAddress.unknown
  · simp only [completePCIAddress, hd, if_true, if_neg h.1, if_neg h.2.1, if_neg h.2.2,
      Option.some.injEq, PCIAddress.mk.injEq, and_true, ne_eq, not_true_eq_false, false_or]
    exact hzero q.domain
  · simp [completePCIAddress, hd, h.1, h.2.1, h.2.2]

/-! ## What the registry returns -/

/-- The address that is stored at exactly the given elements. -/
def storedAddress (calls : List Call) (elements : List String) : Option PCIAddress :=
  match parseBDFString (written calls elements) with
  | some (.ok q) => some q
  | _ => none

/-- The values of the entries beneath the given elements. -/
def beneath (visited : List (String × String)) (elements : List String) : List String :=
  (visited.filter fun entry =>
    elements <+: pathElements entry.1 ∧ pathElements entry.1 ≠ elements).map Prod.snd

theorem eq_singleton_of_nodup {α : Type} {l : List α} {x : α} (hl : l.Nodup) (hx : x ∈ l)
    (h : ∀ y ∈ l, y = x) : l = [x] := by
  cases l with
  | nil => exact absurd hx (by simp)
  | cons y l =>
    obtain rfl := h y List.mem_cons_self
    have hnil : l = [] := by
      rw [List.eq_nil_iff_forall_not_mem]
      intro z hz
      obtain rfl := h z (List.mem_cons_of_mem _ hz)
      exact (List.nodup_cons.1 hl).1 hz
    rw [hnil]

theorem two_le_length {α : Type} {l : List α} {x y : α} (hx : x ∈ l) (hy : y ∈ l) (hne : x ≠ y) :
    2 ≤ l.length := by
  match l with
  | [] => exact absurd hx (by simp)
  | [z] => exact absurd ((List.mem_singleton.1 hx).trans (List.mem_singleton.1 hy).symm) hne
  | _ :: _ :: _ => simp

/-- The entries that `GetValues` finds for a path. -/
def hits (visited : List (String × String)) (es : List String) : List (String × String) :=
  visited.filter fun entry => startsWith entry.1 (joinRegistryPath es)

section Hits

variable {calls : List Call} {visited : List (String × String)}
  (hvisited : visited.Perm (serveAll calls).pairs) {es : List String}
include hvisited

theorem exists_of_hit {entry : String × String} (h : entry ∈ hits visited es) :
    ∃ fs, entry = (joinRegistryPath fs, written calls fs) ∧ pathElements entry.1 = fs ∧
      written calls fs ≠ "" := by
  obtain ⟨fs, hcan, rfl, hv⟩ := Registry.exists_of_visited hvisited (List.mem_filter.1 h).1
  exact ⟨fs, rfl, pathElements_join hcan.clean, hv⟩

/-- The key itself is an entry once it is set. -/
theorem self_mem_hits (hes : Canonical es) (hv : written calls es ≠ "") :
    (joinRegistryPath es, written calls es) ∈ hits visited es := by
  refine List.mem_filter.2 ⟨Registry.mem_visited hvisited hv, ?_⟩
  exact (startsWith_join hes hes).2 List.prefix_rfl

/-- All other entries are beneath the key. -/
theorem beneath_eq (hes : Canonical es) : beneath visited es =
    ((hits visited es).filter fun entry => pathElements entry.1 ≠ es).map Prod.snd := by
  unfold beneath hits
  rw [List.filter_filter]
  refine congrArg _ (List.filter_congr fun entry hmem => ?_)
  obtain ⟨fs, hcan, rfl, -⟩ := Registry.exists_of_visited hvisited hmem
  rw [pathElements_join hcan.clean, Bool.eq_iff_iff]
  simp [startsWith_join hcan hes, and_comm]

/-- **What `GetValues` returns for a key**: the value at the key and the values
beneath it. -/
theorem getValues_key {ctx : PeerContext} {peer : String} (hpeer : getPeer ctx = .ok peer)
    {path : String} (hsplit : splitRegistryPath path = .ok es) :
    ∃ values, getValues visited ctx path = .ok values ∧
      (written calls es = "" → values.map Value.value = beneath visited es) ∧
      (written calls es ≠ "" → beneath visited es = [] →
        values.map Value.value = [written calls es]) ∧
      (written calls es ≠ "" → beneath visited es ≠ [] → 2 ≤ values.length) := by
  have hes : Canonical es := (canonical_of_split hsplit).2
  have hbelow := beneath_eq hvisited hes
  refine ⟨(hits visited es).map fun entry => ⟨entry.1, entry.2⟩, ?_, ?_, ?_, ?_⟩
  · simp only [getValues, hsplit, hpeer, hits]
  · -- nothing at the key: all entries are beneath it
    intro hnone
    rw [hbelow, List.map_map, List.filter_eq_self.2]
    · rfl
    · intro entry hmem
      obtain ⟨fs, rfl, hfs, hv⟩ := exists_of_hit hvisited hmem
      simp only [decide_eq_true_eq, hfs]
      rintro rfl
      exact hv hnone
  · intro hv hnil
    rw [hbelow, List.map_eq_nil_iff, List.filter_eq_nil_iff] at hnil
    have hnodup : (hits visited es).Nodup :=
      (List.Nodup.of_map _ (Registry.nodup_visited hvisited)).filter _
    rw [eq_singleton_of_nodup hnodup (self_mem_hits hvisited hes hv)]
    · rfl
    · intro entry hmem
      obtain ⟨fs, rfl, hfs, -⟩ := exists_of_hit hvisited hmem
      have heq : fs = es := by simpa [hfs] using hnil _ hmem
      rw [heq]
  · intro hv hne
    obtain ⟨entry, hmem, hother⟩ : ∃ entry ∈ hits visited es, pathElements entry.1 ≠ es := by
      obtain ⟨value, hvalue⟩ := List.exists_mem_of_ne_nil _ hne
      rw [hbelow] at hvalue
      obtain ⟨entry, hentry, -⟩ := List.mem_map.1 hvalue
      obtain ⟨hmem, hother⟩ := List.mem_filter.1 hentry
      exact ⟨entry, hmem, by simpa using hother⟩
    rw [List.length_map]
    refine two_le_length (self_mem_hits hvisited hes hv) hmem ?_
    rintro rfl
    exact hother (pathElements_join hes.clean)

end Hits

/-! ## The code and what it is meant to do -/

/-- The addresses for which the code does what it is meant to do.  `below` are the
values beneath the key, which should not count. -/
def Agrees (reply stored : Option PCIAddress) (below : List String) : Prop :=
  match reply, stored, below with
  | some _, some _, [] => True
  | none, some q, [] => q.bus = 0 ∧ q.device = 0 ∧ q.function = 0 ∧
      (q.domain = 0 ∨ q.domain = PCIAddress.unknown)
  | some p, none, [] => Located p
  | some p, none, [text] =>
    match parseBDFString text with
    | some (.ok q) =>
      Located p ∧ (p.domain ≠ PCIAddress.unknown ∨ q.domain = 0 ∨ q.domain = PCIAddress.unknown) ∨
        ¬ Located (completePCIAddress p q)
    | _ => False
  | _, _, _ => False

/-- Other errors are not the one about an incomplete address. -/
theorem not_resolves_error {reply stored : Option PCIAddress} {e : Status}
    (h : e.message.toList.head? ≠ some 'n') : ¬ Resolves reply stored (some (.error e)) := by
  unfold Resolves
  cases expected reply stored with
  | some addr => simp
  | none =>
    rintro ⟨e', he, rest, rfl⟩
    cases he
    apply h
    simp [Status.new]

/-- With nothing at the key or beneath it, the code assumes `0000:00:00.0`. -/
theorem resolves_empty_iff {reply : MapVolumeReply} {path : String} :
    Resolves reply.pciAddress none
        (some (Remote.completeAddress path ⟨0, 0, 0, 0⟩ reply)) ↔
      Agrees reply.pciAddress none [] := by
  rw [resolves_completeAddress_iff]
  cases reply.pciAddress with
  | none => exact iff_of_false (by decide) id
  | some p =>
    simp only [Option.getD_some, Option.getD_none, complete_nowhere_right, Agrees]
    constructor
    · intro h
      by_contra hl
      have hzero : Located (completePCIAddress p ⟨0, 0, 0, 0⟩) := by
        have hne : (0 : UInt32) ≠ PCIAddress.unknown := by decide
        refine ⟨?_, ?_, ?_⟩ <;> simp only [completePCIAddress] <;> split_ifs <;> assumption
      exact locate_eq_none_iff.1 (h ▸ locate_eq_none_iff.2 hl) hzero
    · exact fun hl => (locate_complete_iff hl).2 (Or.inr (Or.inl rfl))

/-- With an address at the key and nothing beneath it. -/
theorem resolves_stored_iff {reply : MapVolumeReply} {path : String} {q : PCIAddress} :
    Resolves reply.pciAddress (some q) (some (Remote.completeAddress path q reply)) ↔
      Agrees reply.pciAddress (some q) [] := by
  rw [resolves_completeAddress_iff]
  cases reply.pciAddress with
  | some p => exact iff_of_true rfl trivial
  | none =>
    simp only [Option.getD_some, Option.getD_none, complete_nowhere_left, complete_zero,
      locate_zero, Agrees]
    exact locate_eq_zero_iff

/-- With nothing at the key and one address beneath it, which the code takes for
the one at the key. -/
theorem resolves_beneath_iff {reply : MapVolumeReply} {path text : String} {q : PCIAddress}
    (hq : parseBDFString text = some (.ok q)) :
    Resolves reply.pciAddress none (some (Remote.completeAddress path q reply)) ↔
      Agrees reply.pciAddress none [text] := by
  rw [resolves_completeAddress_iff]
  cases reply.pciAddress with
  | none =>
    simp only [Option.getD_none, complete_zero]
    exact iff_of_false (by decide) id
  | some p =>
    simp only [Option.getD_some, Option.getD_none, complete_nowhere_right, Agrees, hq]
    by_cases hl : Located p
    · rw [locate_complete_iff hl]
      simp [hl, hl.complete q]
    · rw [locate_eq_none_iff.2 hl, eq_comm, locate_eq_none_iff]
      simp [hl]

/-- What `createDevice` makes of the values in the registry when `MapVolume`
succeeds. -/
def combine (path : String) (values : Except Status (List Value)) (reply : MapVolumeReply) :
    Option (Except Status PCIAddress) :=
  (Remote.defPCIAddress path values).bind fun
    | .error e => some (.error e)
    | .ok dflt => some (Remote.completeAddress path dflt reply)

theorem createDevice_eq (controllerID volumeID : String) (values : Except Status (List Value))
    (reply : MapVolumeReply) : Remote.createDevice controllerID volumeID values (.ok reply) =
      combine (controllerID ++ "/" ++ "pci") values reply := by
  unfold Remote.createDevice combine
  congr

/-- More than one value is an error, whatever the reply. -/
theorem not_resolves_many {reply : MapVolumeReply} {stored : Option PCIAddress} {path : String}
    {values : List Value} (h : 2 ≤ values.length) :
    ¬ Resolves reply.pciAddress stored (combine path (.ok values) reply) := by
  match values with
  | [] => exact absurd h (by simp)
  | [_] => exact absurd h (by simp)
  | _ :: _ :: _ =>
    apply not_resolves_error
    simp [Status.new]

/-- Nothing at the key. -/
theorem resolves_none_iff {reply : MapVolumeReply} {path : String} {values : List Value} :
    Resolves reply.pciAddress none (combine path (.ok values) reply) ↔
      Agrees reply.pciAddress none (values.map Value.value) := by
  match values with
  | [] => exact resolves_empty_iff
  | [value] =>
    obtain ⟨r, hr⟩ := parseBDFString_total value.value
    cases r with
    | ok q =>
      simp only [combine, Remote.defPCIAddress, hr, Option.bind_some]
      exact resolves_beneath_iff hr
    | error e =>
      simp only [combine, Remote.defPCIAddress, hr, Option.bind_some]
      refine iff_of_false (not_resolves_error ?_) ?_
      · simp [Status.wrap]
      · cases reply.pciAddress with
        | none => exact id
        | some p => simp [Agrees, hr]
  | value :: value' :: values =>
    refine iff_of_false (not_resolves_many (by simp)) ?_
    cases reply.pciAddress <;> exact id

/-- An address at the key, and nothing beneath it. -/
theorem resolves_some_iff {reply : MapVolumeReply} {path : String} {values : List Value}
    {text : String} {q : PCIAddress} (hvalues : values.map Value.value = [text])
    (hq : parseBDFString text = some (.ok q)) :
    Resolves reply.pciAddress (some q) (combine path (.ok values) reply) ↔
      Agrees reply.pciAddress (some q) [] := by
  obtain ⟨value, rfl, rfl⟩ := List.map_eq_singleton_iff.1 hvalues
  simp only [combine, Remote.defPCIAddress, hq, Option.bind_some]
  exact resolves_stored_iff

/-- Something else than an address at the key is an error, whatever is beneath it. -/
theorem not_resolves_unparsed {reply : MapVolumeReply} {stored : Option PCIAddress}
    {path text : String} {values : List Value} {e : Status}
    (he : parseBDFString text = some (.error e))
    (hvalues : values.map Value.value = [text] ∨ 2 ≤ values.length) :
    ¬ Resolves reply.pciAddress stored (combine path (.ok values) reply) := by
  rcases hvalues with hone | hmany
  · obtain ⟨value, rfl, rfl⟩ := List.map_eq_singleton_iff.1 hone
    simp only [combine, Remote.defPCIAddress, he, Option.bind_some]
    apply not_resolves_error
    simp [Status.wrap]
  · exact not_resolves_many hmany

/-- **How the PCI address is resolved.**  For every history of the registry, every
order in which its entries are visited and every reply to `MapVolume`: the code waits
for the right device, or fails because the address is incomplete, if and only if the
key `<controller ID>/pci` is accepted by the registry, there is a BDF string at it or
nothing, and the addresses are among those of `Agrees`. -/
theorem createDevice_resolves_iff (calls : List Call) (visited : List (String × String))
    (hvisited : visited.Perm (serveAll calls).pairs) (ctx : PeerContext) (peer : String)
    (hpeer : getPeer ctx = .ok peer) (controllerID volumeID : String) (reply : MapVolumeReply) :
    Resolves reply.pciAddress
        (storedAddress calls (pathElements (controllerID ++ "/" ++ "pci")))
        (Remote.createDevice controllerID volumeID
          (getValues visited ctx (controllerID ++ "/" ++ "pci")) (.ok reply)) ↔
      (∃ es, splitRegistryPath (controllerID ++ "/" ++ "pci") = .ok es) ∧
      (written calls (pathElements (controllerID ++ "/" ++ "pci")) = "" ∨
        ∃ q, parseBDFString (written calls (pathElements (controllerID ++ "/" ++ "pci"))) =
          some (.ok q)) ∧
      Agrees reply.pciAddress
        (storedAddress calls (pathElements (controllerID ++ "/" ++ "pci")))
        (beneath visited (pathElements (controllerID ++ "/" ++ "pci"))) := by
  rw [createDevice_eq]
  cases hsplit : splitRegistryPath (controllerID ++ "/" ++ "pci") with
  | error e =>
    simp only [getValues, hsplit]
    refine iff_of_false (not_resolves_error ?_) (by simp)
    simp [Status.wrap]
  | ok es =>
    obtain ⟨hes, -⟩ := canonical_of_split hsplit
    rw [← hes]
    obtain ⟨values, hvalues, hnone, hone, hmany⟩ := getValues_key hvisited hpeer hsplit
    rw [hvalues, and_iff_right ⟨es, rfl⟩]
    by_cases hempty : written calls es = ""
    · have hstored : storedAddress calls es = none := by
        rw [storedAddress, hempty]
        rfl
      rw [hstored, ← hnone hempty, and_iff_right (Or.inl hempty)]
      exact resolves_none_iff
    obtain ⟨r, hr⟩ := parseBDFString_total (written calls es)
    cases r with
    | error e =>
      refine iff_of_false (not_resolves_unparsed hr ?_) fun h => ?_
      · exact (em (beneath visited es = [])).imp (hone hempty) (hmany hempty)
      · obtain ⟨q, hq⟩ := h.1.resolve_left hempty
        exact absurd (hr.symm.trans hq) (by simp)
    | ok q =>
      have hstored : storedAddress calls es = some q := by rw [storedAddress, hr]
      rw [hstored, and_iff_right (Or.inr ⟨q, hr⟩)]
      by_cases hbelow : beneath visited es = []
      · rw [hbelow]
        exact resolves_some_iff (hone hempty hbelow) hr
      · refine iff_of_false (not_resolves_many (hmany hempty hbelow)) ?_
        obtain ⟨b, bs, hcons⟩ := List.exists_cons_of_ne_nil hbelow
        rw [hcons]
        cases reply.pciAddress <;> exact id

/-- Each side has a part of the address, and neighbours of the controller do not
matter. -/
theorem createDevice_resolves_iff_host :
    let calls : List Call :=
      [.setValue (.named "user.admin") (some ⟨"host-0/pci", "0000:3f:15."⟩),
       .setValue (.named "user.admin") (some ⟨"host-01/pci", "0000:00:04.1"⟩)]
    Remote.createDevice "host-0" "vol"
        (getValues (serveAll calls).pairs (.named "host.host-0") "host-0/pci")
        (.ok ⟨some ⟨PCIAddress.unknown, PCIAddress.unknown, 0x16, 0⟩, ⟨0, 0⟩⟩) =
      some (.ok ⟨0, 0x3f, 0x16, 0⟩) := by
  intro calls
  have hwritten : written calls ["host-0", "pci"] = "0000:3f:15." := by decide
  have hq : parseBDFString "0000:3f:15." = some (.ok ⟨0, 0x3f, 0x15, PCIAddress.unknown⟩) := by
    decide
  have hstored : storedAddress calls ["host-0", "pci"] =
      some ⟨0, 0x3f, 0x15, PCIAddress.unknown⟩ := by rw [storedAddress, hwritten, hq]
  have hbelow : beneath (serveAll calls).pairs ["host-0", "pci"] = [] := by decide
  have hpath : pathElements ("host-0" ++ "/" ++ "pci") = ["host-0", "pci"] := by decide
  have h := (createDevice_resolves_iff calls (serveAll calls).pairs (List.Perm.refl _)
    (.named "host.host-0") "host.host-0" rfl "host-0" "vol"
    ⟨some ⟨PCIAddress.unknown, PCIAddress.unknown, 0x16, 0⟩, ⟨0, 0⟩⟩).2
    ⟨⟨_, rfl⟩, by rw [hpath, hwritten]; exact Or.inr ⟨_, hq⟩,
      by rw [hpath, hstored, hbelow]; trivial⟩
  rw [hpath, hstored] at h
  exact h

/-- A controller that leaves out its address, and a registry without the key: the
code waits for the device at `0000:00:00.0`. -/
theorem createDevice_guesses_zero :
    let outcome := Remote.createDevice "host-0" "vol"
      (getValues (serveAll []).pairs (.named "host.host-0") "host-0/pci") (.ok ⟨none, ⟨0, 0⟩⟩)
    outcome = some (.ok ⟨0, 0, 0, 0⟩) ∧
      ¬ Resolves none (storedAddress [] ["host-0", "pci"]) outcome := by
  refine ⟨rfl, ?_⟩
  rintro ⟨e, he, -⟩
  cases he

end Oim.Csi
