import Oim.Registry.History

/-!
# What the registry guarantees

Over all histories of calls, by any callers, with any paths and values.

* `setValue_noninterference` — what is stored at a key depends only on the
  administrator and, for `<id>/address`, on the controller `<id>`.
* `getValues_exact` — `GetValues` returns the last written values at and below the
  requested path, each once.
* `connect_routes` — the proxy only connects a host with its own controller, at the
  address that controller or the administrator has set last.
* `registration_routes_iff` — the IDs for which a registration is found again by the
  proxy: those that are spelled without superfluous slashes (`Normal`).
-/

namespace Oim.Registry

open LastWrite

/-! ## Who writes what -/

/-- Is the call made by a caller with one of the given common names? -/
def Call.by (P : String → Prop) [DecidablePred P] (call : Call) : Bool :=
  match getPeer call.ctx with
  | .ok peer => P peer
  | .error _ => false

theorem Call.by_iff {P : String → Prop} [DecidablePred P] {call : Call} :
    call.by P = true ↔ ∃ peer, getPeer call.ctx = .ok peer ∧ P peer := by
  unfold Call.by
  cases getPeer call.ctx <;> simp

theorem join_address (id : String) :
    joinRegistryPath [id, registryAddress] = id ++ "/" ++ registryAddress := by
  rfl

/-! The common names and keys that are made by concatenation. -/

theorem controller_ne_admin (id : String) : "controller." ++ id ≠ "user.admin" := by
  intro h
  have hlist := congrArg String.toList h
  rw [String.toList_append] at hlist
  exact absurd (congrArg List.head? hlist) (by simp)

theorem controller_inj {id id' : String} (h : "controller." ++ id = "controller." ++ id') :
    id = id' := by
  rw [← String.toList_inj, String.toList_append, String.toList_append] at h
  exact String.toList_injective (List.append_cancel_left h)

theorem address_inj {id id' : String}
    (h : id ++ "/" ++ registryAddress = id' ++ "/" ++ registryAddress) : id = id' := by
  simp only [← String.toList_inj, String.toList_append, List.append_assoc] at h
  exact String.toList_injective (List.append_cancel_right h)

/-- A call that changes a key is made by the administrator, or it is made by a
controller and the key is its own address. -/
theorem Call.by_of_store {call : Call} {k v : String} (h : call.store = some (k, v)) :
    ∃ peer, getPeer call.ctx = .ok peer ∧
      (peer = "user.admin" ∨
        ∃ id, k = id ++ "/" ++ registryAddress ∧ peer = "controller." ++ id) := by
  obtain ⟨es, hes, rfl⟩ := Call.store_eq_some h
  obtain ⟨-, -, peer, hpeer, hadmin | ⟨id, rfl, hcontroller⟩⟩ := Call.write_eq_some hes
  · exact ⟨peer, hpeer, Or.inl hadmin⟩
  · exact ⟨peer, hpeer, Or.inr ⟨id, join_address id, hcontroller⟩⟩

/-- The callers that may write a list of elements. -/
def Writer (elements : List String) (peer : String) : Prop :=
  peer = "user.admin" ∨ ∃ id, elements = [id, "address"] ∧ peer = "controller." ++ id

instance (elements : List String) : DecidablePred (Writer elements) := fun _ =>
  decidable_of_iff _ allowed_iff

/-- A call that changes a key, seen from the elements of the key: these may be
any, also empty ones, as long as the slashes are between them. -/
theorem Call.by_writer {call : Call} {es : List String} {v : String}
    (hes : ∀ e ∈ es, '/' ∉ e.toList) (h : call.store = some (joinRegistryPath es, v)) :
    call.by (Writer es) = true := by
  rw [Call.by_iff]
  obtain ⟨fs, hfs, hjoin⟩ := Call.store_eq_some h
  obtain ⟨hcan, hne, peer, hpeer, hwho⟩ := Call.write_eq_some hfs
  have hesne : es ≠ [] := by
    rintro rfl
    exact hne ((join_eq_empty_iff hcan).1 hjoin.symm)
  have heq : es.map String.toList = fs.map String.toList := by
    have hslash : ∀ e ∈ es.map String.toList, '/' ∉ e := by simpa using hes
    refine Fields.join_inj_of_ne_nil hslash (fun f hf => (hcan.clean f hf).2)
      (by simpa using hesne) (by simpa using hne) ?_
    rw [← toList_join, ← toList_join, hjoin]
  have hmap : es = fs := List.map_injective_iff.2 (fun _ _ h => String.toList_injective h) heq
  exact ⟨peer, hpeer, hmap ▸ hwho⟩

/-- **Registry writes do not interfere.**  The value at a key is the one obtained
by replaying only the calls of those who may write it; in particular a controller
changes nothing but its own address. -/
theorem setValue_noninterference (calls : List Call) (es : List String)
    (hes : ∀ e ∈ es, '/' ∉ e.toList) :
    (serveAll calls).lookup (joinRegistryPath es) =
      (serveAll (calls.filter fun call => call.by (Writer es))).lookup (joinRegistryPath es) ∧
    ∀ (db : MemDB) (ctx : PeerContext) (value : Option Value) (id k : String),
      getPeer ctx = .ok ("controller." ++ id) → k ≠ id ++ "/" ++ "address" →
      (setValue db ctx value).2.lookup k = db.lookup k := by
  constructor
  · exact (lookup_filter fun call _ v h => Call.by_writer hes h).symm
  · intro db ctx value id k hpeer hk
    show (serve db (.setValue ctx value)).lookup k = db.lookup k
    rw [serve_eq]
    cases hs : (Call.setValue ctx value).store with
    | none => rfl
    | some w =>
      have hw : w.1 = id ++ "/" ++ registryAddress := by
        obtain ⟨peer, hpeer', hwho⟩ := Call.by_of_store hs
        obtain rfl : peer = "controller." ++ id := Except.ok.inj (hpeer'.symm.trans hpeer)
        rcases hwho with hadmin | ⟨id', hid', hcontroller⟩
        · exact absurd hadmin (controller_ne_admin id)
        · rw [hid', controller_inj hcontroller]
      have hne : w.1 ≠ k := fun he => hk (he.symm.trans hw)
      simp only [MemDB.lookup, lookup_store, if_neg hne]

/-- A foreign controller cannot replace the address, whatever the spelling. -/
theorem setValue_noninterference_address :
    let calls : List Call :=
      [.setValue (.named "controller.host-0") (some ⟨"host-0/address", "tcp://10.0.0.1:8999"⟩),
       .setValue (.named "controller.host-1") (some ⟨"//host-0//address/", "tcp://10.0.0.2:8999"⟩)]
    (serveAll calls).lookup "host-0/address" =
      (serveAll (calls.filter fun call => call.by (Writer ["host-0", "address"]))).lookup
        "host-0/address" :=
  (setValue_noninterference _ ["host-0", "address"] (by decide)).1

/-! ## Reading -/

theorem mem_pairs {db : MemDB} {k v : String} :
    (k, v) ∈ db.pairs ↔ AList.lookup k db = some v := by
  rw [← Option.mem_def, AList.mem_lookup_iff]
  unfold MemDB.pairs
  constructor
  · intro h
    obtain ⟨e, he, heq⟩ := List.mem_map.1 h
    obtain ⟨rfl, rfl⟩ := Prod.mk.inj heq
    exact he
  · intro h
    exact List.mem_map.2 ⟨_, h, rfl⟩

theorem nodup_pairs (db : MemDB) : (db.pairs.map Prod.fst).Nodup := by
  unfold MemDB.pairs
  rw [List.map_map]
  exact db.nodupKeys

/-! What `Foreach` visits, in whatever order. -/

section Visited

variable {calls : List Call} {visited : List (String × String)}
  (hvisited : visited.Perm (serveAll calls).pairs)

include hvisited

/-- An entry is the last value written to some elements. -/
theorem exists_of_visited {entry : String × String} (h : entry ∈ visited) :
    ∃ es, Canonical es ∧ entry = (joinRegistryPath es, written calls es) ∧
      written calls es ≠ "" := by
  obtain ⟨k, v⟩ := entry
  obtain ⟨es, hcan, rfl, rfl, hv⟩ := exists_of_lookup (mem_pairs.1 (hvisited.mem_iff.1 h))
  exact ⟨es, hcan, rfl, hv⟩

/-- All elements with a value are visited. -/
theorem mem_visited {es : List String} (h : written calls es ≠ "") :
    (joinRegistryPath es, written calls es) ∈ visited :=
  hvisited.mem_iff.2 (mem_pairs.2 (lookup_of_written h).2)

theorem nodup_visited : (visited.map Prod.fst).Nodup :=
  (hvisited.map Prod.fst).nodup_iff.2 (nodup_pairs _)

end Visited

/-- **Reads match writes.**  In whatever order the entries are visited, and for
every accepted path: one entry for each list of elements at or below the path
whose last written value is not empty, with that value, and nothing else. -/
theorem getValues_exact (calls : List Call) (visited : List (String × String))
    (hvisited : visited.Perm (serveAll calls).pairs) (ctx : PeerContext) (peer : String)
    (hpeer : getPeer ctx = .ok peer) (q : String) (qs : List String)
    (hq : splitRegistryPath q = .ok qs) :
    ∃ ess : List (List String), ess.Nodup ∧
      (∀ es, es ∈ ess ↔ qs <+: es ∧ written calls es ≠ "") ∧
      getValues visited ctx q =
        .ok (ess.map fun es => ⟨joinRegistryPath es, written calls es⟩) := by
  have hqs : Canonical qs := (canonical_of_split hq).2
  set hits := visited.filter fun entry => startsWith entry.1 (joinRegistryPath qs) with hhits
  -- what each entry found stands for
  have hentry : ∀ entry ∈ hits, ∃ es, Canonical es ∧ qs <+: es ∧
      entry = (joinRegistryPath es, written calls es) ∧ written calls es ≠ "" := by
    intro entry hmem
    obtain ⟨hvis, hstart⟩ := List.mem_filter.1 hmem
    obtain ⟨es, hcan, rfl, hv⟩ := exists_of_visited hvisited hvis
    exact ⟨es, hcan, (startsWith_join hcan hqs).1 hstart, rfl, hv⟩
  have hback : ∀ entry ∈ hits, (joinRegistryPath (pathElements entry.1),
      written calls (pathElements entry.1)) = entry := by
    intro entry hmem
    obtain ⟨es, hcan, -, rfl, -⟩ := hentry entry hmem
    rw [pathElements_join hcan.clean]
  refine ⟨hits.map fun entry => pathElements entry.1, ?_, ?_, ?_⟩
  · -- different keys have different elements
    have hkeys : (hits.map Prod.fst).Nodup :=
      (nodup_visited hvisited).sublist (List.filter_sublist.map _)
    refine List.Nodup.map_on ?_ hkeys.of_map
    intro entry hmem entry' hmem' heq
    rw [← hback entry hmem, ← hback entry' hmem', heq]
  · intro es
    constructor
    · intro hes
      obtain ⟨entry, hmem, rfl⟩ := List.mem_map.1 hes
      obtain ⟨es, hcan, hstarts, rfl, hv⟩ := hentry entry hmem
      rw [pathElements_join hcan.clean]
      exact ⟨hstarts, hv⟩
    · rintro ⟨hstarts, hv⟩
      have hcan := (lookup_of_written hv).1
      refine List.mem_map.2 ⟨(joinRegistryPath es, written calls es), ?_,
        pathElements_join hcan.clean⟩
      exact List.mem_filter.2 ⟨mem_visited hvisited hv, (startsWith_join hcan hqs).2 hstarts⟩
  · simp only [getValues, hq, hpeer, List.map_map, ← hhits]
    refine congrArg Except.ok (List.map_congr_left fun entry hmem => ?_)
    exact congrArg (fun e : String × String => Value.mk e.1 e.2) (hback entry hmem).symm

/-- A neighbour whose name merely starts with the same letters is not listed. -/
theorem getValues_exact_host :
    let calls : List Call :=
      [.setValue (.named "controller.host-0") (some ⟨"/host-0//address/", "tcp://10.0.0.1:8999"⟩),
       .setValue (.named "user.admin") (some ⟨"host-01/address", "tcp://10.0.0.2:8999"⟩)]
    ∃ ess : List (List String),
      getValues (serveAll calls).pairs (.named "host.host-0") "host-0" =
        .ok (ess.map fun es => ⟨joinRegistryPath es, written calls es⟩) ∧
      ["host-0", "address"] ∈ ess ∧ ["host-01", "address"] ∉ ess := by
  intro calls
  obtain ⟨ess, -, hmem, hget⟩ := getValues_exact calls _ (List.Perm.refl _) (.named "host.host-0")
    "host.host-0" rfl "host-0" ["host-0"] rfl
  exact ⟨ess, hget, (hmem _).2 (by decide), fun h => absurd ((hmem _).1 h).1 (by decide)⟩

/-! ## The proxy -/

/-- The callers that may write the address of a controller. -/
def AddressWriter (id peer : String) : Prop := peer = "user.admin" ∨ peer = "controller." ++ id

instance (id : String) : DecidablePred (AddressWriter id) := fun _ =>
  inferInstanceAs (Decidable (_ ∨ _))

theorem Call.by_addressWriter {call : Call} {id v : String}
    (h : call.store = some (id ++ "/" ++ registryAddress, v)) :
    ∃ peer, getPeer call.ctx = .ok peer ∧ AddressWriter id peer := by
  obtain ⟨peer, hpeer, hadmin | ⟨id', hid', hcontroller⟩⟩ := Call.by_of_store h
  · exact ⟨peer, hpeer, Or.inl hadmin⟩
  · exact ⟨peer, hpeer, Or.inr (address_inj hid' ▸ hcontroller)⟩

/-- An address comes from the last call that wrote it. -/
theorem exists_of_lookup_ne {calls : List Call} {k : String}
    (h : (serveAll calls).lookup k ≠ "") :
    ∃ before call after, calls = before ++ call :: after ∧
      call.store = some (k, (serveAll calls).lookup k) ∧
      ∀ call' ∈ after, ∀ v, call'.store ≠ some (k, v) := by
  unfold MemDB.lookup at h ⊢
  cases hl : AList.lookup k (serveAll calls) with
  | none => rw [hl] at h; exact absurd rfl h
  | some v =>
    rw [lookup_serveAll, Option.filter_eq_some_iff] at hl
    exact exists_of_lastWrite_filterMap hl.1

/-- **The proxy routes safely.**  For every history and every controller ID
whatsoever: a connection is only made for the host of that ID, to a peer that has
to be its controller, at the address last set by the administrator or that
controller and not deleted since; and nobody else's writes matter for it. -/
theorem connect_routes (calls : List Call) (ctx : PeerContext) (md : Metadata) (method : String)
    (id : String) (hid : md.lookup "controllerid" = some [id]) :
    (∀ dial, connect (serveAll calls) ctx (some md) method = .ok dial →
      ¬ "/oim.v0.Registry/".toList <+: method.toList ∧
      getPeer ctx = .ok ("host." ++ id) ∧
      dial.serverName = "controller." ++ id ∧
      dial.address ≠ "" ∧
      ∃ before call after peer, calls = before ++ call :: after ∧
        call.store = some (id ++ "/" ++ "address", dial.address) ∧
        getPeer call.ctx = .ok peer ∧ (peer = "user.admin" ∨ peer = "controller." ++ id) ∧
        ∀ call' ∈ after, ∀ v, call'.store ≠ some (id ++ "/" ++ "address", v)) ∧
    connect (serveAll calls) ctx (some md) method =
      connect (serveAll (calls.filter fun call => call.by (AddressWriter id))) ctx (some md)
        method := by
  constructor
  · intro dial hdial
    obtain ⟨hmethod, id', hmd, hid', hpeer, hserver, haddr, hne⟩ := connect_ok hdial
    obtain rfl : md = dial.metadata := Option.some.inj hmd
    obtain rfl : id = id' := by simpa using hid.symm.trans hid'
    refine ⟨hmethod, hpeer, hserver, hne, ?_⟩
    rw [haddr] at hne ⊢
    obtain ⟨before, call, after, hsplit, hstore, hafter⟩ := exists_of_lookup_ne hne
    obtain ⟨peer, hwriter, hwho⟩ := Call.by_addressWriter hstore
    exact ⟨before, call, after, peer, hsplit, hstore, hwriter, hwho, hafter⟩
  · have hlook : (serveAll (calls.filter fun call => call.by (AddressWriter id))).lookup
        (id ++ "/" ++ registryAddress) = (serveAll calls).lookup (id ++ "/" ++ registryAddress) :=
      lookup_filter fun call _ v h => Call.by_iff.2 (Call.by_addressWriter h)
    simp only [connect, hid, hlook]

/-- A host and its controller, among others. -/
theorem connect_routes_host :
    let calls : List Call :=
      [.setValue (.named "controller.host-0") (some ⟨"host-0/address", "tcp://10.0.0.1:8999"⟩),
       .setValue (.named "controller.host-1") (some ⟨"host-0/address", "tcp://10.0.0.2:8999"⟩)]
    let md : Metadata := AList.singleton "controllerid" ["host-0"]
    ∃ dial, connect (serveAll calls) (.named "host.host-0") (some md)
        "/oim.v0.Controller/MapVolume" = .ok dial ∧
      dial.serverName = "controller.host-0" ∧ dial.address ≠ "" := by
  intro calls md
  refine ⟨_, rfl, ?_⟩
  have h := (connect_routes calls (.named "host.host-0") md "/oim.v0.Controller/MapVolume"
    "host-0" rfl).1 _ rfl
  exact ⟨h.2.2.1, h.2.2.2.1⟩

/-! ## Registration and routing -/

/-- What `Controller.register` sends. -/
def registration (id address : String) : Value := ⟨id ++ "/" ++ registryAddress, address⟩

/-- An ID that is spelled as the registry would spell it: not empty, and without
leading, trailing or repeated slashes. -/
def Normal (id : String) : Prop := id ≠ "" ∧ joinRegistryPath (pathElements id) = id

instance : DecidablePred Normal := fun _ => inferInstanceAs (Decidable (_ ∧ _))

theorem Normal.elements_ne {id : String} (h : Normal id) : pathElements id ≠ [] := by
  intro he
  apply h.1
  rw [← h.2, he]
  rfl

/-- The elements that an accepted registration is stored under. -/
theorem registration_ok {ctx : PeerContext} {id address : String} {w : List String × String}
    (h : checkSetValue ctx (some (registration id address)) = .ok w) :
    w = (pathElements id ++ [registryAddress], address) ∧ Canonical w.1 ∧
      ∃ peer, getPeer ctx = .ok peer ∧ allowed peer w.1 = true := by
  obtain ⟨es, v⟩ := w
  obtain ⟨path, hvalue, hsplit, -, peer, hpeer, hallowed⟩ := checkSetValue_ok h
  obtain ⟨rfl, rfl⟩ := Value.mk.inj (Option.some.inj hvalue)
  obtain ⟨rfl, hcan⟩ := canonical_of_split hsplit
  refine ⟨?_, hcan, peer, hpeer, hallowed⟩
  rw [pathElements_slash, show pathElements registryAddress = [registryAddress] by decide]

/-- The key of a registration is the one the proxy looks up exactly for a normal
ID. -/
theorem join_registration_iff {id : String} :
    joinRegistryPath (pathElements id ++ [registryAddress]) = id ++ "/" ++ registryAddress ↔
      Normal id := by
  constructor
  · intro h
    have hne : pathElements id ≠ [] := by
      intro he
      rw [he, List.nil_append] at h
      have hlen := congrArg String.length h
      simp only [String.length_append] at hlen
      have hone : "/".length = 1 := by decide
      have haddr : (joinRegistryPath [registryAddress]).length = registryAddress.length := by decide
      omega
    refine ⟨?_, ?_⟩
    · rintro rfl
      exact hne (by decide)
    · rw [join_concat hne] at h
      exact address_inj h
  · intro h
    rw [join_concat h.elements_ne, h.2]

/-- A value stays until its key is written again. -/
theorem lookup_of_last_store {before after : List Call} {call : Call} {k v : String}
    (hstore : call.store = some (k, v)) (hv : v ≠ "")
    (hafter : ∀ call' ∈ after, ∀ v', call'.store ≠ some (k, v')) :
    (serveAll (before ++ call :: after)).lookup k = v := by
  have hlast : lastWrite ((before ++ call :: after).filterMap Call.store) k = some v := by
    rw [List.filterMap_append, List.filterMap_cons_some hstore]
    refine lastWrite_eq_some_iff.2 ⟨_, _, rfl, ?_⟩
    rintro ⟨k', v'⟩ hw rfl
    obtain ⟨call', hmem, hcall'⟩ := List.mem_filterMap.1 hw
    exact hafter call' hmem v' hcall'
  unfold MemDB.lookup
  rw [lookup_serveAll, hlast]
  simp [Option.filter, hv]

/-- Every key that has a value is spelled as the registry spells it. -/
theorem join_pathElements_of_lookup {calls : List Call} {k : String}
    (h : (serveAll calls).lookup k ≠ "") : joinRegistryPath (pathElements k) = k := by
  obtain ⟨-, call, -, -, hstore, -⟩ := exists_of_lookup_ne h
  obtain ⟨es, hes, rfl⟩ := Call.store_eq_some hstore
  rw [pathElements_join (Call.write_eq_some hes).1.clean]

/-- Where a call of the right host is dialled to. -/
theorem connect_address_iff {db : MemDB} {ctx : PeerContext} {md : Metadata} {method id a : String}
    (hmethod : ¬ "/oim.v0.Registry/".toList <+: method.toList)
    (hmd : md.lookup "controllerid" = some [id]) (hpeer : getPeer ctx = .ok ("host." ++ id))
    (ha : a ≠ "") :
    (∃ dial, connect db ctx (some md) method = .ok dial ∧ dial.address = a) ↔
      db.lookup (id ++ "/" ++ registryAddress) = a := by
  constructor
  · rintro ⟨dial, hdial, rfl⟩
    obtain ⟨-, id', hmd', hid', -, -, haddr, -⟩ := connect_ok hdial
    obtain rfl : md = dial.metadata := Option.some.inj hmd'
    obtain rfl : id = id' := by simpa using hmd.symm.trans hid'
    exact haddr.symm
  · intro hlookup
    refine ⟨⟨a, "controller." ++ id, md⟩, ?_, rfl⟩
    simp only [connect, if_neg hmethod, hmd, hpeer, if_neg (host_iff.2 rfl), hlookup, if_neg ha]

/-- **Registration and routing use the same key exactly for normal IDs.**  Whoever
registers an address for `id`, whatever happened before and as long as the key of
the registration is not written again: calls of the host `id` are dialled to that
address if and only if `id` is normal.  A controller can only register itself
under a normal ID. -/
theorem registration_routes_iff (before after : List Call) (ctx host : PeerContext)
    (id address : String) (haddr : address ≠ "")
    (hok : (setValue (serveAll before) ctx (some (registration id address))).1 = .ok ())
    (hafter : ∀ call ∈ after, ∀ v, call.store ≠
      some (joinRegistryPath (pathElements (registration id address).path), v))
    (hhost : getPeer host = .ok ("host." ++ id)) (md : Metadata)
    (hmd : md.lookup "controllerid" = some [id]) (method : String)
    (hmethod : ¬ "/oim.v0.Registry/".toList <+: method.toList) :
    ((∃ dial, connect (serveAll (before ++ .setValue ctx (some (registration id address)) :: after))
        host (some md) method = .ok dial ∧ dial.address = address) ↔ Normal id) ∧
    (getPeer ctx = .ok ("controller." ++ id) → Normal id) := by
  have hpath : pathElements (registration id address).path =
      pathElements id ++ [registryAddress] := pathElements_slash id registryAddress
  rw [hpath] at hafter
  obtain ⟨w, hw⟩ : ∃ w, checkSetValue ctx (some (registration id address)) = .ok w := by
    unfold setValue at hok
    cases hc : checkSetValue ctx (some (registration id address)) with
    | error e => rw [hc] at hok; exact absurd hok (by simp)
    | ok w => exact ⟨w, rfl⟩
  obtain ⟨rfl, hcan, peer, hpeer, hallowed⟩ := registration_ok hw
  have hstore : (Call.setValue ctx (some (registration id address))).store =
      some (joinRegistryPath (pathElements id ++ [registryAddress]), address) := by
    simp only [Call.store, Call.write, hw, Except.toOption, Option.map_some]
  rw [connect_address_iff hmethod hmd hhost haddr]
  refine ⟨⟨fun h => ?_, fun h => ?_⟩, fun h => ?_⟩
  · -- the proxy finds something only under a key that is spelled right
    have hfound : (serveAll (before ++ .setValue ctx (some (registration id address)) ::
        after)).lookup (registration id address).path ≠ "" := fun h' => haddr (h.symm.trans h')
    rw [← join_registration_iff, ← hpath]
    exact join_pathElements_of_lookup hfound
  · rw [← join_registration_iff.2 h]
    exact lookup_of_last_store hstore haddr hafter
  · obtain rfl : peer = "controller." ++ id := Except.ok.inj (hpeer.symm.trans h)
    rcases allowed_iff.1 hallowed with hadmin | ⟨id', helements, hid'⟩
    · exact absurd hadmin (controller_ne_admin id)
    · obtain rfl := controller_inj hid'
      have hone : pathElements id = [id] := List.append_cancel_right helements
      have hne := (hcan id (by simp [hone])).1
      exact ⟨hne, by rw [hone]; rfl⟩

/-- A normal ID, registered by the controller itself. -/
theorem registration_routes_iff_host :
    let call : Call := .setValue (.named "controller.host-0")
      (some (registration "host-0" "tcp://10.0.0.1:8999"))
    ∃ dial, connect (serveAll [call]) (.named "host.host-0")
        (some (AList.singleton "controllerid" ["host-0"])) "/oim.v0.Controller/MapVolume" =
          .ok dial ∧ dial.address = "tcp://10.0.0.1:8999" :=
  (registration_routes_iff [] [] (.named "controller.host-0") (.named "host.host-0") "host-0"
    "tcp://10.0.0.1:8999" (by decide) rfl (by simp) rfl _ rfl "/oim.v0.Controller/MapVolume"
    (by decide)).1.2 (by decide)

/-- An ID with a slash at its end: the registration is accepted, and the proxy
reports that there is no address. -/
theorem registration_lost_slash :
    (setValue ∅ (.named "user.admin") (some (registration "host-0/" "tcp://10.0.0.1:8999"))).1 =
      .ok () ∧
    ∃ e, connect (serveAll [.setValue (.named "user.admin")
        (some (registration "host-0/" "tcp://10.0.0.1:8999"))]) (.named "host.host-0/")
        (some (AList.singleton "controllerid" ["host-0/"])) "/oim.v0.Controller/MapVolume" =
          .error e :=
  ⟨rfl, ⟨.unavailable, "host-0/: no address registered"⟩, rfl⟩

end Oim.Registry
