import Oim.Controller.Exclusive
import Oim.Lib.Trace
import Oim.Registry.Guarantees
import Oim.System.Tls

/-!
# A deployment

The registry, the controllers, and everybody else: the hosts with their drivers, the administrators,
and whoever else has got a certificate or access to the network.  Those others do as they please.
What the registry and the controllers do is given by their code; the network may lead any connection
to anyone, so what matters is which certificates are accepted.  Calls can get lost, and the registry
can be restarted at any time.

* `Deployment` — the configurations, as they are loaded by the commands `oim-registry` and
  `oim-controller`.
* `Deployment.Trusted` — what the certification authority has to see to.
* `Deployment.Step` — what happens, one thing at a time.
* `controllers_serve_hosts` — each controller runs as it would on its own, and each call that it
  serves has been made once by the host it belongs to.
* `mapped_until_host_releases` — so nobody else can take a volume away from a host.
* `host_call_served` — and the call of a host gets through.
-/

namespace Oim.System

open Interaction Lts
open Controller (Request CallEvent CallSys Releases MappedBy exclusive_of_empty lun_of_mappedBy)
open Registry (MemDB Metadata Value connect setValue connect_ok)
open Spdk (ConstructRBDBDevArgs)

/-! ## Messages -/

/-- The name of a call in gRPC. -/
def method : Request → String
  | .mapVolume _ _ => "/oim.v0.Controller/MapVolume"
  | .unmapVolume _ => "/oim.v0.Controller/UnmapVolume"
  | .provisionMallocBDev _ _ => "/oim.v0.Controller/ProvisionMallocBDev"
  | .checkMallocBDev _ => "/oim.v0.Controller/CheckMallocBDev"

/-- What is sent with a call. -/
inductive Payload where
  /-- For a controller. -/
  | request (req : Request)
  /-- `oim.SetValueRequest`. -/
  | value (value : Option Value)
  | other (bytes : List UInt8)

/-- A call, as it is sent. -/
structure Message where
  method : String
  metadata : Option Metadata
  payload : Payload

/-- The call that a controller makes of a message, if any. -/
def Message.request (msg : Message) : Option Request :=
  match msg.payload with
  | .request req => if msg.method = System.method req then some req else none
  | _ => none

/-- The controller that it is for. -/
def Message.controllerIDs (msg : Message) : Option (List String) :=
  msg.metadata.bind (AList.lookup "controllerid")

/-! ## The parts -/

variable {P : Pki} {H : Type}

/-- The registry and the controllers, by their IDs. -/
structure Deployment (P : Pki) where
  registryTls : TlsConfig P
  controllerTls : String → TlsConfig P
  controller : String → Controller
  /-- The images that each controller can reach. -/
  images : String → ConstructRBDBDevArgs → Option UInt64
  /-- In `oim-registry`. -/
  registry_loaded : ∃ files ca key, loadTLSConfig files ca key "" = .ok registryTls
  /-- In `oim-controller`. -/
  controller_loaded : ∀ id, ∃ files ca key,
    loadTLSConfig files ca key "component.registry" = .ok (controllerTls id)

/-- What the registry and the controllers have got so far. -/
structure State (P : Pki) where
  db : MemDB
  /-- The calls that have reached the registry and are not dealt with, with the certificates of the
  callers. -/
  pending : List (P.Cert × Message)
  /-- The calls that have reached each controller and are not dealt with. -/
  delivered : String → List Message
  controllers : String → CallSys

/-- What happens. -/
inductive Event (P : Pki) where
  /-- Somebody calls the registry. -/
  | call (client : P.Cert) (msg : Message)
  /-- The registry serves `SetValue`. -/
  | setValue (client : P.Cert) (msg : Message)
  /-- The registry does nothing but answer a call, or fails to. -/
  | answer (client : P.Cert) (msg : Message)
  /-- The registry passes a call on to the controller with this ID. -/
  | forward (client : P.Cert) (msg : Message) (id : String)
  /-- Somebody calls a controller. -/
  | direct (client : P.Cert) (msg : Message) (id : String)
  /-- The controller goes on with its calls. -/
  | controller (id : String) (e : CallEvent)
  /-- The registry starts again, with an empty database. -/
  | restart

namespace Deployment

/-- No calls so far, and SPDK in these states. -/
def start (s₀ : String → Spdk.State) : State P := ⟨∅, [], fun _ => [], fun id => Sys.start (s₀ id)⟩

/-- How the registry contacts a controller: "we check the controller's common name to ensure that we
talk to the right service". -/
def outgoingTLS (D : Deployment P) (serverName : String) : TlsConfig P :=
  { D.registryTls with serverName := serverName }

/-- A call reaches a controller. -/
def deliver (s : State P) (id : String) (msg : Message) : State P :=
  { s with delivered := Function.update s.delivered id (msg :: s.delivered id) }

/-- One thing happens, where `others` are the certificates that anybody but the registry has the
private key of. -/
inductive Step (D : Deployment P) (others : P.Cert → Prop) (hash : String → H) :
    State P → Event P → State P → Prop where
  | call {s : State P} {client : P.Cert} {msg : Message} : others client →
      D.registryTls.admits client →
      Step D others hash s (.call client msg) { s with pending := (client, msg) :: s.pending }
  | setValue {s : State P} {client : P.Cert} {msg : Message} {value : Option Value}
      {before after : List (P.Cert × Message)} : s.pending = before ++ (client, msg) :: after →
      msg.method = "/oim.v0.Registry/SetValue" → msg.payload = .value value →
      Step D others hash s (.setValue client msg)
        { s with
          pending := before ++ after
          db := (Registry.setValue s.db (D.registryTls.peerContext client) value).2 }
  | answer {s : State P} {client : P.Cert} {msg : Message}
      {before after : List (P.Cert × Message)} : s.pending = before ++ (client, msg) :: after →
      Step D others hash s (.answer client msg) { s with pending := before ++ after }
  /-- The network has led the connection to a controller, and both sides are satisfied. -/
  | forward {s : State P} {client : P.Cert} {msg : Message} {dial : Registry.Dial} {id : String}
      {before after : List (P.Cert × Message)} : s.pending = before ++ (client, msg) :: after →
      connect s.db (D.registryTls.peerContext client) msg.metadata msg.method = .ok dial →
      (D.outgoingTLS dial.serverName).accepts (D.controllerTls id).certificate →
      (D.controllerTls id).admits D.registryTls.certificate →
      Step D others hash s (.forward client msg id)
        (deliver { s with pending := before ++ after } id
          { msg with metadata := some dial.metadata })
  | direct {s : State P} {client : P.Cert} {msg : Message} {id : String} : others client →
      (D.controllerTls id).admits client →
      Step D others hash s (.direct client msg id) (deliver s id msg)
  | invoke {s : State P} {id : String} {i : ℕ} {req : Request} {σ : CallSys} {msg : Message}
      {before after : List Message} : s.delivered id = before ++ msg :: after →
      msg.request = some req →
      Interaction.Step (Spdk.server (D.images id)) (D.controller id).calls hash (s.controllers id)
        (.invoke i req) σ →
      Step D others hash s (.controller id (.invoke i req))
        { s with
          delivered := Function.update s.delivered id (before ++ after)
          controllers := Function.update s.controllers id σ }
  | controller {s : State P} {id : String} {e : CallEvent} {σ : CallSys} :
      (∀ i req, e ≠ .invoke i req) →
      Interaction.Step (Spdk.server (D.images id)) (D.controller id).calls hash (s.controllers id)
        e σ →
      Step D others hash s (.controller id e)
        { s with controllers := Function.update s.controllers id σ }
  | restart {s : State P} : Step D others hash s .restart { s with db := ∅, pending := [] }

/-- **What the certification authority has to see to**: only the registry gets a certificate in the
name of the registry, and no controller gets one that is valid for another controller. -/
structure Trusted (D : Deployment P) (others : P.Cert → Prop) : Prop where
  registry : ∀ id cert, others cert → P.chains (D.controllerTls id).clientCAs cert ≠ [] →
    P.commonName cert ≠ "component.registry"
  controllers : ∀ id id', P.validFor (D.controllerTls id').certificate ("controller." ++ id) →
    id' = id

/-! ## Accounts -/

/-- The message has this call for a controller. -/
def Carries (req : Request) (msg : Message) : Bool := msg.request = some req

/-- It is the host with this ID that makes this call, for the controller with the same ID. -/
def FromHost (id : String) (req : Request) (entry : P.Cert × Message) : Bool :=
  P.commonName entry.1 = "host." ++ id ∧ entry.2.controllerIDs = some [id] ∧
    Carries req entry.2 = true

/-- The host makes the call. -/
def Calls (id : String) (req : Request) : Event P → Bool
  | .call client msg => FromHost id req (client, msg)
  | _ => false

/-- The controller starts to serve the call. -/
def Invokes (id : String) (req : Request) : Event P → Bool
  | .controller id' (.invoke _ req') => id' = id ∧ req' = req
  | _ => false

/-- What happens in one controller. -/
def eventOf (id : String) : Event P → Option CallEvent
  | .controller id' e => if id' = id then some e else none
  | _ => none

/-- **Every call on its way has been made by the right host**, and is where it is only once. -/
structure Accounted (D : Deployment P) (es : List (Event P)) (s : State P) : Prop where
  admitted : ∀ entry ∈ s.pending, D.registryTls.admits entry.1
  count : ∀ id req, es.countP (Invokes id req) + (s.delivered id).countP (Carries req) +
    s.pending.countP (FromHost id req) ≤ es.countP (Calls id req)

section Accounts

variable {D : Deployment P} {others : P.Cert → Prop} {hash : String → H} {s s' : State P}
  {es : List (Event P)} {e : Event P} {s₀ : String → Spdk.State}

theorem accounted_start : Accounted D [] (start s₀ : State P) :=
  ⟨by simp [start], by simp [start]⟩

/-- A call that the registry passes on to a controller is one of its host. -/
theorem fromHost_of_forward (htrusted : D.Trusted others) {client : P.Cert} {msg : Message}
    {dial : Registry.Dial} {id : String} (hadmits : D.registryTls.admits client)
    (hconnect : connect s.db (D.registryTls.peerContext client) msg.metadata msg.method = .ok dial)
    (haccepts : (D.outgoingTLS dial.serverName).accepts (D.controllerTls id).certificate)
    {req : Request} (hcarries : Carries req msg = true) : FromHost id req (client, msg) = true := by
  obtain ⟨-, id', hmd, hlookup, hpeer, hname, -, -⟩ := connect_ok hconnect
  obtain rfl : id = id' := htrusted.controllers id' id (hname ▸ haccepts.2.1)
  rw [getPeer_peerContext hadmits] at hpeer
  refine decide_eq_true ⟨Except.ok.inj hpeer, ?_, hcarries⟩
  simp only [Message.controllerIDs, hmd, Option.bind_some, hlookup]

/-- Nobody else gets through to a controller. -/
theorem not_direct (htrusted : D.Trusted others) {client : P.Cert} {id : String}
    (hclient : others client) : ¬ (D.controllerTls id).admits client := by
  intro hadmits
  obtain ⟨files, ca, key, hload⟩ := D.controller_loaded id
  exact htrusted.registry id client hclient hadmits.1
    (commonName_of_admits hload (by decide) hadmits)

theorem countP_cons_toNat {α : Type} (p : α → Bool) (x : α) (l : List α) :
    (x :: l).countP p = (p x).toNat + l.countP p := by
  rw [List.countP_cons, Nat.add_comm]
  cases p x <;> rfl

theorem countP_split {α : Type} {p : α → Bool} {l before after : List α} {x : α}
    (h : l = before ++ x :: after) : l.countP p = (p x).toNat + (before ++ after).countP p := by
  rw [h, List.countP_append, List.countP_append, countP_cons_toNat, Nat.add_left_comm]

theorem countP_snoc {α : Type} (p : α → Bool) (l : List α) (x : α) :
    (l ++ [x]).countP p = (p x).toNat + l.countP p := by
  rw [countP_split rfl, List.append_nil]

theorem Accounted.admitted_of_split (h : Accounted D es s) {entry : P.Cert × Message}
    {before after : List (P.Cert × Message)} (hs : s.pending = before ++ entry :: after) :
    D.registryTls.admits entry.1 ∧ ∀ x ∈ before ++ after, D.registryTls.admits x.1 := by
  have hall := h.admitted
  rw [hs] at hall
  refine ⟨hall entry (by simp), fun x hx => hall x ?_⟩
  rcases List.mem_append.1 hx with hx | hx <;> simp [hx]

/-- The registry is done with a call. -/
theorem Accounted.drop (h : Accounted D es s) {entry : P.Cert × Message}
    {before after : List (P.Cert × Message)} (hs : s.pending = before ++ entry :: after)
    (hcalls : ∀ id req, Calls id req e = false) (hinvokes : ∀ id req, Invokes id req e = false)
    (db : MemDB) : Accounted D (es ++ [e]) { s with pending := before ++ after, db := db } := by
  refine ⟨(h.admitted_of_split hs).2, fun id req => ?_⟩
  have hcount := h.count id req
  rw [countP_split hs] at hcount
  rw [countP_snoc, countP_snoc, hcalls, hinvokes]
  simp only [Bool.toNat_false]
  omega

/-- **One step keeps the accounts.** -/
theorem Accounted.step (htrusted : D.Trusted others) (h : Accounted D es s)
    (hstep : Step D others hash s e s') : Accounted D (es ++ [e]) s' := by
  cases hstep with
  | @call client msg hclient hadmits =>
    refine ⟨?_, fun id req => ?_⟩
    · rintro entry (_ | ⟨_, hmem⟩)
      · exact hadmits
      · exact h.admitted entry hmem
    · have hcount := h.count id req
      simp only [countP_snoc, countP_cons_toNat, Invokes, Calls, Bool.toNat_false]
      omega
  | setValue hs => exact h.drop hs (fun _ _ => rfl) (fun _ _ => rfl) _
  | answer hs => exact h.drop hs (fun _ _ => rfl) (fun _ _ => rfl) _
  | @forward client msg dial id₁ before after hs hconnect haccepts _ =>
    obtain ⟨hadmits, hrest⟩ := h.admitted_of_split hs
    refine ⟨hrest, fun id req => ?_⟩
    have hcount := h.count id req
    rw [countP_split hs] at hcount
    rw [countP_snoc, countP_snoc]
    simp only [Invokes, Calls, Bool.toNat_false, deliver]
    by_cases hid : id = id₁
    · -- What the controller gets is taken from what its host has sent.
      subst hid
      have hle : (Carries req msg).toNat ≤ (FromHost id req (client, msg)).toNat := by
        cases hcarries : Carries req msg with
        | false => exact Nat.zero_le _
        | true => rw [fromHost_of_forward htrusted hadmits hconnect haccepts hcarries]
      rw [Function.update_self, countP_cons_toNat]
      have heq : Carries req { msg with metadata := some dial.metadata } = Carries req msg := rfl
      rw [heq]
      omega
    · rw [Function.update_of_ne hid]
      omega
  | direct hclient hadmits => exact absurd hadmits (not_direct htrusted hclient)
  | @invoke id₁ i req₁ σ msg before after hs hreq _ =>
    refine ⟨h.admitted, fun id req => ?_⟩
    have hcount := h.count id req
    rw [countP_snoc, countP_snoc]
    simp only [Calls, Bool.toNat_false]
    by_cases hid : id = id₁
    · subst hid
      have heq : Invokes id req (.controller id (.invoke i req₁) : Event P) = Carries req msg := by
        simp [Invokes, Carries, hreq]
      rw [countP_split hs] at hcount
      rw [Function.update_self, heq]
      omega
    · have hne : Invokes id req (.controller id₁ (.invoke i req₁) : Event P) = false := by
        simp [Invokes, Ne.symm hid]
      rw [Function.update_of_ne hid, hne]
      simp only [Bool.toNat_false]
      omega
  | @controller id₁ e σ hne _ =>
    refine ⟨h.admitted, fun id req => ?_⟩
    have hcount := h.count id req
    have hinvokes : Invokes id req (.controller id₁ e : Event P) = false := by
      cases e with
      | invoke i req₁ => exact absurd rfl (hne i req₁)
      | acquire i req₁ => rfl
      | rpc i req₁ q r => rfl
      | ret i req₁ a => rfl
    rw [countP_snoc, countP_snoc, hinvokes]
    simp only [Calls, Bool.toNat_false]
    omega
  | restart =>
    refine ⟨by simp, fun id req => ?_⟩
    have hcount := h.count id req
    rw [countP_snoc, countP_snoc]
    simp only [Invokes, Calls, Bool.toNat_false, List.countP_nil]
    omega

/-- **Every run keeps the accounts.** -/
theorem accounted_run (htrusted : D.Trusted others)
    (hrun : Trace (D.Step others hash) (start s₀) es s) : Accounted D es s := by
  induction hrun with
  | nil => exact accounted_start
  | snoc _ hstep ih => exact ih.step htrusted hstep

theorem step_update (id id₁ : String) {e : CallEvent} {σ : CallSys}
    (hstep : Interaction.Step (Spdk.server (D.images id₁)) (D.controller id₁).calls hash
      (s.controllers id₁) e σ) :
    (eventOf id (.controller id₁ e : Event P) = none ∧
      Function.update s.controllers id₁ σ id = s.controllers id) ∨
    ∃ e', eventOf id (.controller id₁ e : Event P) = some e' ∧
      Interaction.Step (Spdk.server (D.images id)) (D.controller id).calls hash (s.controllers id)
        e' (Function.update s.controllers id₁ σ id) := by
  by_cases hid : id = id₁
  · subst hid
    exact Or.inr ⟨e, if_pos rfl, by rwa [Function.update_self]⟩
  · exact Or.inl ⟨if_neg (Ne.symm hid), Function.update_of_ne hid _ _⟩

/-- A step is either one of a given controller, or nothing changes for it. -/
theorem Step.of_controller (hstep : Step D others hash s e s') (id : String) :
    (eventOf id e = none ∧ s'.controllers id = s.controllers id) ∨
    ∃ e', eventOf id e = some e' ∧ Interaction.Step (Spdk.server (D.images id))
      (D.controller id).calls hash (s.controllers id) e' (s'.controllers id) := by
  cases hstep with
  | invoke _ _ hstep => exact step_update id _ hstep
  | controller _ hstep => exact step_update id _ hstep
  | _ => exact Or.inl ⟨rfl, rfl⟩

/-- **A controller does not notice that it is not alone.** -/
theorem run_controller (hrun : Trace (D.Step others hash) (start s₀) es s) (id : String) :
    Run (Spdk.server (D.images id)) (D.controller id).calls hash (Sys.start (s₀ id))
      (es.filterMap (eventOf id)) (s.controllers id) := by
  induction hrun with
  | nil => exact .nil _
  | snoc _ hstep ih =>
    rw [List.filterMap_append]
    rcases hstep.of_controller id with ⟨hnone, hsame⟩ | ⟨e', hsome, hstep'⟩
    · simpa [hnone, hsame] using ih
    · refine run_append_iff.2 ⟨_, ih, ?_⟩
      simpa [hsome] using Run.cons hstep' (.nil _)

end Accounts

/-! ## Calls that get through -/

section Served

variable {D : Deployment P} {others : P.Cert → Prop} {hash : String → H} {s : State P}

/-- What a controller can do, it can do in the deployment. -/
theorem trace_controller {id : String} {σ σ' : CallSys} {es : List CallEvent}
    (hrun : Run (Spdk.server (D.images id)) (D.controller id).calls hash σ es σ')
    (hes : ∀ i req, .invoke i req ∉ es) (hs : s.controllers id = σ) :
    Trace (D.Step others hash) s (es.map (.controller id))
      { s with controllers := Function.update s.controllers id σ' } := by
  induction hrun generalizing s with
  | nil σ =>
    rw [← hs, Function.update_eq_self]
    exact .nil _
  | @cons σ σ₁ σ₂ e es hstep _ ih =>
    rw [List.map_cons, trace_cons_iff]
    refine ⟨_, .controller (fun i req he => hes i req (by simp [he])) (hs ▸ hstep), ?_⟩
    have hrest := ih (s := { s with controllers := Function.update s.controllers id σ₁ })
      (fun i req hmem => hes i req (List.mem_cons_of_mem _ hmem)) (Function.update_self ..)
    simpa only [Function.update_idem] using hrest

/-- None of these methods is one of the registry itself. -/
theorem not_registry_method (req : Request) :
    ¬ "/oim.v0.Registry/".toList <+: (method req).toList := by
  cases req with
  | _ =>
    rw [method]
    decide

/-- **The call of a host gets through.**  The certificates are those the two sides ask for, and the
controller is registered and not busy.  Then a call that is made by the host can reach the
controller and be served, as if the host had called it without anything in between. -/
theorem host_call_served (D : Deployment P) (others : P.Cert → Prop) (hash : String → H)
    (s : State P) (id : String) (client : P.Cert) (hclient : others client)
    (hadmits : D.registryTls.admits client) (hname : P.commonName client = "host." ++ id)
    (haccepts : (D.outgoingTLS ("controller." ++ id)).accepts (D.controllerTls id).certificate)
    (hregistry : (D.controllerTls id).admits D.registryTls.certificate)
    (haddress : s.db.lookup (id ++ "/" ++ registryAddress) ≠ "") (srv : Spdk.State)
    (hidle : s.controllers id = Sys.start srv) (req : Request)
    (hearly : (D.controller id).calls.early req = none) (md : Metadata)
    (hmd : md.lookup "controllerid" = some [id]) (i : ℕ) :
    ∃ es, (∀ client' msg, .call client' msg ∉ es) ∧ Trace (D.Step others hash) s
      (.call client ⟨method req, some md, .request req⟩ :: es ++
        [.controller id (.ret i req
          (((D.controller id).calls.body req).run (Spdk.server (D.images id)) srv).1)])
      { s with controllers := Function.update s.controllers id (Sys.start
        (((D.controller id).calls.body req).run (Spdk.server (D.images id)) srv).2) } := by
  have hpeer := (getPeer_peerContext hadmits).trans (congrArg _ hname)
  have hdial : ∃ dial, connect s.db (D.registryTls.peerContext client) (some md) (method req) =
      .ok dial ∧ dial.address = s.db.lookup (id ++ "/" ++ registryAddress) :=
    (Registry.connect_address_iff (not_registry_method req) hmd hpeer haddress).2 rfl
  obtain ⟨dial, hconnect, -⟩ := hdial
  obtain ⟨-, id', hmd', hlookup, -, hserver, -⟩ := connect_ok hconnect
  rw [← Option.some.inj hmd', hmd] at hlookup
  obtain rfl : id = id' := by simpa using hlookup
  obtain ⟨es, hrpc, hrun⟩ := run_alone (Spdk.server (D.images id)) (D.controller id).calls hash
    srv i hearly
  obtain ⟨σ₁, hinvoke, hrest⟩ := run_cons_iff.1 hrun
  have hlater : ∀ j req', .invoke j req' ∉ (.acquire i req :: es ++ [.ret i req
      (((D.controller id).calls.body req).run (Spdk.server (D.images id)) srv).1] :
        List CallEvent) := by
    intro j req' hmem
    have hes : .invoke j req' ∈ es := by simpa using hmem
    obtain ⟨q, r, heq⟩ := hrpc _ hes
    cases heq
  have htrace : Trace (D.Step others hash)
      { s with controllers := Function.update s.controllers id σ₁ } _ _ :=
    trace_controller hrest hlater (Function.update_self ..)
  simp only [Function.update_idem] at htrace
  refine ⟨.forward client ⟨method req, some md, .request req⟩ id ::
    .controller id (.invoke i req) :: (Interaction.Event.acquire i req :: es).map (.controller id),
    by simp, ?_⟩
  rw [List.cons_append, trace_cons_iff]
  refine ⟨_, .call hclient hadmits, ?_⟩
  rw [List.cons_append, trace_cons_iff]
  refine ⟨_, .forward (List.nil_append _).symm hconnect (hserver ▸ haccepts) hregistry, ?_⟩
  rw [List.cons_append, trace_cons_iff]
  refine ⟨_, .invoke ((Function.update_self ..).trans (List.nil_append _).symm) (if_pos rfl)
    (hidle ▸ hinvoke), ?_⟩
  simpa [deliver, Function.update_idem, Function.update_eq_self] using htrace

end Served

/-! ## Whose calls a controller serves -/

/-- **Controllers only work for their hosts.**  Whatever the others try, what happens in a
controller is a run of this controller alone; and at each moment it has served a call at most as
often as a client with the certificate of its host has made that call, for it, to the registry. -/
theorem controllers_serve_hosts (D : Deployment P) (others : P.Cert → Prop) (hash : String → H)
    (s₀ : String → Spdk.State) (htrusted : D.Trusted others) (es : List (Event P)) (s : State P)
    (hrun : Trace (D.Step others hash) (start s₀) es s) (id : String) :
    Run (Spdk.server (D.images id)) (D.controller id).calls hash (Sys.start (s₀ id))
      (es.filterMap (eventOf id)) (s.controllers id) ∧
    ∀ before after req, es = before ++ after →
      before.countP (Invokes id req) ≤ before.countP (Calls id req) := by
  refine ⟨run_controller hrun id, fun before after req hes => ?_⟩
  subst hes
  obtain ⟨s₁, hbefore, -⟩ := trace_append_iff.1 hrun
  have hcount := (accounted_run htrusted hbefore).count id req
  omega

/-- **Volumes stay with their hosts.**  A volume that a controller has mapped, with its SPDK empty
in the beginning, stays behind the target of the reply for as long as no client with the certificate
of the host has called for its release, whatever all the others do. -/
theorem mapped_until_host_releases (D : Deployment P) (others : P.Cert → Prop) (hash : String → H)
    (s₀ : String → Spdk.State) (htrusted : D.Trusted others) (es : List (Event P)) (s : State P)
    (hrun : Trace (D.Step others hash) (start s₀) es s) (id : String)
    (hempty : ∀ n t, (s₀ id).lun n t = none) (i : ℕ) (v : String) (params : MapParams)
    (reply : MapVolumeReply)
    (hreply : .controller id (.ret i (.mapVolume v params) (.mapped (.ok reply))) ∈ es)
    (hcalls : ∀ client msg req, .call client msg ∈ es → P.commonName client = "host." ++ id →
      msg.request = some req → ¬ Releases v req) :
    reply.scsiDisk.lun = 0 ∧ (s.controllers id).srv.lun
      ((s.controllers id).srv.resolve (D.controller id).vhostSCSI) reply.scsiDisk.target =
        some v := by
  have hlocal := run_controller hrun id
  have hret : .ret i (.mapVolume v params) (.mapped (.ok reply)) ∈ es.filterMap (eventOf id) :=
    List.mem_filterMap.2 ⟨_, hreply, if_pos rfl⟩
  obtain ⟨before, after, hsplit⟩ := List.append_of_mem hret
  have hmapped : MappedBy (es.filterMap (eventOf id)) v reply := by
    refine ⟨before, i, params, after, hsplit, fun j req hacquire => ?_⟩
    -- A call that gets its lock has been made by the host.
    have hmem : .acquire j req ∈ es.filterMap (eventOf id) := by simp [hsplit, hacquire]
    obtain ⟨e, he, heq⟩ := List.mem_filterMap.1 ((invoke_mem_of_run hlocal).2 j req hmem)
    have hinvokes : Invokes id req e = true := by
      cases e with
      | controller id' e' =>
        simp only [eventOf, Option.ite_none_right_eq_some, Option.some.injEq] at heq
        obtain ⟨rfl, rfl⟩ := heq
        simp [Invokes]
      | _ => cases heq
    have hpos : 0 < es.countP (Invokes id req) := List.countP_pos_iff.2 ⟨e, he, hinvokes⟩
    have hcount := (accounted_run htrusted hrun).count id req
    obtain ⟨e', he', hcall⟩ := List.countP_pos_iff.1 (show 0 < es.countP (Calls id req) by omega)
    cases e' with
    | call client msg =>
      obtain ⟨hname, -, hcarries⟩ := of_decide_eq_true hcall
      exact hcalls client msg req he' hname (of_decide_eq_true hcarries)
    | _ => cases hcall
  obtain ⟨t, rfl, hlun⟩ := lun_of_mappedBy (exclusive_of_empty hempty) hlocal hmapped
  exact ⟨rfl, hlun⟩

/-! ## A small deployment -/

/-- Certificates that are nothing but names. -/
def byName : Pki where
  Cert := String
  Pool := Unit
  commonName cert := cert
  chains _ cert := [[⟨cert⟩]]
  leaf := by simp
  validFor cert name := cert = name

/-- Key files, with any names, of this certificate. -/
def keyFiles (cert : String) : KeyFiles byName :=
  ⟨fun _ _ => .ok cert, fun _ => .ok "", fun _ => some ()⟩

/-- All controllers are configured in the same way. -/
def small : Deployment byName where
  registryTls := ⟨"component.registry", "", "", (), ()⟩
  controllerTls id := ⟨"controller." ++ id, "component.registry", "component.registry", (), ()⟩
  controller _ := Controller.configured
  images _ _ := none
  registry_loaded := ⟨keyFiles "component.registry", "ca.crt", "component.registry", rfl⟩
  controller_loaded id := ⟨keyFiles ("controller." ++ id), "ca.crt", "controller." ++ id, rfl⟩

/-- Everybody has all other certificates. -/
def outsiders : byName.Cert → Prop := fun cert : String => cert ≠ "component.registry"

theorem small_trusted : small.Trusted outsiders where
  registry _ _ hcert _ := hcert
  controllers _ _ h := Registry.controller_inj h

/-- The controller registers itself. -/
def registering : Message :=
  ⟨"/oim.v0.Registry/SetValue", none,
    .value (some ⟨"host-0/address", "tcp://10.0.0.1:8999"⟩)⟩

/-- Then the host maps a volume. -/
def mapping : Message :=
  ⟨"/oim.v0.Controller/MapVolume", some (AList.singleton "controllerid" ["host-0"]),
    .request (.mapVolume "vol" .malloc)⟩

/-- The state in between. -/
def registered : State byName :=
  { start fun _ => Controller.oneVolume with
    db := (setValue ∅ (.tls [[⟨"controller.host-0"⟩]])
      (some ⟨"host-0/address", "tcp://10.0.0.1:8999"⟩)).2 }

theorem small_maps : ∃ es s, (∀ client msg, .call client msg ∉ es) ∧
    Trace (small.Step outsiders id) (start fun _ => Controller.oneVolume)
      ([.call "controller.host-0" registering, .setValue "controller.host-0" registering] ++
        (.call "host.host-0" mapping :: es ++ [.controller "host-0" (.ret 0
          (.mapVolume "vol" .malloc) (.mapped (.ok (Controller.configured.mapReply 0))))])) s := by
  have hadmits : ∀ client, small.registryTls.admits client := fun client =>
    ⟨List.cons_ne_nil _ _, rfl⟩
  have hregistered : Trace (small.Step outsiders id) (start fun _ => Controller.oneVolume)
      [.call "controller.host-0" registering, .setValue "controller.host-0" registering]
      registered := by
    rw [trace_cons_iff]
    refine ⟨_, .call (by decide : "controller.host-0" ≠ "component.registry") (hadmits _), ?_⟩
    exact trace_cons_iff.2 ⟨_, .setValue (List.nil_append _).symm rfl rfl, .nil _⟩
  obtain ⟨es, hes, hserved⟩ := host_call_served small outsiders id registered "host-0" "host.host-0"
    (by decide : "host.host-0" ≠ "component.registry") (hadmits _) rfl
    ⟨List.cons_ne_nil _ _, rfl, rfl⟩ ⟨List.cons_ne_nil _ _, rfl⟩ (by decide) Controller.oneVolume
    rfl (.mapVolume "vol" .malloc) rfl (AList.singleton "controllerid" ["host-0"]) (by decide) 0
  exact ⟨es, _, hes, trace_append_iff.2 ⟨registered, hregistered, hserved⟩⟩

/-- The controller has served the call of its host. -/
theorem controllers_serve_hosts_small : ∃ (es : List (Event byName)) (s : State byName),
    .controller "host-0" (.ret 0 (.mapVolume "vol" .malloc)
      (.mapped (.ok (Controller.configured.mapReply 0)))) ∈ es ∧
    Run (Spdk.server (small.images "host-0")) (small.controller "host-0").calls id
      (Sys.start Controller.oneVolume) (es.filterMap (eventOf "host-0"))
      (s.controllers "host-0") := by
  obtain ⟨es, s, -, htrace⟩ := small_maps
  exact ⟨_, s, by simp, (controllers_serve_hosts small outsiders id _ small_trusted _ s htrace
    "host-0").1⟩

/-- And the volume is behind the first target. -/
theorem mapped_until_host_releases_small : ∃ s : State byName,
    (s.controllers "host-0").srv.lun ((s.controllers "host-0").srv.resolve "vhost.0") 0 =
      some "vol" := by
  obtain ⟨es, s, hes, htrace⟩ := small_maps
  refine ⟨s, (mapped_until_host_releases small outsiders id _ small_trusted _ s htrace "host-0"
    Controller.lun_oneVolume 0 "vol" .malloc (Controller.configured.mapReply 0) (by simp)
    fun client msg req hcall _ hreq => ?_).2⟩
  have hmem : msg = registering ∨ msg = mapping := by
    simp only [List.cons_append, List.nil_append, List.mem_cons, List.mem_append] at hcall
    rcases hcall with h | h | h | h | h
    · exact Or.inl (Event.call.inj h).2
    · cases h
    · exact Or.inr (Event.call.inj h).2
    · exact absurd h (hes client msg)
    · rcases h with h | h <;> cases h
  rcases hmem with rfl | rfl
  · cases hreq
  · have hmap : mapping.request = some (.mapVolume "vol" .malloc) := by decide
    cases Option.some.inj (hmap.symm.trans hreq)
    exact not_false

end Deployment

end Oim.System
