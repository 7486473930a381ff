import Oim.Lib.Binary64
import Oim.Lib.Trace

/-!
# The JSON-RPC codec

`pkg/spdk/client.go`: the codec between `net/rpc` and an SPDK daemon.  `net/rpc` numbers its
calls and keeps them in a table until a response with their number comes; the codec keeps
the method names in a table of its own, because a JSON-RPC response does not repeat them.

* `ClientCodec.writeRequest`, `readResponseHeader`, `readResponseBody` — the codec.
* `State.apply` — the codec below `net/rpc`: calls, messages that arrive, lost connections.
* `Ledger` — what is to be expected: a request waits until a message with its id comes.
* `responses_delivered_iff` — each response reaches its call, and no other message reaches
  one, as long as `Orderly` holds of all that happens.  It does not hold of a message without
  an id while request 0 waits: a missing id is read as 0.  Nor does it hold of a message that
  cannot be decoded while any request waits.
* `replies_safe` — whatever arrives, the codec does not panic, and a reply is a success only
  if it has a result and no error.
-/

namespace Oim.Spdk.Codec

open Lts

/-! ## Messages -/

/-- A JSON value. -/
inductive Json where
  | null
  | bool (b : Bool)
  | number (q : ℚ)
  | string (s : String)
  | array (elements : List Json)
  | object (members : List (String × Json))

/-- A member of an object, as in the map that it is decoded to: the last one counts. -/
def member? (members : List (String × Json)) (key : String) : Option Json :=
  members.reverse.lookup key

mutual

/-- Can the JSON package decode the value to an `interface{}`?  It makes every number in it a
`float64`, and fails if one is too large. -/
def Json.decodable : Json → Bool
  | .null | .bool _ | .string _ => true
  | .number q => |Binary64.round q| < 2 ^ 1024
  | .array elements => decodableElements elements
  | .object members => decodableMembers members

def decodableElements : List Json → Bool
  | [] => true
  | json :: rest => json.decodable && decodableElements rest

/-- All members count, also those that are overwritten. -/
def decodableMembers : List (String × Json) → Bool
  | [] => true
  | (_, json) :: rest => json.decodable && decodableMembers rest

end

theorem decodable_intCast {n : ℤ} (h : |n| ≤ 2 ^ 53) : (Json.number n).decodable = true := by
  have hround := Binary64.round_eq_self_iff.2 (Binary64.representable_intCast h)
  have hsmall : |(n : ℚ)| ≤ 2 ^ 53 := by exact_mod_cast h
  simp only [Json.decodable, hround, decide_eq_true_eq]
  exact hsmall.trans_lt (pow_lt_pow_right₀ (by norm_num) (by norm_num))

/-- The member `id` of a message. -/
inductive MessageId where
  | absent
  | null
  | number (n : UInt64)
  /-- Anything that does not fit into a `uint64`. -/
  | other
  deriving DecidableEq

/-- A JSON object that arrives, in which no member is repeated.  `none` stands for a member that is
absent. -/
structure Message where
  id : MessageId
  result : Option Json
  error : Option Json

/-- The message can be decoded.  The result is not, at first. -/
def Message.Decodable (m : Message) : Prop :=
  m.id ≠ .other ∧ m.error.all Json.decodable = true

instance : DecidablePred Message.Decodable := fun _ => inferInstanceAs (Decidable (_ ∧ _))

/-! ## The codec -/

/-- `clientRequest`. -/
structure ClientRequest where
  version : String
  method : String
  params : Option Json
  id : UInt64

/-- `clientResponse`.  No result and the result `null` are the same. -/
structure ClientResponse where
  id : UInt64
  result : Option Json
  error : Json

/-- `clientResponse.reset`. -/
def ClientResponse.reset : ClientResponse := ⟨0, none, .null⟩

/-- A `*json.RawMessage` in the buffer: it is nil after `null`. -/
def decodeResult (buffer : Option Json) : Option Json → Option Json
  | none => buffer
  | some .null => none
  | some result => some result

/-- `json.Decoder.Decode` into the buffer.  A member that is absent leaves the buffer as it is,
and so does `null` for a number.  There is no response if the id does not fit, or if a number in
the error does not. -/
def ClientResponse.decode (buffer : ClientResponse) (m : Message) : Option ClientResponse :=
  let result := decodeResult buffer.result m.result
  let error := m.error.getD buffer.error
  if m.error.all Json.decodable then
    match m.id with
    | .absent | .null => some ⟨buffer.id, result, error⟩
    | .number n => some ⟨n, result, error⟩
    | .other => none
  else none

/-- `clientCodec`. -/
structure ClientCodec where
  req : ClientRequest
  resp : ClientResponse
  /-- The method names by request id. -/
  pending : UInt64 → Option String

/-- `newClientCodec`. -/
def newClientCodec : ClientCodec := ⟨⟨"2.0", "", none, 0⟩, .reset, fun _ => none⟩

/-- `WriteRequest`, up to the point where `req` is encoded. -/
def ClientCodec.writeRequest (c : ClientCodec) (seq : UInt64) (serviceMethod : String)
    (param : Option Json) : ClientCodec where
  req := { c.req with method := serviceMethod, params := param, id := seq }
  resp := c.resp
  pending := Function.update c.pending seq (some serviceMethod)

/-- `rpc.Response`. -/
structure Response where
  serviceMethod : String
  seq : UInt64
  error : String

/-- What `ReadResponseHeader` may return as an error. -/
inductive HeaderError where
  /-- The error of the decoder. -/
  | decode
  /-- `invalid error %v` -/
  | invalidError (e : Json)
  /-- `invalid error content %v` -/
  | invalidErrorContent (e : Json)

/-- The second half of `ReadResponseHeader`: what is put into `Response.Error`.  A number in an
error object is a `float64`, which `trunc` makes an integer. -/
def ClientResponse.errorText (trunc : ℚ → ℤ) (resp : ClientResponse) :
    Except HeaderError String :=
  match resp.error, resp.result with
  | .null, some _ => .ok ""
  | .object members, _ =>
    match member? members "code", member? members "message" with
    | some (.number code), some (.string message) =>
      .ok ("code: " ++ toString (trunc code) ++ " msg: " ++ message)
    | some _, some _ => .error (.invalidErrorContent resp.error)
    | _, _ => .error (.invalidError resp.error)
  | .string x, _ => .ok (if x = "" then "unspecified error" else x)
  | e, _ => .error (.invalidError e)

/-- `ReadResponseHeader`: the codec and the response afterwards, and the error that is
returned, if there is one.  What the decoder leaves behind when it fails is not looked at
before the next `reset`. -/
def ClientCodec.readResponseHeader (trunc : ℚ → ℤ) (c : ClientCodec) (m : Message) :
    ClientCodec × Response × Option HeaderError :=
  match ClientResponse.reset.decode m with
  | none => ({ c with resp := .reset }, ⟨"", 0, ""⟩, some .decode)
  | some resp =>
    let c' : ClientCodec := ⟨c.req, resp, Function.update c.pending resp.id none⟩
    let serviceMethod := (c.pending resp.id).getD ""
    match resp.errorText trunc with
    | .ok text => (c', ⟨serviceMethod, resp.id, text⟩, none)
    | .error e => (c', ⟨serviceMethod, resp.id, ""⟩, some e)

/-- How `ReadResponseBody` ends. -/
inductive BodyResult where
  | ok
  | failed
  /-- The result that it wants to decode is a nil pointer. -/
  | panicked
  deriving DecidableEq

/-- `ReadResponseBody`.  The target, unless it is nil, is known by what it accepts. -/
def ClientCodec.readResponseBody (c : ClientCodec) (target : Option (Json → Bool)) : BodyResult :=
  match target, c.resp.result with
  | none, _ => .ok
  | some _, none => .panicked
  | some accepts, some result => if accepts result then .ok else .failed

/-! ## Below `net/rpc` -/

/-- A call: its method, and which results can be decoded into its reply. -/
structure Call where
  serviceMethod : String
  accepts : Json → Bool

/-- What has become of the connection. -/
inductive Link where
  | up
  | failed
  | panicked
  deriving DecidableEq

/-- The client. -/
structure State where
  codec : ClientCodec
  /-- The number of the next call. -/
  seq : UInt64
  /-- The outstanding calls of `net/rpc`. -/
  calls : UInt64 → Option Call
  link : Link

def State.init : State := ⟨newClientCodec, 0, fun _ => none, .up⟩

/-- What happens. -/
inductive Event where
  /-- A call is numbered and given to `WriteRequest`, which may fail to encode or to write. -/
  | send (call : Call) (param : Option Json) (encoded : Bool)
  /-- A message arrives and is given to `ReadResponseHeader`. -/
  | receive (m : Message)
  /-- The connection is lost, or what comes is no JSON. -/
  | lost

/-- All calls that are outstanding end with an error. -/
def State.terminate (s : State) (codec : ClientCodec) (link : Link) : State :=
  { s with codec := codec, calls := fun _ => none, link := link }

/-- `Client.input` of `net/rpc` for one message.  It completes the call with the number of the
response, and takes an error from the codec as the end of the connection. -/
def State.receive (trunc : ℚ → ℤ) (s : State) (m : Message) : State :=
  match s.codec.readResponseHeader trunc m with
  | (codec, _, some _) => s.terminate codec .failed
  | (codec, response, none) =>
    let target := match s.calls response.seq with
      | some call => if response.error = "" then some call.accepts else none
      | none => none
    match codec.readResponseBody target with
    | .ok => { s with codec := codec, calls := Function.update s.calls response.seq none }
    | .failed => s.terminate codec .failed
    | .panicked => s.terminate codec .panicked

/-- What happens, and what comes of it. -/
def State.apply (trunc : ℚ → ℤ) (s : State) : Event → State
  | .send call param encoded =>
    { s with
      codec := s.codec.writeRequest s.seq call.serviceMethod param
      seq := s.seq + 1
      calls := Function.update s.calls s.seq (if encoded then some call else none) }
  | .receive m => s.receive trunc m
  | .lost => s.terminate s.codec .failed

/-- One step, as long as the connection is up. -/
def Step (trunc : ℚ → ℤ) (s : State) (e : Event) (s' : State) : Prop :=
  s.link = .up ∧ s' = s.apply trunc e

/-! ## What is to be expected -/

/-- The requests that were sent and not answered yet, by the book. -/
structure Ledger where
  next : UInt64
  waiting : UInt64 → Option String

/-- A request waits from when it is sent until a message comes that carries its id. -/
def Ledger.record (l : Ledger) : Event → Ledger
  | .send call _ encoded =>
    ⟨l.next + 1,
      Function.update l.waiting l.next (if encoded then some call.serviceMethod else none)⟩
  | .receive m =>
    match m.id with
    | .number n => { l with waiting := Function.update l.waiting n none }
    | _ => l
  | .lost => l

def ledger (history : List Event) : Ledger :=
  history.foldl Ledger.record ⟨0, fun _ => none⟩

/-- The message is the answer to a request that waits. -/
def Answers (waiting : UInt64 → Option String) (m : Message) : Prop :=
  ∃ n method, m.id = .number n ∧ waiting n = some method

/-- A response reaches the call that it answers: it is labelled with the number and the method
of the request, and completes no other call unless the connection ends with it.  Any other
message completes no call. -/
def Delivered (trunc : ℚ → ℤ) (waiting : UInt64 → Option String) (s : State) (m : Message) :
    Prop :=
  (∀ n method, m.id = .number n → waiting n = some method →
    (s.codec.readResponseHeader trunc m).2.1.seq = n ∧
    (s.codec.readResponseHeader trunc m).2.1.serviceMethod = method ∧
    (s.receive trunc m).calls n = none ∧
    ((s.receive trunc m).link = .up → ∀ k ≠ n, (s.receive trunc m).calls k = s.calls k)) ∧
  (¬ Answers waiting m → (s.receive trunc m).calls = s.calls)

/-- After this step the table of the codec holds the requests that wait, and if the step is
the arrival of a message, it is delivered as it should be. -/
def Right (trunc : ℚ → ℤ) (before : List Event) (s : State) (e : Event) (s' : State) : Prop :=
  s'.codec.pending = (ledger (before ++ [e])).waiting ∧
    ∀ m, e = .receive m → Delivered trunc (ledger before).waiting s m

/-- The message says that the call has succeeded. -/
def Message.Succeeded (m : Message) : Prop :=
  (m.error = none ∨ m.error = some .null) ∧ ∃ result ≠ .null, m.result = some result

/-- The message says why the call has failed: with a text, or with a code and a text. -/
def Message.Failed (m : Message) : Prop :=
  (∃ x, m.error = some (.string x)) ∨
    ∃ members code message, m.error = some (.object members) ∧
      member? members "code" = some (.number code) ∧
      member? members "message" = some (.string message)

/-- Messages that are no responses: they cannot be decoded, or say neither. -/
def Message.Rejected (m : Message) : Prop :=
  ¬ m.Decodable ∨ ¬ (m.Succeeded ∨ m.Failed)

/-- What the codec relies on: requests can be written, and a message that arrives is one of two
kinds.  It can be decoded and carries the id of an outstanding call; or it does not lack an id
while call 0 is outstanding, and is not rejected while any is. -/
def Orderly (s : State) : Event → Prop
  | .send _ _ encoded => encoded = true
  | .receive m =>
    (∃ n call, m.id = .number n ∧ s.calls n = some call ∧ m.Decodable) ∨
      (((m.id = .absent ∨ m.id = .null) → s.calls 0 = none) ∧
        (m.Rejected → ∀ n, s.calls n = none))
  | .lost => True

/-! ## One message -/

section Header

variable {trunc : ℚ → ℤ} {c : ClientCodec} {s : State} {m : Message}

/-- The number that the decoder finds. -/
def Message.label (m : Message) : Option UInt64 :=
  match m.id with
  | .absent | .null => some 0
  | .number n => some n
  | .other => none

theorem label_eq_none : m.label = none ↔ m.id = .other := by
  unfold Message.label
  cases m.id <;> simp

theorem label_eq_some {n : UInt64} :
    m.label = some n ↔ m.id = .number n ∨ ((m.id = .absent ∨ m.id = .null) ∧ n = 0) := by
  unfold Message.label
  cases m.id <;> simp [eq_comm]

theorem Message.Decodable.label (h : m.Decodable) : ∃ n, m.label = some n :=
  Option.ne_none_iff_exists'.1 fun hnone => h.1 (label_eq_none.1 hnone)

/-- What the decoder finds in a message, the buffer being empty before. -/
theorem decode_of_decodable (h : m.Decodable) : ∃ resp, ClientResponse.reset.decode m = some resp ∧
    m.label = some resp.id ∧ resp.error = m.error.getD .null ∧
    (resp.result ≠ none ↔ ∃ result ≠ .null, m.result = some result) := by
  obtain ⟨hid, herror⟩ := h
  obtain ⟨id, result, error⟩ := m
  have hresult : decodeResult none result ≠ none ↔ ∃ r ≠ .null, result = some r := by
    cases result with
    | none => simp [decodeResult]
    | some r => cases r <;> simp [decodeResult]
  unfold ClientResponse.decode
  rw [if_pos herror]
  cases id with
  | other => exact absurd rfl hid
  | absent => exact ⟨_, rfl, rfl, rfl, hresult⟩
  | null => exact ⟨_, rfl, rfl, rfl, hresult⟩
  | number n => exact ⟨_, rfl, rfl, rfl, hresult⟩

theorem decode_eq_none (h : ¬ m.Decodable) : ClientResponse.reset.decode m = none := by
  unfold ClientResponse.decode
  by_cases herror : m.error.all Json.decodable = true
  · rw [if_pos herror]
    cases hid : m.id with
    | other => rfl
    | _ => exact absurd ⟨by simp [hid], herror⟩ h
  · rw [if_neg herror]

theorem decode_eq_some {resp : ClientResponse} (h : ClientResponse.reset.decode m = some resp) :
    m.label = some resp.id ∧ resp.error = m.error.getD .null ∧
      (resp.result ≠ none ↔ ∃ result ≠ .null, m.result = some result) := by
  have hdecodable : m.Decodable := by
    by_contra hnot
    rw [decode_eq_none hnot] at h
    cases h
  obtain ⟨resp', hdecode, hfields⟩ := decode_of_decodable hdecodable
  obtain rfl : resp' = resp := Option.some_inj.1 (hdecode.symm.trans h)
  exact hfields

/-- The error in a response can be made a text. -/
theorem errorText_ok_iff {resp : ClientResponse} : (∃ text, resp.errorText trunc = .ok text) ↔
    (resp.error = .null ∧ resp.result ≠ none) ∨ (∃ x, resp.error = .string x) ∨
      ∃ members code message, resp.error = .object members ∧
        member? members "code" = some (.number code) ∧
        member? members "message" = some (.string message) := by
  obtain ⟨id, result, error⟩ := resp
  unfold ClientResponse.errorText
  cases error with
  | null => cases result <;> simp
  | string x => simp
  | object members =>
    constructor
    · rintro ⟨text, htext⟩
      dsimp only at htext
      split at htext
      · next code message hcode hmessage =>
        exact .inr (.inr ⟨members, code, message, rfl, hcode, hmessage⟩)
      · cases htext
      · cases htext
    · rintro (⟨hnull, -⟩ | ⟨x, hstring⟩ | ⟨_, code, message, hobject, hcode, hmessage⟩)
      · cases hnull
      · cases hstring
      · cases hobject
        simp [hcode, hmessage]
  | _ => simp

variable (trunc c) in
/-- **The messages that the codec returns an error for.** -/
theorem rejected_iff : m.Rejected ↔ (c.readResponseHeader trunc m).2.2 ≠ none := by
  unfold ClientCodec.readResponseHeader
  by_cases hdecodable : m.Decodable
  · obtain ⟨resp, hdecode, -, herror, hresult⟩ := decode_of_decodable hdecodable
    have hsays : m.Succeeded ∨ m.Failed ↔ ∃ text, resp.errorText trunc = .ok text := by
      rw [errorText_ok_iff, herror, hresult, Message.Succeeded, Message.Failed]
      cases m.error <;> simp
    rw [Message.Rejected, hsays, hdecode]
    simp only [hdecodable, not_true_eq_false, false_or]
    cases resp.errorText trunc <;> simp
  · rw [decode_eq_none hdecodable]
    simp [Message.Rejected, hdecodable]

variable (trunc c) in
/-- What the header does to the table, and how it labels the response. -/
theorem header_label (hdecodable : m.Decodable) {n : UInt64} (hlabel : m.label = some n) :
    (c.readResponseHeader trunc m).1.pending = Function.update c.pending n none ∧
    (c.readResponseHeader trunc m).2.1.seq = n ∧
    (c.readResponseHeader trunc m).2.1.serviceMethod = (c.pending n).getD "" := by
  obtain ⟨resp, hdecode, hlabel', -⟩ := decode_of_decodable hdecodable
  obtain rfl : resp.id = n := Option.some_inj.1 (hlabel'.symm.trans hlabel)
  simp only [ClientCodec.readResponseHeader, hdecode]
  cases resp.errorText trunc <;> exact ⟨rfl, rfl, rfl⟩

variable (trunc c) in
theorem header_undecodable (h : ¬ m.Decodable) :
    (c.readResponseHeader trunc m).1.pending = c.pending := by
  simp [ClientCodec.readResponseHeader, decode_eq_none h]

/-- What a message can do: end the connection, or complete the call with its label. -/
theorem receive_cases :
    (m.Rejected ∧
      s.receive trunc m = s.terminate (s.codec.readResponseHeader trunc m).1 .failed) ∨
    (¬ m.Rejected ∧ ∃ n, m.label = some n ∧
      ((s.receive trunc m = { s with
          codec := (s.codec.readResponseHeader trunc m).1
          calls := Function.update s.calls n none }) ∨
        (s.calls n ≠ none ∧ ∃ link ≠ .up,
          s.receive trunc m = s.terminate (s.codec.readResponseHeader trunc m).1 link))) := by
  have hrej : m.Rejected ↔ _ := rejected_iff trunc s.codec
  rcases hheader : s.codec.readResponseHeader trunc m with ⟨codec, response, _ | e⟩
  · rw [hheader] at hrej
    have hok : ¬ m.Rejected := by simp [hrej]
    have hdecodable : m.Decodable := by
      by_contra hnot
      exact hok (.inl hnot)
    obtain ⟨n, hn⟩ := hdecodable.label
    have hseq : response.seq = n := by
      simpa [hheader] using (header_label trunc s.codec hdecodable hn).2.1
    refine .inr ⟨hok, n, hn, ?_⟩
    simp only [State.receive, hheader, hseq]
    cases hcall : s.calls n with
    | none => exact .inl rfl
    | some call =>
      -- The call is completed either way; if its reply cannot be decoded, so are all others.
      cases codec.readResponseBody (if response.error = "" then some call.accepts else none) with
      | ok => exact .inl rfl
      | failed => exact .inr ⟨by simp, .failed, by simp, rfl⟩
      | panicked => exact .inr ⟨by simp, .panicked, by simp, rfl⟩
  · rw [hheader] at hrej
    exact .inl ⟨hrej.2 (by simp), by simp only [State.receive, hheader]⟩

/-- However a message is received, the codec has read its header and no call is numbered. -/
theorem receive_frame :
    (s.receive trunc m).codec = (s.codec.readResponseHeader trunc m).1 ∧
      (s.receive trunc m).seq = s.seq := by
  rcases receive_cases (s := s) (m := m) with
    ⟨-, heq⟩ | ⟨-, n, -, heq | ⟨-, link, -, heq⟩⟩
  · rw [heq]
    exact ⟨rfl, rfl⟩
  · rw [heq]
    exact ⟨rfl, rfl⟩
  · rw [heq]
    exact ⟨rfl, rfl⟩

theorem receive_label {n : UInt64} (hlabel : m.label = some n) :
    (s.receive trunc m).calls n = none ∧
      ((s.receive trunc m).link = .up → ∀ k ≠ n, (s.receive trunc m).calls k = s.calls k) := by
  rcases receive_cases (s := s) (m := m) with
    ⟨-, heq⟩ | ⟨-, n', hn', heq | ⟨-, link, hlink, heq⟩⟩
  · rw [heq]
    exact ⟨rfl, fun hup => nomatch hup⟩
  · obtain rfl : n' = n := Option.some_inj.1 (hn'.symm.trans hlabel)
    rw [heq]
    exact ⟨Function.update_self .., fun _ k hk => Function.update_of_ne hk ..⟩
  · rw [heq]
    exact ⟨rfl, fun hup => absurd hup hlink⟩

/-- A message whose label is that of no call leaves the calls alone, unless it is rejected. -/
theorem receive_calls_iff (hlabel : ∀ n, m.label = some n → s.calls n = none) :
    (s.receive trunc m).calls = s.calls ↔ (m.Rejected → ∀ n, s.calls n = none) := by
  rcases receive_cases (s := s) (m := m) with
    ⟨hrej, heq⟩ | ⟨hok, n, hn, heq | ⟨hcall, -⟩⟩
  · rw [heq]
    constructor
    · intro h _ n
      exact (congrFun h n).symm
    · intro h
      exact funext fun n => (h hrej n).symm
  · rw [heq]
    refine iff_of_true ?_ fun hrej => absurd hrej hok
    exact Function.update_eq_self_iff.2 (hlabel n hn).symm
  · exact absurd (hlabel n hn) hcall

end Header

/-! ## Every step -/

/-- As long as all is orderly, the tables agree with the ledger. -/
structure Agrees (before : List Event) (s : State) : Prop where
  seq : s.seq = (ledger before).next
  pending : s.codec.pending = (ledger before).waiting
  calls : s.link = .up → ∀ n, (s.calls n).map Call.serviceMethod = (ledger before).waiting n

section Step

variable {trunc : ℚ → ℤ} {before : List Event} {s : State}

theorem ledger_snoc (before : List Event) (e : Event) :
    ledger (before ++ [e]) = (ledger before).record e := by
  simp [ledger]

theorem next_record (l : Ledger) (m : Message) : (l.record (.receive m)).next = l.next := by
  simp only [Ledger.record]
  cases m.id <;> rfl

/-- Only an answer changes what waits. -/
theorem waiting_record {l : Ledger} {m : Message} (hnot : ¬ Answers l.waiting m) :
    (l.record (.receive m)).waiting = l.waiting := by
  simp only [Ledger.record]
  cases hid : m.id with
  | number n =>
    refine Function.update_eq_self_iff.2 (Option.eq_none_iff_forall_ne_some.2 ?_).symm
    exact fun method hwaiting => hnot ⟨n, method, hid, hwaiting⟩
  | _ => rfl

theorem waiting_record_number {l : Ledger} {m : Message} {n : UInt64} (hid : m.id = .number n) :
    (l.record (.receive m)).waiting = Function.update l.waiting n none := by
  simp [Ledger.record, hid]

theorem agrees_init : Agrees [] .init := ⟨rfl, rfl, fun _ _ => rfl⟩

theorem Agrees.calls_eq_none_iff (h : Agrees before s) (hup : s.link = .up) (n : UInt64) :
    s.calls n = none ↔ (ledger before).waiting n = none := by
  rw [← h.calls hup n, Option.map_eq_none_iff]

/-- A message that answers no request, and whose label is that of none. -/
theorem Agrees.right_unanswered_iff (h : Agrees before s) (hup : s.link = .up) {m : Message}
    (hnot : ¬ Answers (ledger before).waiting m)
    (hlabel : ∀ n, m.label = some n → s.calls n = none) :
    Right trunc before s (.receive m) (s.receive trunc m) ↔
      (m.Rejected → ∀ n, s.calls n = none) := by
  have hpending : (s.receive trunc m).codec.pending = (ledger before).waiting := by
    rw [receive_frame.1, ← h.pending]
    by_cases hdecodable : m.Decodable
    · obtain ⟨n, hn⟩ := hdecodable.label
      rw [(header_label trunc s.codec hdecodable hn).1, Function.update_eq_self_iff, h.pending]
      exact ((h.calls_eq_none_iff hup n).1 (hlabel n hn)).symm
    · exact header_undecodable trunc s.codec hdecodable
  rw [← receive_calls_iff hlabel, Right, ledger_snoc, hpending, waiting_record hnot]
  constructor
  · rintro ⟨-, hdelivered⟩
    exact (hdelivered m rfl).2 hnot
  · intro hcalls
    refine ⟨rfl, fun m' hm' => ?_⟩
    obtain rfl : m = m' := Event.receive.inj hm'
    exact ⟨fun n method hid hwaiting => absurd ⟨n, method, hid, hwaiting⟩ hnot, fun _ => hcalls⟩

/-- A response to a request that waits. -/
theorem Agrees.right_answer (h : Agrees before s) {m : Message} {n : UInt64}
    (hid : m.id = .number n) {method : String}
    (hwaiting : (ledger before).waiting n = some method) (hdecodable : m.Decodable) :
    Right trunc before s (.receive m) (s.receive trunc m) := by
  have hlabel : m.label = some n := by simp [Message.label, hid]
  obtain ⟨hpending, hseq, hmethod⟩ := header_label trunc s.codec hdecodable hlabel
  refine ⟨?_, fun m' hm' => ?_⟩
  · rw [receive_frame.1, hpending, ledger_snoc, h.pending, waiting_record_number hid]
  · obtain rfl : m = m' := Event.receive.inj hm'
    refine ⟨fun k method' hid' hwaiting' => ?_, fun hnot => absurd ⟨n, method, hid, hwaiting⟩ hnot⟩
    obtain rfl : n = k := MessageId.number.inj (hid.symm.trans hid')
    obtain rfl : method = method' := Option.some_inj.1 (hwaiting.symm.trans hwaiting')
    exact ⟨hseq, by simp [hmethod, h.pending, hwaiting], receive_label hlabel⟩

/-- A response to a request that waits, but with an error that cannot be decoded: the request stays
in the table. -/
theorem Agrees.not_right_undecodable (h : Agrees before s) {m : Message} {n : UInt64}
    (hid : m.id = .number n) {method : String}
    (hwaiting : (ledger before).waiting n = some method) (hnot : ¬ m.Decodable) :
    ¬ Right trunc before s (.receive m) (s.receive trunc m) := by
  rintro ⟨hpending, -⟩
  rw [receive_frame.1, header_undecodable trunc s.codec hnot, ledger_snoc,
    waiting_record_number hid, h.pending] at hpending
  have hnone := congrFun hpending n
  rw [Function.update_self, hwaiting] at hnone
  cases hnone

/-- A message without an id, while call 0 is outstanding: its entry in the table is lost, or the
connection is. -/
theorem Agrees.not_right_missing (h : Agrees before s) (hup : s.link = .up) {m : Message}
    (hid : m.id = .absent ∨ m.id = .null) (hcall : s.calls 0 ≠ none) :
    ¬ Right trunc before s (.receive m) (s.receive trunc m) := by
  rintro ⟨hpending, hdelivered⟩
  have hlabel : m.label = some 0 := by rcases hid with hid | hid <;> simp [Message.label, hid]
  have hrecord : (ledger before).record (.receive m) = ledger before := by
    rcases hid with hid | hid <;> simp [Ledger.record, hid]
  by_cases hdecodable : m.Decodable
  · rw [receive_frame.1, (header_label trunc s.codec hdecodable hlabel).1, ledger_snoc,
      hrecord] at hpending
    exact hcall ((h.calls_eq_none_iff hup 0).2 (by rw [← hpending, Function.update_self]))
  · have hnot : ¬ Answers (ledger before).waiting m := by
      rintro ⟨n, method, hnumber, -⟩
      rcases hid with hid | hid <;> rw [hid] at hnumber <;> cases hnumber
    have hcalls := (hdelivered m rfl).2 hnot
    rw [← hcalls] at hcall
    exact hcall (receive_label hlabel).1

/-- **One step is right if and only if it is orderly.** -/
theorem Agrees.right_iff (h : Agrees before s) (hup : s.link = .up) (e : Event) :
    Right trunc before s e (s.apply trunc e) ↔ Orderly s e := by
  cases e with
  | lost => exact iff_of_true ⟨by rw [ledger_snoc]; exact h.pending, nofun⟩ trivial
  | send call param encoded =>
    have hpending : (s.apply trunc (.send call param encoded)).codec.pending =
        Function.update (ledger before).waiting (ledger before).next (some call.serviceMethod) := by
      simp [State.apply, ClientCodec.writeRequest, h.pending, h.seq]
    rw [Right, ledger_snoc, hpending, Ledger.record]
    cases encoded with
    | true => exact iff_of_true ⟨rfl, nofun⟩ rfl
    | false =>
      refine iff_of_false (fun hright => ?_) Bool.false_ne_true
      simpa using congrFun hright.1 (ledger before).next
  | receive m =>
    by_cases hanswers : Answers (ledger before).waiting m
    · obtain ⟨n, method, hid, hwaiting⟩ := hanswers
      have hcall : s.calls n ≠ none := fun hnone =>
        absurd ((h.calls_eq_none_iff hup n).1 hnone) (by simp [hwaiting])
      by_cases hdecodable : m.Decodable
      · obtain ⟨call, hcall⟩ := Option.ne_none_iff_exists'.1 hcall
        exact iff_of_true (h.right_answer hid hwaiting hdecodable)
          (.inl ⟨n, call, hid, hcall, hdecodable⟩)
      · refine iff_of_false (h.not_right_undecodable hid hwaiting hdecodable) ?_
        rintro (⟨-, -, -, -, hyes⟩ | ⟨-, hrejected⟩)
        · exact hdecodable hyes
        · exact hcall (hrejected (.inl hdecodable) n)
    · have hnumber : ∀ n, m.id = .number n → s.calls n = none := fun n hid =>
        (h.calls_eq_none_iff hup n).2
          (Option.eq_none_iff_forall_ne_some.2 fun method hw => hanswers ⟨n, method, hid, hw⟩)
      have horderly : Orderly s (.receive m) ↔
          ((m.id = .absent ∨ m.id = .null) → s.calls 0 = none) ∧
            (m.Rejected → ∀ n, s.calls n = none) := by
        refine or_iff_right ?_
        rintro ⟨n, call, hid, hcall, -⟩
        exact absurd (hnumber n hid) (by simp [hcall])
      rw [horderly]
      by_cases hmissing : (m.id = .absent ∨ m.id = .null) ∧ s.calls 0 ≠ none
      · exact iff_of_false (h.not_right_missing hup hmissing.1 hmissing.2)
          fun hcond => hmissing.2 (hcond.1 hmissing.1)
      · have hzero : (m.id = .absent ∨ m.id = .null) → s.calls 0 = none := by
          intro hid
          by_contra hcall
          exact hmissing ⟨hid, hcall⟩
        rw [and_iff_right hzero]
        refine h.right_unanswered_iff hup hanswers fun n hlabel => ?_
        rcases label_eq_some.1 hlabel with hid | ⟨hid, rfl⟩
        · exact hnumber n hid
        · exact hzero hid

/-- An orderly step keeps the agreement. -/
theorem Agrees.step (h : Agrees before s) (hup : s.link = .up) {e : Event}
    (he : Orderly s e) : Agrees (before ++ [e]) (s.apply trunc e) := by
  have hright : Right trunc before s e (s.apply trunc e) := (h.right_iff hup e).2 he
  refine ⟨?_, hright.1, fun hup' n => ?_⟩
  · rw [ledger_snoc]
    cases e with
    | send call param encoded => exact congrArg (· + 1) h.seq
    | receive m => rw [next_record, ← h.seq]; exact receive_frame.2
    | lost => exact h.seq
  · rw [ledger_snoc]
    cases e with
    | lost => exact nomatch hup'
    | send call param encoded =>
      obtain rfl : encoded = true := he
      rcases eq_or_ne n s.seq with rfl | hne
      · simp [State.apply, Ledger.record, h.seq]
      · have hne' : n ≠ (ledger before).next := h.seq ▸ hne
        simpa [State.apply, Ledger.record, hne, hne'] using h.calls hup n
    | receive m =>
      obtain ⟨hanswer, hother⟩ := hright.2 m rfl
      by_cases hanswers : Answers (ledger before).waiting m
      · obtain ⟨k, method, hid, hwaiting⟩ := hanswers
        obtain ⟨-, -, hdone, hrest⟩ := hanswer k method hid hwaiting
        rw [waiting_record_number hid]
        rcases eq_or_ne n k with rfl | hne
        · simp [State.apply, hdone]
        · rw [Function.update_of_ne hne, ← h.calls hup n]
          exact congrArg _ (hrest hup' n hne)
      · rw [waiting_record hanswers, ← h.calls hup n]
        exact congrArg (fun calls => (calls n).map Call.serviceMethod) (hother hanswers)

end Step

/-- **Responses reach the right call.**  In every step of every run the table of the codec holds
exactly the requests that were sent and not answered, a response is labelled with the number
and the method of the request that it answers, and a message that answers no request completes
no call; if and only if every step is orderly. -/
theorem responses_delivered_iff (trunc : ℚ → ℤ) (history : List Event) :
    Every (Step trunc) .init history (Right trunc) ↔
      Every (Step trunc) .init history (fun _ s e _ => Orderly s e) := by
  refine every_iff_every (I := Agrees) agrees_init ?_ ?_
  · rintro before s e s' hagrees ⟨hup, rfl⟩
    exact hagrees.right_iff hup e
  · rintro before s e s' hagrees ⟨hup, rfl⟩ horderly
    exact hagrees.step hup horderly

/-- The first request, and a message without an id: it completes the call, although the request
is not answered. -/
theorem missing_id_completes_call :
    let call : Call := ⟨"get_bdevs", fun _ => true⟩
    let history : List Event := [.send call none true, .receive ⟨.absent, some (.bool true), none⟩]
    ∃ s, Trace (Step Rat.floor) .init history s ∧ s.link = .up ∧ s.calls 0 = none ∧
      (ledger history).waiting 0 = some "get_bdevs" := by
  intro call history
  have hsend : Trace (Step Rat.floor) .init [.send call none true] _ :=
    (Trace.nil State.init).snoc ⟨rfl, rfl⟩
  exact ⟨_, hsend.snoc ⟨rfl, rfl⟩, rfl, rfl, rfl⟩

/-! ## Failures and successes -/

/-- The replies that `net/rpc` reads from a connection, each with the target that it has for
the result, if any.  An error of the header ends the connection, and for a reply that is an
error there is no target. -/
def ClientCodec.readReplies (trunc : ℚ → ℤ) :
    ClientCodec → List (Message × Option (Json → Bool)) → List BodyResult
  | _, [] => []
  | c, (m, wanted) :: rest =>
    match c.readResponseHeader trunc m with
    | (_, _, some _) => []
    | (c', response, none) =>
      c'.readResponseBody (if response.error = "" then wanted else none) ::
        readReplies trunc c' rest

section Replies

variable {trunc : ℚ → ℤ} {c : ClientCodec} {m : Message}

/-- The text is empty for a result without an error only. -/
theorem errorText_eq_empty_iff {resp : ClientResponse} :
    resp.errorText trunc = .ok "" ↔ resp.error = .null ∧ resp.result ≠ none := by
  obtain ⟨id, result, error⟩ := resp
  unfold ClientResponse.errorText
  cases error with
  | null => cases result <;> simp
  | object members =>
    simp only [reduceCtorEq, false_and, iff_false]
    split
    · simp [String.append_eq_empty_iff]
    · simp
    · simp
  | string x =>
    by_cases hx : x = ""
    · simp [hx]
    · simp [hx]
  | _ => simp

theorem decode_succeeded_iff {resp : ClientResponse}
    (h : ClientResponse.reset.decode m = some resp) :
    resp.error = .null ∧ resp.result ≠ none ↔ m.Succeeded := by
  obtain ⟨-, herror, hresult⟩ := decode_eq_some h
  rw [herror, hresult, Message.Succeeded]
  cases m.error <;> simp

/-- A reply is taken for a success only if it is one. -/
theorem header_success {c' : ClientCodec} {response : Response}
    (h : c.readResponseHeader trunc m = (c', response, none)) (hempty : response.error = "") :
    m.Succeeded ∧ c'.resp.result ≠ none := by
  unfold ClientCodec.readResponseHeader at h
  cases hdecode : ClientResponse.reset.decode m with
  | none => simp [hdecode] at h
  | some resp =>
    simp only [hdecode] at h
    cases htext : resp.errorText trunc with
    | error e => simp [htext] at h
    | ok text =>
      rw [htext] at h
      obtain ⟨rfl, rfl, -⟩ := h
      obtain rfl : text = "" := hempty
      have hnull := errorText_eq_empty_iff.1 htext
      exact ⟨(decode_succeeded_iff hdecode).1 hnull, hnull.2⟩

variable (trunc m) in
theorem header_same (c c' : ClientCodec) :
    (c.readResponseHeader trunc m).2.2 = (c'.readResponseHeader trunc m).2.2 ∧
      (c.readResponseHeader trunc m).2.1.error = (c'.readResponseHeader trunc m).2.1.error := by
  unfold ClientCodec.readResponseHeader
  cases ClientResponse.reset.decode m with
  | none => exact ⟨rfl, rfl⟩
  | some resp =>
    simp only
    cases resp.errorText trunc <;> exact ⟨rfl, rfl⟩

/-- There is a target for a success only, which has a result to decode. -/
theorem body_ne_panicked {c' : ClientCodec} {response : Response}
    (h : c.readResponseHeader trunc m = (c', response, none)) (wanted : Option (Json → Bool)) :
    c'.readResponseBody (if response.error = "" then wanted else none) ≠ .panicked := by
  unfold ClientCodec.readResponseBody
  split_ifs with hempty
  · obtain ⟨result, hresult⟩ := Option.ne_none_iff_exists'.1 (header_success h hempty).2
    cases wanted with
    | none => simp
    | some accepts =>
      simp only [hresult]
      split_ifs <;> simp
  · simp

theorem panicked_notMem_readReplies (replies : List (Message × Option (Json → Bool))) :
    .panicked ∉ c.readReplies trunc replies := by
  induction replies generalizing c with
  | nil => simp [ClientCodec.readReplies]
  | cons reply rest ih =>
    obtain ⟨m, wanted⟩ := reply
    unfold ClientCodec.readReplies
    rcases hheader : c.readResponseHeader trunc m with ⟨c', response, _ | e⟩
    · simp only [List.mem_cons, not_or]
      exact ⟨(body_ne_panicked hheader wanted).symm, ih⟩
    · simp

theorem receive_ne_panicked {s : State} (h : s.link ≠ .panicked) :
    (s.receive trunc m).link ≠ .panicked := by
  unfold State.receive
  rcases hheader : s.codec.readResponseHeader trunc m with ⟨codec, response, _ | e⟩
  · simp only
    cases hcall : s.calls response.seq with
    | none => exact h
    | some call =>
      have hbody := body_ne_panicked hheader (some call.accepts)
      simp only
      cases hresult : codec.readResponseBody _ with
      | ok => exact h
      | failed => simp [State.terminate]
      | panicked => exact absurd hresult hbody
  · simp [State.terminate]

/-- The connection never ends that way, whatever is sent and received. -/
theorem link_ne_panicked {history : List Event} {s : State}
    (h : Trace (Step trunc) .init history s) : s.link ≠ .panicked := by
  induction h with
  | nil => decide
  | @snoc _ _ _ e _ hstep ih =>
    obtain ⟨-, rfl⟩ := hstep
    cases e with
    | send => exact ih
    | receive => exact receive_ne_panicked ih
    | lost => simp [State.apply, State.terminate]

end Replies

/-- **A failed call is never taken for a success, and no reply crashes the client.**  No run
ends in a panic, and from no state of the codec does decoding the results of any replies;
a header without an error is one of a message with a result and without an error; and what
comes out does not depend on the replies before. -/
theorem replies_safe (trunc : ℚ → ℤ) :
    (∀ history s, Trace (Step trunc) .init history s → s.link ≠ .panicked) ∧
    (∀ (c : ClientCodec) replies, .panicked ∉ c.readReplies trunc replies) ∧
    (∀ (c c' : ClientCodec) m response, c.readResponseHeader trunc m = (c', response, none) →
      response.error = "" →
      (m.error = none ∨ m.error = some .null) ∧ ∃ result ≠ .null, m.result = some result) ∧
    (∀ (c c' : ClientCodec) m,
      (c.readResponseHeader trunc m).2.2 = (c'.readResponseHeader trunc m).2.2 ∧
      (c.readResponseHeader trunc m).2.1.error = (c'.readResponseHeader trunc m).2.1.error) :=
  ⟨fun _ _ => link_ne_panicked, fun _ => panicked_notMem_readReplies,
    fun _ _ _ _ hheader hempty => (header_success hheader hempty).1,
    fun c c' m => header_same trunc m c c'⟩

end Oim.Spdk.Codec
