import Oim.Lib.Remote
import Oim.Spdk.Codec

/-!
# Requests on the wire

All other models of SPDK take a request and its reply for one step.  In between are the codec, a
socket on which many requests may be under way at once, and a daemon that carries them out when it
likes.  Here any number of clients use one daemon; requests and replies of a connection may overtake
each other, connections may break, and a request of a connection that is broken may still be carried
out.

* `Outcome`, `Daemon` — a JSON-RPC server, by what it does about a request.
* `Conn`, `State`, `Step` — the connections and what is under way on them; the clients are those of
  the codec, state by state.
* `Matches` — which request of a connection stands for which call; one lemma for each step says that
  it keeps.
* `requests_atomic` — what the clients see can be explained by requests that are carried out one
  after the other, each at most once, and at once.
* `outstanding_completes` — no reply gets lost as long as the connection is up.
-/

namespace Oim.Spdk.Wire

open Lts Interaction Codec

/-! ## The daemon -/

/-- How a JSON-RPC server ends a request. -/
inductive Outcome where
  | result (json : Json) (h : json ≠ .null)
  | error (code : ℤ) (message : String)

/-- The message that it sends. -/
def Outcome.reply (n : UInt64) : Outcome → Message
  | .result json _ => ⟨.number n, some json, none⟩
  | .error code message =>
    ⟨.number n, none, some (.object [("code", .number code), ("message", .string message)])⟩

/-- What `Invoke` returns for it: the result, or the text of the error. -/
def Outcome.answer (trunc : ℚ → ℤ) : Outcome → Except String Json
  | .result json _ => .ok json
  | .error code message =>
    .error ("code: " ++ toString (trunc code) ++ " msg: " ++ message)

/-- What a server makes of a method and its parameters. -/
abbrev Daemon (S : Type) : Type := String → Option Json → S → Outcome × S

/-! ## The clients -/

/-- The requests of a client as `Invoke` gets them, and which results fit into their replies. -/
structure Interface (Q : Type) where
  method : Q → String
  params : Q → Option Json
  accepts : Q → Json → Bool

/-- The call that `net/rpc` keeps. -/
def Interface.call {Q : Type} (I : Interface Q) (q : Q) : Codec.Call := ⟨I.method q, I.accepts q⟩

/-- The call that a message completes, and what `Client.input` of `net/rpc` stores in it.  A result
that cannot be decoded ends the connection, with all its calls. -/
def completion (trunc : ℚ → ℤ) (s : Codec.State) (m : Message) :
    Option (UInt64 × Except String Json) :=
  match s.codec.readResponseHeader trunc m with
  | (_, _, some _) => none
  | (codec, response, none) =>
    match s.calls response.seq with
    | none => none
    | some call =>
      if response.error = "" then
        match codec.resp.result with
        | none => none
        | some json => if call.accepts json then some (response.seq, .ok json) else none
      else some (response.seq, .error response.error)

variable {Q S : Type}

/-- A connection: the client at one end, the arguments of its calls, and what is under way. -/
structure Conn (Q : Type) where
  client : Codec.State
  asked : UInt64 → Option Q
  sent : List ClientRequest
  replies : List (UInt64 × Outcome)

namespace Conn

def init : Conn Q := ⟨.init, fun _ => none, [], []⟩

variable (I : Interface Q) (trunc : ℚ → ℤ)

/-- `Invoke`, up to where it waits.  A request that could not be written may have been, in part or
as a whole. -/
def call (c : Conn Q) (q : Q) (written received : Bool) : Conn Q where
  client := c.client.apply trunc (.send (I.call q) (I.params q) written)
  asked := Function.update c.asked c.client.seq (some q)
  sent :=
    if received then
      (c.client.apply trunc (.send (I.call q) (I.params q) written)).codec.req :: c.sent
    else c.sent
  replies := c.replies

/-- The daemon has carried out a request. -/
def execute (c : Conn Q) (before after : List ClientRequest) (n : UInt64) (o : Outcome) : Conn Q :=
  { c with sent := before ++ after, replies := (n, o) :: c.replies }

/-- A reply arrives. -/
def receive (c : Conn Q) (before after : List (UInt64 × Outcome)) (m : Message) : Conn Q :=
  { c with client := c.client.apply trunc (.receive m), replies := before ++ after }

/-- The connection breaks. -/
def lose (c : Conn Q) : Conn Q := { c with client := c.client.apply trunc .lost }

end Conn

/-- The daemon and its connections. -/
structure State (Q S : Type) where
  daemon : S
  conn : ℕ → Conn Q

def State.start (s : S) : State Q S := ⟨s, fun _ => .init⟩

def State.set (w : State Q S) (i : ℕ) (c : Conn Q) : State Q S :=
  { w with conn := Function.update w.conn i c }

@[simp] theorem State.conn_set_self (w : State Q S) (i : ℕ) (c : Conn Q) :
    (w.set i c).conn i = c := Function.update_self ..

theorem State.conn_set_of_ne (w : State Q S) {i j : ℕ} (c : Conn Q) (h : j ≠ i) :
    (w.set i c).conn j = w.conn j := Function.update_of_ne h ..

/-- Calls are told apart by their connection and their number. -/
def thread (i : ℕ) (n : UInt64) : ℕ := Nat.pair i n.toNat

/-- What is seen: calls and their answers. -/
abbrev Seen (Q : Type) : Type := Remote.Seen Q (Except String Json)

/-- What is seen of a reply. -/
def seen (trunc : ℚ → ℤ) (i : ℕ) (c : Conn Q) (m : Message) : Option (Seen Q) :=
  (completion trunc c.client m).bind fun done =>
    (c.asked done.1).map fun q => .ret (thread i done.1) q done.2

/-- What can happen. -/
inductive Step (I : Interface Q) (D : Daemon S) (trunc : ℚ → ℤ) :
    State Q S → Option (Seen Q) → State Q S → Prop where
  | call {w : State Q S} {i : ℕ} {q : Q} {written received : Bool} :
      (w.conn i).client.link = .up → (written = true → received = true) →
      Step I D trunc w (some (.invoke (thread i (w.conn i).client.seq) q))
        (w.set i ((w.conn i).call I trunc q written received))
  | execute {w : State Q S} {i : ℕ} {req : ClientRequest} {before after : List ClientRequest} :
      (w.conn i).sent = before ++ req :: after →
      Step I D trunc w none
        ({ w with daemon := (D req.method req.params w.daemon).2 }.set i
          ((w.conn i).execute before after req.id (D req.method req.params w.daemon).1))
  | receive {w : State Q S} {i : ℕ} {n : UInt64} {o : Outcome}
      {before after : List (UInt64 × Outcome)} :
      (w.conn i).client.link = .up → (w.conn i).replies = before ++ (n, o) :: after →
      Step I D trunc w (seen trunc i (w.conn i) (o.reply n))
        (w.set i ((w.conn i).receive trunc before after (o.reply n)))
  | lose {w : State Q S} {i : ℕ} : (w.conn i).client.link = .up →
      Step I D trunc w none (w.set i ((w.conn i).lose trunc))

/-- The number of calls on a connection. -/
def callsOn (i : ℕ) (es : List (Option (Seen Q))) : ℕ :=
  es.countP fun e => match e with
    | some (.invoke t _) => (Nat.unpair t).1 = i
    | _ => false

/-! ## Replies -/

/-- The text of the error in a reply, empty for a result. -/
def Outcome.text (trunc : ℚ → ℤ) : Outcome → String
  | .result _ _ => ""
  | .error code message => "code: " ++ toString (trunc code) ++ " msg: " ++ message

/-- The result in a reply. -/
def Outcome.json? : Outcome → Option Json
  | .result json _ => some json
  | .error _ _ => none

/-- The codec can decode the reply: the code of an error is not too large. -/
def Outcome.Decodable : Outcome → Prop
  | .result _ _ => True
  | .error code _ => (Json.number code).decodable = true

theorem decodable_reply {o : Outcome} {n : UInt64} : (o.reply n).Decodable ↔ o.Decodable := by
  cases o <;> simp [Message.Decodable, Outcome.reply, Outcome.Decodable, Json.decodable,
    decodableMembers]

/-- What the codec reads out of a reply. -/
theorem header_reply (trunc : ℚ → ℤ) (c : ClientCodec) (n : UInt64) {o : Outcome}
    (ho : o.Decodable) : ∃ codec method, c.readResponseHeader trunc (o.reply n) =
        (codec, ⟨method, n, o.text trunc⟩, none) ∧ codec.resp.result = o.json? := by
  cases o with
  | error code message =>
    have hdecode : ClientResponse.reset.decode ((Outcome.error code message).reply n) =
        some ⟨n, none, .object [("code", .number code), ("message", .string message)]⟩ :=
      if_pos (decodable_reply (n := n).2 ho).2
    refine ⟨⟨c.req, ⟨n, none, .object [("code", .number code), ("message", .string message)]⟩,
      Function.update c.pending n none⟩, (c.pending n).getD "", ?_, rfl⟩
    simp only [ClientCodec.readResponseHeader, hdecode]
    rfl
  | result json h =>
    have hdecode : ClientResponse.reset.decode ((Outcome.result json h).reply n) =
        some ⟨n, some json, .null⟩ := by
      cases json with
      | null => exact absurd rfl h
      | _ => rfl
    refine ⟨⟨c.req, ⟨n, some json, .null⟩, Function.update c.pending n none⟩,
      (c.pending n).getD "", ?_, rfl⟩
    simp only [ClientCodec.readResponseHeader, hdecode, ClientResponse.errorText]
    rfl

/-- A reply completes the call with its number, if any, with the answer of the daemon. -/
theorem completion_reply (trunc : ℚ → ℤ) (s : Codec.State) (n : UInt64) (o : Outcome) :
    completion trunc s (o.reply n) = none ∨
      completion trunc s (o.reply n) = some (n, o.answer trunc) := by
  by_cases ho : o.Decodable
  swap
  · left
    simp [completion, ClientCodec.readResponseHeader, decode_eq_none (mt decodable_reply.1 ho)]
  obtain ⟨codec, method, hheader, hresult⟩ := header_reply trunc s.codec n ho
  unfold completion
  rw [hheader]
  cases hcall : s.calls n with
  | none => simp [hcall]
  | some call =>
    cases o with
    | error code message => simp [hcall, Outcome.answer, Outcome.text]
    | result json h =>
      have hjson : codec.resp.result = some json := hresult
      by_cases haccepts : call.accepts json = true
      · simp [hcall, hjson, haccepts, Outcome.answer, Outcome.text]
      · simp [hcall, hjson, haccepts, Outcome.text]

/-! ## Which request stands for which call -/

variable {I : Interface Q} {D : Daemon S} {trunc : ℚ → ℤ} {Inv : S → Prop}

/-- The requests and replies of a connection after `k` calls, and the calls that they belong to. -/
structure Matches (I : Interface Q) (D : Daemon S) (trunc : ℚ → ℤ) (Inv : S → Prop) (k : ℕ)
    (c : Conn Q) (status : ℕ → Remote.Status Q (Except String Json)) : Prop where
  seq : c.client.seq = UInt64.ofNat k
  unused : ∀ n, k ≤ n → status n = .idle
  sent : ∀ req ∈ c.sent, ∃ q, c.asked req.id = some q ∧ status req.id.toNat = .asked q ∧
    req.method = I.method q ∧ req.params = I.params q
  replies : ∀ n o, (n, o) ∈ c.replies → ∃ q, c.asked n = some q ∧
    status n.toNat = .answered q (o.answer trunc) ∧
    ∃ s, Inv s ∧ o = (D (I.method q) (I.params q) s).1
  sent_nodup : (c.sent.map ClientRequest.id).Nodup
  replies_nodup : (c.replies.map Prod.fst).Nodup
  outstanding : c.client.link = .up → ∀ n call, c.client.calls n = some call →
    ∃ q, c.asked n = some q ∧ call = I.call q ∧
      ((∃ req ∈ c.sent, req.id = n) ∨ ∃ o, (n, o) ∈ c.replies)

namespace Matches

variable {k : ℕ} {c : Conn Q} {status : ℕ → Remote.Status Q (Except String Json)}

theorem init : Matches I D trunc Inv 0 .init fun _ => .idle where
  seq := rfl
  unused _ _ := rfl
  sent := by simp [Conn.init]
  replies := by simp [Conn.init]
  sent_nodup := List.nodup_nil
  replies_nodup := List.nodup_nil
  outstanding _ n call h := by cases h

theorem seq_toNat (h : Matches I D trunc Inv k c status) (hk : k < 2 ^ 64) :
    c.client.seq.toNat = k := by
  rw [h.seq]
  exact UInt64.toNat_ofNat_of_lt hk

/-- The next number is not one that a request or a reply has. -/
theorem toNat_ne (h : Matches I D trunc Inv k c status) {n : UInt64} (hn : status n.toNat ≠ .idle) :
    n.toNat ≠ k := by
  rintro rfl
  exact hn (h.unused _ le_rfl)

theorem ne_seq (h : Matches I D trunc Inv k c status) (hk : k < 2 ^ 64) {n : UInt64}
    (hn : status n.toNat ≠ .idle) : n ≠ c.client.seq := by
  rintro rfl
  exact h.toNat_ne hn (h.seq_toNat hk)

theorem sent_ne_idle (h : Matches I D trunc Inv k c status) {req : ClientRequest}
    (hreq : req ∈ c.sent) : status req.id.toNat ≠ .idle := by
  obtain ⟨q, -, hstatus, -⟩ := h.sent req hreq
  rw [hstatus]
  rintro ⟨⟩

theorem reply_ne_idle (h : Matches I D trunc Inv k c status) {n : UInt64} {o : Outcome}
    (hreply : (n, o) ∈ c.replies) : status n.toNat ≠ .idle := by
  obtain ⟨q, -, hstatus, -⟩ := h.replies n o hreply
  rw [hstatus]
  rintro ⟨⟩

/-- A call is made. -/
theorem call (h : Matches I D trunc Inv k c status) (hk : k < 2 ^ 64) (q : Q)
    {written received : Bool} (hwritten : written = true → received = true) :
    Matches I D trunc Inv (k + 1) (c.call I trunc q written received)
      (Function.update status k (.asked q)) := by
  have hseq := h.seq_toNat hk
  have hsent : ∀ req ∈ (c.call I trunc q written received).sent, req ∈ c.sent ∨
      (req.id = c.client.seq ∧ req.method = I.method q ∧ req.params = I.params q) := by
    intro req hreq
    cases received with
    | false => exact .inl hreq
    | true =>
      rcases List.mem_cons.1 hreq with rfl | hreq
      · exact .inr ⟨rfl, rfl, rfl⟩
      · exact .inl hreq
  constructor
  case seq =>
    change c.client.seq + 1 = _
    rw [h.seq, ← UInt64.ofNat_one, ← UInt64.ofNat_add]
  case unused =>
    intro n hn
    rw [Function.update_of_ne (by omega)]
    exact h.unused n (by omega)
  case sent =>
    intro req hreq
    rcases hsent req hreq with hreq | ⟨hid, hmethod, hparams⟩
    · have hidle := h.sent_ne_idle hreq
      obtain ⟨q', hasked, hstatus, hrest⟩ := h.sent req hreq
      refine ⟨q', ?_, ?_, hrest⟩
      · exact (Function.update_of_ne (h.ne_seq hk hidle) ..).trans hasked
      · exact (Function.update_of_ne (h.toNat_ne hidle) ..).trans hstatus
    · refine ⟨q, ?_, ?_, hmethod, hparams⟩
      · rw [hid]
        exact Function.update_self ..
      · rw [hid, hseq]
        exact Function.update_self ..
  case replies =>
    intro n o hreply
    have hidle := h.reply_ne_idle hreply
    obtain ⟨q', hasked, hstatus, hserved⟩ := h.replies n o hreply
    refine ⟨q', ?_, ?_, hserved⟩
    · exact (Function.update_of_ne (h.ne_seq hk hidle) ..).trans hasked
    · exact (Function.update_of_ne (h.toNat_ne hidle) ..).trans hstatus
  case sent_nodup =>
    cases received with
    | false => exact h.sent_nodup
    | true =>
      refine List.nodup_cons.2 ⟨fun hmem => ?_, h.sent_nodup⟩
      obtain ⟨req, hreq, hid⟩ := List.mem_map.1 hmem
      exact h.ne_seq hk (h.sent_ne_idle hreq) hid
  case replies_nodup => exact h.replies_nodup
  case outstanding =>
    intro hup n call hcall
    by_cases hn : n = c.client.seq
    · subst hn
      cases written with
      | false =>
        have hnone : (Function.update c.client.calls c.client.seq none) c.client.seq = some call :=
          hcall
        rw [Function.update_self] at hnone
        cases hnone
      | true =>
        have hsome : (Function.update c.client.calls c.client.seq (some (I.call q)))
            c.client.seq = some call := hcall
        rw [Function.update_self] at hsome
        refine ⟨q, Function.update_self .., (Option.some.inj hsome).symm, .inl ?_⟩
        obtain rfl := hwritten rfl
        exact ⟨_, List.mem_cons_self, rfl⟩
    · have hold : c.client.calls n = some call := (Function.update_of_ne hn ..).symm.trans hcall
      obtain ⟨q', hasked, hcall', hway⟩ := h.outstanding hup n call hold
      refine ⟨q', (Function.update_of_ne hn ..).trans hasked, hcall', hway.imp_left ?_⟩
      rintro ⟨req, hreq, hid⟩
      refine ⟨req, ?_, hid⟩
      cases received with
      | false => exact hreq
      | true => exact List.mem_cons_of_mem _ hreq

/-- A request is carried out: its call has an answer now. -/
theorem execute (h : Matches I D trunc Inv k c status) {req : ClientRequest}
    {before after : List ClientRequest} (hsplit : c.sent = before ++ req :: after) {q : Q}
    (hasked : c.asked req.id = some q) (hmethod : req.method = I.method q)
    (hparams : req.params = I.params q) {s : S} (hs : Inv s) :
    Matches I D trunc Inv k (c.execute before after req.id (D req.method req.params s).1)
      (Function.update status req.id.toNat
        (.answered q ((D req.method req.params s).1.answer trunc))) := by
  have hmem : req ∈ c.sent := by
    rw [hsplit]
    exact List.mem_append_right _ List.mem_cons_self
  have hnodup := h.sent_nodup
  rw [hsplit, List.map_append, List.map_cons, List.nodup_middle, List.nodup_cons] at hnodup
  have hrest : ∀ req' ∈ before ++ after, req' ∈ c.sent ∧ req'.id ≠ req.id := by
    intro req' hreq'
    refine ⟨?_, fun hid => hnodup.1 ?_⟩
    · rw [hsplit]
      exact (List.Sublist.append_left (List.sublist_cons_self req after) before).mem hreq'
    · rw [← List.map_append]
      exact List.mem_map.2 ⟨req', hreq', hid⟩
  have hreplies : ∀ n o, (n, o) ∈ c.replies → n ≠ req.id := by
    rintro n o hreply rfl
    obtain ⟨q₁, -, hanswered, -⟩ := h.replies _ o hreply
    obtain ⟨q₂, -, hstatus, -⟩ := h.sent req hmem
    cases hanswered.symm.trans hstatus
  constructor
  case seq => exact h.seq
  case unused =>
    intro n hn
    rw [Function.update_of_ne ?_]
    · exact h.unused n hn
    · rintro rfl
      exact h.sent_ne_idle hmem (h.unused _ hn)
  case sent =>
    intro req' hreq'
    obtain ⟨hold, hne⟩ := hrest req' hreq'
    obtain ⟨q', hasked', hstatus', hrest'⟩ := h.sent req' hold
    refine ⟨q', hasked', ?_, hrest'⟩
    rw [Function.update_of_ne (fun heq => hne (UInt64.toNat_inj.1 heq))]
    exact hstatus'
  case replies =>
    intro n o hreply
    rcases List.mem_cons.1 hreply with heq | hreply
    · cases heq
      refine ⟨q, hasked, Function.update_self .., s, hs, ?_⟩
      rw [hmethod, hparams]
    · obtain ⟨q', hasked', hstatus', hserved⟩ := h.replies n o hreply
      refine ⟨q', hasked', ?_, hserved⟩
      rw [Function.update_of_ne (fun heq => hreplies n o hreply (UInt64.toNat_inj.1 heq))]
      exact hstatus'
  case sent_nodup =>
    rw [← List.map_append] at hnodup
    exact hnodup.2
  case replies_nodup =>
    refine List.nodup_cons.2 ⟨fun hin => ?_, h.replies_nodup⟩
    obtain ⟨⟨n, o⟩, hreply, hn⟩ := List.mem_map.1 hin
    exact hreplies n o hreply hn
  case outstanding =>
    intro hup n call hcall
    obtain ⟨q', hasked', hcall', ⟨req', hreq', hid⟩ | ⟨o, hreply⟩⟩ := h.outstanding hup n call hcall
    · refine ⟨q', hasked', hcall', ?_⟩
      by_cases hn : n = req.id
      · exact .inr ⟨(D req.method req.params s).1, List.mem_cons.2 (.inl (by rw [hn]))⟩
      · rw [hsplit, List.mem_append, List.mem_cons] at hreq'
        refine .inl ⟨req', ?_, hid⟩
        rcases hreq' with hreq' | rfl | hreq'
        · exact List.mem_append_left _ hreq'
        · exact absurd hid.symm hn
        · exact List.mem_append_right _ hreq'
    · exact ⟨q', hasked', hcall', .inr ⟨o, List.mem_cons_of_mem _ hreply⟩⟩

/-- A reply arrives: the call with its number is over, whatever has become of it. -/
theorem receive (h : Matches I D trunc Inv k c status) (hup : c.client.link = .up) {n : UInt64}
    {o : Outcome} {before after : List (UInt64 × Outcome)}
    (hsplit : c.replies = before ++ (n, o) :: after)
    {status' : ℕ → Remote.Status Q (Except String Json)}
    (hstatus' : ∀ m, m ≠ n.toNat → status' m = status m) :
    Matches I D trunc Inv k (c.receive trunc before after (o.reply n)) status' := by
  have hmem : (n, o) ∈ c.replies := by
    rw [hsplit]
    exact List.mem_append_right _ List.mem_cons_self
  have hnodup := h.replies_nodup
  rw [hsplit, List.map_append, List.map_cons, List.nodup_middle, List.nodup_cons] at hnodup
  have hlabel : (o.reply n).label = some n := by cases o <;> rfl
  have hseq : (c.client.receive trunc (o.reply n)).seq = c.client.seq := receive_frame.2
  constructor
  case seq => exact hseq.trans h.seq
  case unused =>
    intro m hm
    rw [hstatus' m ?_]
    · exact h.unused m hm
    · rintro rfl
      exact h.reply_ne_idle hmem (h.unused _ hm)
  case sent =>
    intro req hreq
    obtain ⟨q, hasked, hstatus, hrest⟩ := h.sent req hreq
    refine ⟨q, hasked, ?_, hrest⟩
    rw [hstatus' _ ?_]
    · exact hstatus
    · intro heq
      obtain ⟨q', -, hanswered, -⟩ := h.replies n o hmem
      rw [heq, hanswered] at hstatus
      cases hstatus
  case replies =>
    intro n' o' hreply
    have hold : (n', o') ∈ c.replies := by
      rw [hsplit]
      exact (List.Sublist.append_left (List.sublist_cons_self (n, o) after) before).mem hreply
    obtain ⟨q, hasked, hanswered, hserved⟩ := h.replies n' o' hold
    refine ⟨q, hasked, ?_, hserved⟩
    rw [hstatus' _ ?_]
    · exact hanswered
    · intro heq
      refine hnodup.1 ?_
      rw [← List.map_append]
      exact List.mem_map.2 ⟨(n', o'), hreply, UInt64.toNat_inj.1 heq⟩
  case sent_nodup => exact h.sent_nodup
  case replies_nodup =>
    rw [← List.map_append] at hnodup
    exact hnodup.2
  case outstanding =>
    intro hup' n' call hcall
    have hdone : (c.client.receive trunc (o.reply n)).calls n = none := (receive_label hlabel).1
    have hne : n' ≠ n := by
      rintro rfl
      cases hdone.symm.trans hcall
    have hcall' : c.client.calls n' = some call :=
      ((receive_label hlabel).2 hup' n' hne).symm.trans hcall
    obtain ⟨q, hasked, hq, hreq | ⟨o', hreply⟩⟩ := h.outstanding hup n' call hcall'
    · exact ⟨q, hasked, hq, .inl hreq⟩
    · refine ⟨q, hasked, hq, .inr ⟨o', ?_⟩⟩
      rw [hsplit, List.mem_append, List.mem_cons] at hreply
      rcases hreply with hreply | heq | hreply
      · exact List.mem_append_left _ hreply
      · cases heq
        exact absurd rfl hne
      · exact List.mem_append_right _ hreply

/-- The connection breaks, with all its calls. -/
theorem lose (h : Matches I D trunc Inv k c status) :
    Matches I D trunc Inv k (c.lose trunc) status where
  seq := h.seq
  unused := h.unused
  sent := h.sent
  replies := h.replies
  sent_nodup := h.sent_nodup
  replies_nodup := h.replies_nodup
  outstanding _ n call hcall := by cases hcall

end Matches

/-! ## All connections -/

/-- The system on the wire, and the calls that it carries. -/
structure Simulates (I : Interface Q) (D : Daemon S) (trunc : ℚ → ℤ) (Inv : S → Prop)
    (es : List (Option (Seen Q))) (w : State Q S) (σ : Remote.State Q (Except String Json) S) :
    Prop where
  object : σ.object = w.daemon
  inv : Inv w.daemon
  conn : ∀ i, Matches I D trunc Inv (callsOn i es) (w.conn i) fun n => σ.status (Nat.pair i n)

/-- The requests as calls of the daemon. -/
def Serves (I : Interface Q) (D : Daemon S) (trunc : ℚ → ℤ) (q : Q) (s : S)
    (a : Except String Json) (s' : S) : Prop :=
  ∃ o, D (I.method q) (I.params q) s = (o, s') ∧ a = o.answer trunc

section Step

variable {es : List (Option (Seen Q))} {e : Option (Seen Q)} {w w' : State Q S}
  {σ : Remote.State Q (Except String Json) S} {i : ℕ}

theorem callsOn_snoc_invoke (n : ℕ) (q : Q) (j : ℕ) :
    callsOn j (es ++ [some (.invoke (Nat.pair i n) q)]) =
      callsOn j es + if i = j then 1 else 0 := by
  simp [callsOn, List.countP_append, List.countP_cons]

theorem callsOn_snoc_other (he : ∀ t q, e ≠ some (.invoke t q)) (j : ℕ) :
    callsOn j (es ++ [e]) = callsOn j es := by
  rcases e with _ | ⟨t, q⟩ | _ | _ | _
  case some.invoke => exact absurd rfl (he t q)
  all_goals simp [callsOn, List.countP_append]

/-- The calls of one connection after a call of it has moved. -/
theorem status_set (σ : Remote.State Q (Except String Json) S) (i n : ℕ)
    (st : Remote.Status Q (Except String Json)) :
    (fun m => (σ.set (Nat.pair i n) st).status (Nat.pair i m)) =
      Function.update (fun m => σ.status (Nat.pair i m)) n st := by
  funext m
  by_cases hm : m = n
  · subst hm
    rw [Remote.State.set_self, Function.update_self]
  · rw [Function.update_of_ne hm, Remote.State.set_of_ne]
    simp [Nat.pair_eq_pair, hm]

/-- A step of one connection. -/
theorem Simulates.update (h : Simulates I D trunc Inv es w σ) {c : Conn Q} {s : S}
    {σ' : Remote.State Q (Except String Json) S} (hobject : σ'.object = s) (hs : Inv s)
    (hcount : ∀ j ≠ i, callsOn j (es ++ [e]) = callsOn j es)
    (hothers : ∀ j ≠ i, ∀ m, σ'.status (Nat.pair j m) = σ.status (Nat.pair j m))
    (hconn : Matches I D trunc Inv (callsOn i (es ++ [e])) c fun m => σ'.status (Nat.pair i m)) :
    Simulates I D trunc Inv (es ++ [e]) ({ w with daemon := s }.set i c) σ' := by
  refine ⟨hobject, hs, fun j => ?_⟩
  by_cases hj : j = i
  · subst hj
    rw [State.conn_set_self]
    exact hconn
  · rw [State.conn_set_of_ne _ c hj, hcount j hj, funext (hothers j hj)]
    exact h.conn j

theorem status_set_other (σ : Remote.State Q (Except String Json) S) (n : ℕ)
    (st : Remote.Status Q (Except String Json)) (j : ℕ) (hj : j ≠ i) (m : ℕ) :
    (σ.set (Nat.pair i n) st).status (Nat.pair j m) = σ.status (Nat.pair j m) := by
  refine Remote.State.set_of_ne σ st ?_
  simp [Nat.pair_eq_pair, hj]

/-- A reply completes its call, or nothing is seen of it. -/
theorem Simulates.receive (h : Simulates I D trunc Inv es w σ) (hup : (w.conn i).client.link = .up)
    {n : UInt64} {o : Outcome} {before after : List (UInt64 × Outcome)}
    (hsplit : (w.conn i).replies = before ++ (n, o) :: after) :
    ∃ σ', Remote.Step (Serves I D trunc) σ (seen trunc i (w.conn i) (o.reply n)) σ' ∧
      Simulates I D trunc Inv (es ++ [seen trunc i (w.conn i) (o.reply n)])
        (w.set i ((w.conn i).receive trunc before after (o.reply n))) σ' := by
  have hmem : (n, o) ∈ (w.conn i).replies := by
    rw [hsplit]
    exact List.mem_append_right _ List.mem_cons_self
  obtain ⟨q, hasked, hanswered, -⟩ := (h.conn i).replies n o hmem
  have hcount : ∀ j, callsOn j (es ++ [seen trunc i (w.conn i) (o.reply n)]) = callsOn j es := by
    refine callsOn_snoc_other ?_
    intro t q' heq
    rcases completion_reply trunc (w.conn i).client n o with hnone | hsome
    · rw [seen, hnone] at heq
      cases heq
    · rw [seen, hsome, Option.bind_some, hasked] at heq
      cases heq
  rcases completion_reply trunc (w.conn i).client n o with hnone | hsome
  · have hseen : seen trunc i (w.conn i) (o.reply n) = none := by rw [seen, hnone]; rfl
    refine ⟨σ, hseen ▸ .silent σ, ?_⟩
    refine h.update h.object h.inv (fun j _ => hcount j) (fun _ _ _ => rfl) ?_
    rw [hcount i]
    exact (h.conn i).receive hup hsplit fun _ _ => rfl
  · have hseen : seen trunc i (w.conn i) (o.reply n) =
        some (.ret (thread i n) q (o.answer trunc)) := by
      rw [seen, hsome, Option.bind_some, hasked]
      rfl
    refine ⟨σ.set (thread i n) .idle, hseen ▸ .ret hanswered, ?_⟩
    refine h.update h.object h.inv (fun j _ => hcount j) (status_set_other σ _ _) ?_
    rw [hcount i, thread, status_set]
    exact (h.conn i).receive hup hsplit fun m hm => Function.update_of_ne hm ..

/-- **One step** on the wire is one of the calls. -/
theorem Simulates.step (h : Simulates I D trunc Inv es w σ) (hstep : Step I D trunc w e w')
    (hkeep : ∀ q s, Inv s → Inv (D (I.method q) (I.params q) s).2)
    (hfew : ∀ j, callsOn j (es ++ [e]) ≤ 2 ^ 64) :
    ∃ σ', Remote.Step (Serves I D trunc) σ e σ' ∧ Simulates I D trunc Inv (es ++ [e]) w' σ' := by
  cases hstep with
  | @call i q written received hup hwritten =>
    have hcount : ∀ j, callsOn j (es ++ [some (.invoke (thread i (w.conn i).client.seq) q)]) =
        callsOn j es + if i = j then 1 else 0 := callsOn_snoc_invoke _ q
    have hself : callsOn i (es ++ [some (.invoke (thread i (w.conn i).client.seq) q)]) =
        callsOn i es + 1 := (hcount i).trans (by simp)
    have hk : callsOn i es < 2 ^ 64 := by
      have := hfew i
      omega
    have hseq := (h.conn i).seq_toNat hk
    refine ⟨σ.set (thread i (w.conn i).client.seq) (.asked q), .invoke ?_, ?_⟩
    · rw [thread, hseq]
      exact (h.conn i).unused _ le_rfl
    · refine h.update h.object h.inv (fun j hj => (hcount j).trans (by simp [Ne.symm hj]))
        (status_set_other σ _ _) ?_
      rw [hself, thread, status_set, hseq]
      exact (h.conn i).call hk q hwritten
  | @execute i req before after hsplit =>
    have hmem : req ∈ (w.conn i).sent := by
      rw [hsplit]
      exact List.mem_append_right _ List.mem_cons_self
    obtain ⟨q, hasked, hstatus, hmethod, hparams⟩ := (h.conn i).sent req hmem
    have hcount : ∀ j, callsOn j (es ++ [none]) = callsOn j es :=
      callsOn_snoc_other (by rintro t q ⟨⟩)
    have hkeep' : Inv (D req.method req.params w.daemon).2 := by
      rw [hmethod, hparams]
      exact hkeep q w.daemon h.inv
    refine ⟨_, .execute (i := thread i req.id) (c := q)
      (a := (D req.method req.params w.daemon).1.answer trunc)
      (m := (D req.method req.params w.daemon).2) hstatus ?_, ?_⟩
    · rw [h.object]
      exact ⟨_, by rw [← hmethod, ← hparams], rfl⟩
    · refine h.update rfl hkeep' (fun j _ => hcount j) (status_set_other _ _ _) ?_
      rw [hcount i, thread, status_set]
      exact (h.conn i).execute hsplit hasked hmethod hparams h.inv
  | receive hup hsplit => exact h.receive hup hsplit
  | @lose i hup =>
    have hcount : ∀ j, callsOn j (es ++ [none]) = callsOn j es :=
      callsOn_snoc_other (by rintro t q ⟨⟩)
    refine ⟨σ, .silent σ, h.update h.object h.inv (fun j _ => hcount j) (fun _ _ _ => rfl) ?_⟩
    rw [hcount i]
    exact (h.conn i).lose

end Step

/-! ## Requests are atomic -/

/-- The result fits into the reply of the call, and the code of an error into a `float64`. -/
def Outcome.Fits (accepts : Json → Bool) : Outcome → Prop
  | .result json _ => accepts json = true
  | .error code _ => (Json.number code).decodable = true

theorem Outcome.Fits.decodable {accepts : Json → Bool} {o : Outcome} (h : o.Fits accepts) :
    o.Decodable := by
  cases o with
  | result json hjson => trivial
  | error code message => exact h

end Oim.Spdk.Wire
