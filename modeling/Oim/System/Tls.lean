import Oim.Registry.Server

/-!
# TLS connections

`LoadTLSConfig` of `pkg/oim-common/grpc.go`, and which connections come about with the
configurations that it makes.  The library `crypto/tls` is taken for what it promises: a side that
gets through its part of the handshake has met the private key of the certificate that it has
verified.

* `loadTLSConfig`, `verifyPeerCertificate` — the code.
* `Pki` — certificates, and what `crypto/x509` makes of them.
* `TlsConfig.accepts`, `TlsConfig.admits` — the two sides of the handshake.
* `commonName_of_admits` — a server whose configuration was made for one name admits nobody else.
-/

namespace Oim.System

open Registry (Certificate PeerContext getPeer)

/-! ## The code -/

/-- Certificates, and what `crypto/x509` makes of them. -/
structure Pki where
  Cert : Type
  /-- Certificates of certification authorities. -/
  Pool : Type
  commonName : Cert → String
  /-- The chains from a certificate to one of the authorities; there are none for a certificate
  that was issued by somebody else. -/
  chains : Pool → Cert → List (List Certificate)
  leaf : ∀ pool cert, ∀ chain ∈ chains pool cert, chain.head? = some ⟨commonName cert⟩
  /-- The certificate is one for a server of that name. -/
  validFor : Cert → String → Prop

/-- What `LoadTLSConfig` reads. -/
structure KeyFiles (P : Pki) where
  /-- `tls.LoadX509KeyPair`, for the names of two files. -/
  loadX509KeyPair : String → String → Except String P.Cert
  /-- `ioutil.ReadFile`. -/
  readFile : String → Except String String
  /-- `AppendCertsFromPEM`. -/
  appendCertsFromPEM : String → Option P.Pool

/-- `tls.Config`, as far as it is used.  The function `VerifyPeerCertificate` is given by the name
it has been made for. -/
structure TlsConfig (P : Pki) where
  certificate : P.Cert
  serverName : String
  peerName : String
  rootCAs : P.Pool
  clientCAs : P.Pool

/-- The name without `.key` or `.crt`. -/
def keyBase (key : String) : String :=
  if ".key".toList <:+ key.toList ∨ ".crt".toList <:+ key.toList then
    String.ofList (key.toList.take (key.toList.length - 4))
  else key

/-- `LoadTLSConfig`. -/
def loadTLSConfig {P : Pki} (files : KeyFiles P) (caFile key peerName : String) :
    Except Status (TlsConfig P) :=
  match files.loadX509KeyPair (keyBase key ++ ".crt") (keyBase key ++ ".key") with
  | .error err => .error (.wrap err ("load X509 key pair for key=" ++ quote key))
  | .ok certificate =>
    match files.readFile caFile with
    | .error err => .error (.wrap err "read CA cert")
    | .ok bs =>
      match files.appendCertsFromPEM bs with
      | none => .error (.new ("failed to append certs from " ++ quote caFile))
      | some pool => .ok ⟨certificate, peerName, peerName, pool, pool⟩

/-- The function `VerifyPeerCertificate` of a configuration, with its error if any. -/
def verifyPeerCertificate (peerName : String) (verifiedChains : List (List Certificate)) :
    Option String :=
  if peerName = "" then none
  else match verifiedChains with
    | (certificate :: _) :: _ =>
      if certificate.commonName ≠ peerName then
        some ("expected CN " ++ quote peerName ++ ", got " ++ quote certificate.commonName)
      else none
    | _ => some "no valid certificate"

/-! ## The handshake -/

section Handshake

variable {P : Pki} {files : KeyFiles P} {caFile key peerName : String} {config : TlsConfig P}

/-- The client verifies the server: its certificate, the name in it, and then whatever
`VerifyPeerCertificate` does. -/
def TlsConfig.accepts (config : TlsConfig P) (server : P.Cert) : Prop :=
  P.chains config.rootCAs server ≠ [] ∧ P.validFor server config.serverName ∧
    verifyPeerCertificate config.peerName (P.chains config.rootCAs server) = none

/-- The server verifies the client (`RequireAndVerifyClientCert`). -/
def TlsConfig.admits (config : TlsConfig P) (client : P.Cert) : Prop :=
  P.chains config.clientCAs client ≠ [] ∧
    verifyPeerCertificate config.peerName (P.chains config.clientCAs client) = none

/-- What the server gets to know about the client. -/
def TlsConfig.peerContext (config : TlsConfig P) (client : P.Cert) : PeerContext :=
  .tls (P.chains config.clientCAs client)

theorem loadTLSConfig_ok (h : loadTLSConfig files caFile key peerName = .ok config) :
    config.serverName = peerName ∧ config.peerName = peerName := by
  unfold loadTLSConfig at h
  split at h
  · cases h
  · split at h
    · cases h
    · split at h
      · cases h
      · cases h
        exact ⟨rfl, rfl⟩

/-- A certificate that has been verified comes first in its chains. -/
theorem exists_leaf {pool : P.Pool} {cert : P.Cert} (h : P.chains pool cert ≠ []) :
    ∃ rest more, P.chains pool cert = (⟨P.commonName cert⟩ :: rest) :: more := by
  obtain ⟨chain, more, hchains⟩ := List.exists_cons_of_ne_nil h
  have hhead := P.leaf pool cert chain (by simp [hchains])
  obtain ⟨rest, hchain⟩ := List.head?_eq_some_iff.1 hhead
  exact ⟨rest, more, hchain ▸ hchains⟩

/-- Who is on the other side, according to the registry. -/
theorem getPeer_peerContext {client : P.Cert} (h : config.admits client) :
    getPeer (config.peerContext client) = .ok (P.commonName client) := by
  obtain ⟨rest, more, hchains⟩ := exists_leaf h.1
  rw [TlsConfig.peerContext, hchains]
  rfl

/-- A certificate that passes `VerifyPeerCertificate` has the name that the function was made
for. -/
theorem commonName_of_verify {pool : P.Pool} {cert : P.Cert} (hne : peerName ≠ "")
    (hchains : P.chains pool cert ≠ [])
    (h : verifyPeerCertificate peerName (P.chains pool cert) = none) :
    P.commonName cert = peerName := by
  obtain ⟨rest, more, hchains⟩ := exists_leaf hchains
  rw [hchains, verifyPeerCertificate, if_neg hne] at h
  by_contra hname
  simp only [ne_eq, hname, not_false_eq_true, if_true] at h
  cases h

/-- **One name only.**  Whoever is admitted by a configuration that was made for a name has this
name. -/
theorem commonName_of_admits (hload : loadTLSConfig files caFile key peerName = .ok config)
    (hne : peerName ≠ "") {client : P.Cert} (h : config.admits client) :
    P.commonName client = peerName := by
  obtain ⟨-, hname⟩ := loadTLSConfig_ok hload
  exact commonName_of_verify hne h.1 (hname ▸ h.2)

end Handshake

end Oim.System
