import HttpServer.Net.Server
import HttpServer.Settings

/-!
# A host and its servers

A host has addresses of its own: the loopback ones, and the wildcards, which stand for all of them.
A server listens at one of them on a port, and no two servers may listen on one port at addresses
that have something in common. Port zero stands for the next free port.

A server is told its options before it is bound. Without any it takes a free port on all interfaces
and serves the working directory with listings.

Clients run on the same host. Whether they can reach its addresses depends on its routes; where
they can, a client is refused unless a server listens where it connects.

## Main definitions

* `ServerOptions`, `ServerOptions.service`: the options, and what they say about sessions.
* `Settings.serverOptions`: the options that settings amount to.
* `Host`: a host, with every server that was started on it.
* `Host.bind`, `Host.stop`: starting and stopping a server.
* `Host.connect`: the server that a client reaches.
* `Host.accept`, `Host.complete`: what a client's connection goes through.
-/

namespace HttpServer

/-- What a server is told before it is bound. -/
structure ServerOptions where
  /-- The address to listen on; port zero stands for a free one. -/
  address : SocketAddress := {}
  /-- How long the stages of a request may take. -/
  deadlines : Deadlines := {}
  /-- What answers the requests, if not the files of the working directory. -/
  handler : Option Handler := none

/-- The site that has the working directory as its root. -/
def StaticSite.ofWorkDir (fs : FileSystem) : StaticSite :=
  { root := fs.workPath }

/-- What the sessions of a server with these options do. -/
def ServerOptions.service (o : ServerOptions) (fs : FileSystem) : Service where
  handler := o.handler.getD (StaticSite.ofWorkDir fs).handler
  deadlines := o.deadlines

/-- The site that settings describe. -/
def Settings.site (s : Settings) : StaticSite where
  root := s.files.root.bytes
  listing := s.files.listing

/-- The options that settings amount to, if their address can be read. -/
def Settings.serverOptions (s : Settings) : Except SettingsError ServerOptions :=
  match s.address with
  | .error e => .error e
  | .ok address =>
    .ok { address, deadlines := s.deadlines, handler := some s.site.handler }

namespace IpAddress

/-- The address stands for all addresses of a host. -/
def isWildcard : IpAddress → Bool
  | v4 0 0 0 0 => true
  | v4 .. => false
  | v6 gs => gs.all (· == 0)

/-- The IPv4 address that a mapped one stands for; any other address stands for itself. -/
def unmapped : IpAddress → IpAddress
  | v6 [0, 0, 0, 0, 0, 0xFFFF, g, h] => v4 (g / 256) (g % 256) (h / 256) (h % 256)
  | ip => ip

/-- Every host has this address. -/
def isLocal (ip : IpAddress) : Bool :=
  ip.isWildcard ||
    match ip.unmapped with
    | v4 127 _ _ _ => true
    | v4 0 0 0 0 => true
    | v4 .. => false
    | v6 gs => gs == [0, 0, 0, 0, 0, 0, 0, 1]

/-- The address takes in connections to the other one. The IPv6 wildcard takes in everything. -/
def covers (ip other : IpAddress) : Bool :=
  match ip.unmapped, other.unmapped with
  | v4 0 0 0 0, v4 .. => true
  | v6 gs, o => gs.all (· == 0) || v6 gs == o
  | i, o => i == o

/-- Two addresses have something in common. -/
def overlaps (ip other : IpAddress) : Bool :=
  ip.covers other || other.covers ip

end IpAddress

/-- Why a server could not be bound. -/
inductive BindError where
  /-- Another server listens there. -/
  | addressInUse
  /-- The host has no such address. -/
  | addressNotAvailable
  deriving DecidableEq, Repr

/-- Why a client could not connect. -/
inductive ConnectError where
  /-- Nobody listens there. -/
  | refused
  /-- There is no route to the address. -/
  | unreachable
  deriving DecidableEq, Repr

/-- The wording of a failure to connect. -/
def ConnectError.message : ConnectError → Text
  | refused => "Connection refused (os error 111)".toList
  | unreachable => "Network is unreachable (os error 101)".toList

/-- A host, with every server that was started on it. -/
structure Host where
  /-- Clients on the host have a route to its addresses. -/
  routed : Bool := true
  /-- Servers may be bound to addresses that the host does not have. -/
  foreignAddresses : Bool := false
  /-- The servers with their addresses, in the order in which they were started. -/
  servers : List (SocketAddress × Server) := []

namespace Host

/-- Some server listens on the port of this address at an address that overlaps it. -/
def isTaken (h : Host) (a : SocketAddress) : Bool :=
  h.servers.any fun (b, s) => s.isListening && a.port == b.port && a.ip.overlaps b.ip

/-- The first port of those for general use that no server of the host has had. -/
def freePort (h : Host) : Nat :=
  ((List.range' 49152 (h.servers.length + 1)).find? fun p => h.servers.all (·.1.port ≠ p)).getD 0

/-- Starts a server; it is the last one of the host. -/
def bind (h : Host) (fs : FileSystem) (o : ServerOptions) : Except BindError Host :=
  let address := if o.address.port = 0 then { o.address with port := h.freePort } else o.address
  if !h.foreignAddresses && !address.ip.isLocal then .error .addressNotAvailable
  else if h.isTaken address then .error .addressInUse
  else .ok { h with servers := h.servers ++ [(address, .start (o.service fs))] }

/-- The host with some server after what has become of it. -/
def update (h : Host) (i : Nat) (f : Server → Server) : Host :=
  { h with servers := h.servers.modify i fun (a, s) => (a, f s) }

/-- Stops a server and waits until it has stopped. -/
def stop (h : Host) (w : World) (i : Nat) : Host :=
  h.update i fun s => s.attempt w Server.termination

/-- The server that a client reaches at an address. -/
def connect (h : Host) (a : SocketAddress) : Except ConnectError Nat :=
  if !h.routed then .error .unreachable
  else
    let reached := h.servers.findIdx? fun (b, s) =>
      s.isListening && a.port == b.port && b.ip.covers a.ip
    match reached with
    | none => .error .refused
    | some i => .ok i

/-- A client connects to a server and is accepted. -/
def accept (h : Host) (w : World) (i id : Nat) (input : Input) : Host :=
  h.update i fun s => s.attempt w (Server.admission id input)

/-- A session goes on until it comes to rest. -/
def complete (h : Host) (w : World) (i id : Nat) : Host :=
  h.update i fun s => s.attempt w (Server.completion id)

/-- What the client of a session has received so far. -/
def received (h : Host) (i id : Nat) : Bytes :=
  match h.servers[i]? with
  | none => []
  | some (_, s) => s.received id

end Host

end HttpServer
