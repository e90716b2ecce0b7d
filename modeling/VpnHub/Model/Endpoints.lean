import VpnHub.Program.Failover
import VpnHub.Program.Parser

/-! How the remotes of a profile are reached: what the session does with them, and what the lines
of a connection block and those outside the blocks say about it. -/

namespace VpnHub.Config

/-- The transport protocol, and the proxy where the connection goes through one. -/
structure Way where
  proto : TransportProtocol
  proxy : Option ProxyConfig
  deriving DecidableEq, Repr

/-- The way that `run_orchestration_loop` takes: only TCP goes through the proxy. -/
def wayTo (config : OpenVpnConfig) (remote : RemoteEntry) : Way :=
  let proto := remote.proto.getD config.proto
  { proto, proxy := if Core.isTcp proto then config.proxy else none }

/-! ## Lines -/

/-- The remote that a line names. -/
def remoteOf (dir : Directive) : Option RemoteEntry :=
  if dir.name = "remote".toList then
    dir.args.head?.map fun host => {
      host
      port := (argAt dir.args 1 Text.parseU16).getD 1194
      proto := argAt dir.args 2 TransportProtocol.fromStr }
  else none

/-- The protocol that a line sets. -/
def protoOf (dir : Directive) : Option TransportProtocol :=
  if dir.name = "proto".toList then firstArg dir.args TransportProtocol.fromStr else none

def proxyOfArgs (make : Text → UInt16 → Option Text → ProxyConfig) : List Text → Option ProxyConfig
  | host :: port :: rest => (Text.parseU16 port).map fun port => make host port rest.head?
  | _ => none

/-- The proxy that a line sets. -/
def proxyOf (dir : Directive) : Option ProxyConfig :=
  if dir.name = "http-proxy".toList then proxyOfArgs .http dir.args
  else if dir.name = "socks-proxy".toList then proxyOfArgs .socks dir.args
  else none

/-- What the last of the lines that `read` understands says. -/
def lastOf {α : Type} (read : Directive → Option α) (dirs : List Directive) : Option α :=
  (dirs.filterMap read).getLast?

/-- The lines of a block that is parsed as a profile. -/
def linesOf (env : ParserEnv) (block : InlineBlock) : List Directive :=
  match parseOvpnAst env block.content with
  | some (.ok ast) => ast.directives
  | _ => []

def isConnection (block : InlineBlock) : Bool := block.tag = "connection".toList

/-- The lines of all connection blocks. -/
def connectionLines (env : ParserEnv) (blocks : List InlineBlock) : List Directive :=
  (blocks.filter isConnection).flatMap (linesOf env)

/-! ## Blocks on their own -/

/-- The way to a remote of a connection block that the lines `own` of this block determine and,
where it has none, the lines `top` outside the blocks. -/
def ownWay (top own : List Directive) (remote : RemoteEntry) : Way :=
  let proto := ((remote.proto.or (lastOf protoOf own)).or (lastOf protoOf top)).getD .udp
  { proto
    proxy :=
      if Core.isTcp proto then (lastOf proxyOf own).or (lastOf proxyOf top) else none }

/-- A line of the block gives way to none outside it that says otherwise. Without one outside, the
last line of all blocks says what the block says, and `default` where it says nothing. -/
structure Agrees {α : Type} (read : Directive → Option α) (default : Option α)
    (top own blocks : List Directive) : Prop where
  overridden : ∀ x ∈ lastOf read top, ∀ y ∈ lastOf read own, y = x
  last : lastOf read top = none → (lastOf read blocks).or default = (lastOf read own).or default

/-- No line outside the block of a remote takes it another way. -/
structure Undisturbed (top own blocks : List Directive) (remote : RemoteEntry) : Prop where
  proto : remote.proto = none → Agrees protoOf (some .udp) top own blocks
  proxy : Core.isTcp (ownWay top own remote).proto → Agrees proxyOf none top own blocks

end VpnHub.Config
