import VpnHub.Program.Config

/-! The `.ovpn` profile parser of `ovpn-config/src/parser.rs`. The `nom` combinators it is
built from are written out: a reader fails without taking input, and `alt` tries the next. -/

namespace VpnHub.Config

open Text (Reader)

/-- Outside functions the parser calls: Unicode `str::to_lowercase`, and the standard
`base64` decoder, whose error is its printed form. -/
structure ParserEnv where
  toLowercase : Text → Text
  base64Decode : Bytes → Except Text Bytes

/-! ## Arguments -/

/-- The escapes allowed after a backslash. -/
def unescape : Char → Option Char
  | '\\' => some '\\'
  | '"' => some '"'
  | 'n' => some '\n'
  | 'r' => some '\r'
  | 't' => some '\t'
  | ' ' => some ' '
  | _ => none

/-- The loop of `escaped_transform`: up to a double quote or the end of the input. -/
def escapedLoop : Text → Reader Text
  | acc, [] => some (acc.reverse, [])
  | acc, '"' :: rest => some (acc.reverse, '"' :: rest)
  | _, ['\\'] => none
  | acc, '\\' :: c :: rest =>
    match unescape c with
    | some d => escapedLoop (d :: acc) rest
    | none => none
  | acc, c :: rest => escapedLoop (c :: acc) rest

/-- `escaped_transform` refuses to stop before its first character. -/
def escapedTransform : Reader Text := fun s =>
  if s.head? = some '"' then none else escapedLoop [] s

def readChar (c : Char) : Reader Unit
  | d :: rest => if d = c then some ((), rest) else none
  | [] => none

def parseDoubleQuoted : Reader Text := fun s => do
  let (_, s) ← readChar '"' s
  let (arg, s) ← escapedTransform s
  let (_, s) ← readChar '"' s
  return (arg, s)

def parseSingleQuoted : Reader Text := fun s => do
  let (_, s) ← readChar '\'' s
  let (_, rest) ← readChar '\'' (s.dropWhile (· ≠ '\''))
  return (s.takeWhile (· ≠ '\''), rest)

def isUnquoted (c : Char) : Bool :=
  !Text.isWhitespace c && c ≠ '#' && c ≠ ';' && c ≠ '"' && c ≠ '\''

/-- Never fails, and may take nothing. -/
def parseUnquoted (s : Text) : Text × Text := (s.takeWhile isUnquoted, s.dropWhile isUnquoted)

def parseArgument (s : Text) : Text × Text :=
  ((parseDoubleQuoted s).orElse fun _ => parseSingleQuoted s).getD (parseUnquoted s)

/-- The `while` loop of `parse_arguments`. A turn shortens the text or leaves it as it is,
and then every later turn does the same: `none` stands for the loop that never ends. -/
def parseArgumentsLoop : ℕ → Text → List Text → Option (List Text)
  | 0, _, _ => none
  | turns + 1, curr, args =>
    if curr.isEmpty || Text.startsWith curr ['#'] || Text.startsWith curr [';'] then some args
    else
      let (arg, next) := parseArgument curr
      parseArgumentsLoop turns (Text.trimStart next)
        (if arg.isEmpty then args else args ++ [arg])

def parseArguments (input : Text) : Option (List Text) :=
  parseArgumentsLoop (input.length + 1) (Text.trimStart input) []

/-! ## Directives and inline blocks -/

structure Directive where
  name : Text
  args : List Text
  lineNumber : ℕ
  deriving DecidableEq, Repr

structure InlineBlock where
  tag : Text
  content : Text
  attr : Option Text
  lineNumber : ℕ
  deriving DecidableEq, Repr

structure ParsedOvpnFile where
  directives : List Directive := []
  inlineBlocks : List InlineBlock := []
  deriving DecidableEq, Repr

/-- Tag and attribute of an opening line such as `<tls-auth 1>`. -/
def parseInlineOpenTag (env : ParserEnv) (line : Text) : Option (Text × Option Text) :=
  let trimmed := Text.trim line
  if !Text.startsWith trimmed ['<'] || Text.startsWith trimmed "</".toList ||
      !Text.endsWith trimmed ['>'] then none
  else
    match Text.splitWhitespace (Text.trim (trimmed.drop 1).dropLast) with
    | [] => none
    | tag :: rest => some (env.toLowercase tag, rest.head?)

def parseInlineCloseTag (line expectedTag : Text) : Bool :=
  let trimmed := Text.trim line
  if Text.startsWith trimmed "</".toList && Text.endsWith trimmed ['>'] then
    Text.eqIgnoreAsciiCase (Text.trim (trimmed.drop 2).dropLast) expectedTag
  else false

/-- Where `parse_ovpn_ast` stands between two lines: `block` is the inline block whose lines
the inner loop is collecting. -/
structure AstState where
  result : ParsedOvpnFile := {}
  block : Option InlineBlock := none

/-- One line, with its number. `none` when the arguments of the line are never done. -/
def astLine (env : ParserEnv) (st : AstState) (lineNum : ℕ) (line : Text) : Option AstState :=
  match st.block with
  | some block =>
    if parseInlineCloseTag line block.tag then
      let closed := { block with content := Text.trim block.content }
      some {
        result := { st.result with inlineBlocks := st.result.inlineBlocks ++ [closed] } }
    else some { st with block := some { block with content := block.content ++ line ++ ['\n'] } }
  | none =>
    let trimmed := Text.trim line
    if trimmed.isEmpty || Text.startsWith trimmed ['#'] || Text.startsWith trimmed [';'] then
      some st
    else
      match parseInlineOpenTag env trimmed with
      | some (tag, attr) =>
        some { st with block := some { tag, content := [], attr, lineNumber := lineNum } }
      | none =>
        match parseArguments trimmed with
        | none => none
        | some [] => some st
        | some (name :: args) =>
          let directive := { name := Text.toAsciiLowercase name, args, lineNumber := lineNum }
          some { st with
            result := { st.result with directives := st.result.directives ++ [directive] } }

def astLines (env : ParserEnv) : ℕ → AstState → List Text → Option AstState
  | _, st, [] => some st
  | lineNum, st, line :: rest =>
    match astLine env st lineNum line with
    | some st => astLines env (lineNum + 1) st rest
    | none => none

def parseOvpnAst (env : ParserEnv) (content : Text) :
    Option (Except ConfigError ParsedOvpnFile) :=
  match astLines env 1 {} (Text.lines content) with
  | none => none
  | some st =>
    match st.block with
    | some block => some (.error (.unclosedInlineTag block.tag block.lineNumber))
    | none => some (.ok st.result)

/-! ## Applying directives -/

namespace OpenVpnConfig

def pushRemote (config : OpenVpnConfig) (args : List Text) : OpenVpnConfig :=
  match args.head? with
  | some host =>
    { config with remotes := config.remotes ++ [{
        host
        port := (argAt args 1 Text.parseU16).getD 1194
        proto := argAt args 2 TransportProtocol.fromStr }] }
  | none => config

def setProto (config : OpenVpnConfig) (args : List Text) : OpenVpnConfig :=
  match firstArg args TransportProtocol.fromStr with
  | some proto => { config with proto }
  | none => config

/-- `http-proxy` and `socks-proxy`, which differ in the constructor only. -/
def setProxy (config : OpenVpnConfig) (args : List Text)
    (make : Text → UInt16 → Option Text → ProxyConfig) : OpenVpnConfig :=
  match args with
  | host :: port :: rest =>
    match Text.parseU16 port with
    | some port => { config with proxy := some (make host port rest.head?) }
    | none => config
  | _ => config

/-- A file name from a directive counts only where no inline block or earlier directive has
set the value. -/
def orFirstArg (current : Option Text) (args : List Text) : Option Text :=
  current.or args.head?

def applyDhcpOption (config : OpenVpnConfig) (optType optVal : Text) : OpenVpnConfig :=
  if optType = "DNS".toList then
    match IpAddr.parse optVal with
    | some ip => { config with dnsServers := pushNew config.dnsServers ip }
    | none => config
  else if optType = "DOMAIN".toList ∨ optType = "DOMAIN-SEARCH".toList ∨
      optType = "ADAPTER_DOMAIN_SUFFIX".toList then
    { config with searchDomains := pushNew config.searchDomains optVal }
  else config

def verifyX509TypeOf : Option Text → VerifyX509Type
  | some t =>
    if t = "name-prefix".toList then .namePrefix
    else if t = "subject".toList then .subjectAltName
    else .subject
  | none => .subject

/-- The directives about keys, certificates and authentication, `none` for any other. -/
def applyTlsDirective (config : OpenVpnConfig) (name : Text) (args : List Text) :
    Option OpenVpnConfig :=
  if name = "ca".toList then some { config with ca := orFirstArg config.ca args }
  else if name = "cert".toList then some { config with cert := orFirstArg config.cert args }
  else if name = "key".toList then some { config with key := orFirstArg config.key args }
  else if name = "extra-certs".toList then
    some { config with extraCerts := orFirstArg config.extraCerts args }
  else if name = "pkcs12".toList then
    some { config with
      pkcs12 := config.pkcs12.or
        (args.head?.map fun path => { data := Text.utf8Encode path, password := none }) }
  else if name = "tls-auth".toList then
    some { config with
      tlsAuth := config.tlsAuth.or
        (args.head?.map fun path => { key := path, direction := argAt args 1 KeyDirection.fromStr }) }
  else if name = "tls-crypt".toList then
    some { config with tlsCrypt := orFirstArg config.tlsCrypt args }
  else if name = "tls-crypt-v2".toList then
    some { config with tlsCryptV2 := orFirstArg config.tlsCryptV2 args }
  else if name = "key-direction".toList then
    match args.head? with
    | some kd => some { config with keyDirection := KeyDirection.fromStr kd }
    | none => some config
  else if name = "cipher".toList then some { config with cipher := args.head?.or config.cipher }
  else if name = "data-ciphers".toList then
    match args.head? with
    | some ciphers =>
      some { config with
        dataCiphers := ((Text.splitChar ciphers ':').map Text.trim).filter (· ≠ []) }
    | none => some config
  else if name = "data-ciphers-fallback".toList then
    some { config with dataCiphersFallback := args.head?.or config.dataCiphersFallback }
  else if name = "auth".toList then
    some { config with authDigest := args.head?.or config.authDigest }
  else if name = "auth-user-pass".toList then
    some { config with
      authUserPass := some { username := none, password := none, path := args.head? } }
  else if name = "remote-cert-tls".toList then
    some { config with remoteCertTls := args.head?.or config.remoteCertTls }
  else if name = "verify-x509-name".toList then
    match args.head? with
    | some x509Name =>
      some { config with
        verifyX509Name := some { name := x509Name, nameType := verifyX509TypeOf args[1]? } }
    | none => some config
  else if name = "tls-version-min".toList then
    some { config with tlsVersionMin := args.head?.or config.tlsVersionMin }
  else if name = "reneg-sec".toList then
    some { config with renegSec := (firstArg args Text.parseU32).or config.renegSec }
  else if name = "hand-window".toList then
    some { config with handWindow := (firstArg args Text.parseU32).or config.handWindow }
  else none

/-- The directives about addresses, routes and name servers, `none` for any other. -/
def applyNetworkDirective (config : OpenVpnConfig) (name : Text) (args : List Text) :
    Option OpenVpnConfig :=
  if name = "topology".toList then
    match args.head? with
    | some top => some { config with topology := NetworkTopology.fromName top }
    | none => some config
  else if name = "ifconfig".toList then
    match argAt args 0 IpAddr.parseIpv4, argAt args 1 IpAddr.parseIpv4 with
    | some loc, some remote => some { config with ifconfigV4 := some (loc, remote) }
    | _, _ => some config
  else if name = "ifconfig-ipv6".toList then
    match argAt args 0 IpAddr.parseIpv6, argAt args 1 IpAddr.parseIpv6 with
    | some loc, some remote => some { config with ifconfigV6 := some (loc, remote) }
    | _, _ => some config
  else if name = "route".toList then
    match firstArg args IpAddr.parseIpv4 with
    | some dest =>
      some { config with routesV4 := config.routesV4 ++ [{
          destination := dest
          netmask := (argAt args 1 IpAddr.parseIpv4).getD ipv4HostMask
          gateway := argAt args 2 IpAddr.parseIpv4
          metric := argAt args 3 Text.parseU32 }] }
    | none => some config
  else if name = "route-ipv6".toList then
    match firstArg args (ipv6WithPrefix · 128) with
    | some (dest, len) =>
      some { config with routesV6 := config.routesV6 ++ [{
          destination := dest
          prefixLen := len
          gateway := argAt args 1 IpAddr.parseIpv6
          metric := argAt args 2 Text.parseU32 }] }
    | none => some config
  else if name = "redirect-gateway".toList ∨ name = "redirect-private".toList then
    some { config with redirectGateway := RedirectGatewayFlags.fromArgs args }
  else if name = "dhcp-option".toList then
    match args with
    | optType :: optVal :: _ =>
      some (config.applyDhcpOption (Text.toAsciiUppercase optType) optVal)
    | _ => some config
  else if name = "block-outside-dns".toList then some { config with blockOutsideDns := true }
  else if name = "tun-mtu".toList then
    some { config with tunMtu := (firstArg args Text.parseU32).or config.tunMtu }
  else if name = "link-mtu".toList then
    some { config with linkMtu := (firstArg args Text.parseU32).or config.linkMtu }
  else if name = "mssfix".toList then
    some { config with mssFix := some ((firstArg args Text.parseU16).getD 1450) }
  else none

/-- The directives about the session, `none` for any other. -/
def applySessionDirective (config : OpenVpnConfig) (name : Text) (args : List Text) :
    Option OpenVpnConfig :=
  if name = "client".toList then some { config with client := true }
  else if name = "dev".toList then
    match args.head? with
    | some dev =>
      some { config with dev, devType := (DeviceType.fromStr dev).getD config.devType }
    | none => some config
  else if name = "dev-type".toList then
    some { config with devType := (firstArg args DeviceType.fromStr).getD config.devType }
  else if name = "proto".toList then some (config.setProto args)
  else if name = "remote".toList then some (config.pushRemote args)
  else if name = "remote-random".toList then some { config with remoteRandom := true }
  else if name = "resolv-retry".toList then
    match args.head? with
    | some val =>
      some { config with
        resolvRetryInfinite := Text.eqIgnoreAsciiCase val "infinite".toList }
    | none => some config
  else if name = "nobind".toList then some { config with nobind := true }
  else if name = "persist-key".toList then some { config with persistKey := true }
  else if name = "persist-tun".toList then some { config with persistTun := true }
  else if name = "pull".toList then some { config with pull := true }
  else if name = "ping".toList then
    some { config with
      pingInterval := ((firstArg args Text.parseU64).map fromSecs).or config.pingInterval }
  else if name = "ping-restart".toList then
    some { config with
      pingRestart := ((firstArg args Text.parseU64).map fromSecs).or config.pingRestart }
  else if name = "keepalive".toList then
    match argAt args 0 Text.parseU64, argAt args 1 Text.parseU64 with
    | some ping, some restart =>
      some { config with
        pingInterval := some (fromSecs ping), pingRestart := some (fromSecs restart) }
    | _, _ => some config
  else if name = "explicit-exit-notify".toList then
    some { config with explicitExitNotify := some ((firstArg args Text.parseU8).getD 1) }
  else if name = "http-proxy".toList then some (config.setProxy args .http)
  else if name = "socks-proxy".toList then some (config.setProxy args .socks)
  else if name = "verb".toList then
    some { config with verb := (firstArg args Text.parseU8).getD config.verb }
  else if name = "fast-io".toList then some { config with fastIo := true }
  else if name = "compress".toList ∨ name = "comp-lzo".toList then
    some { config with compression := some (args.head?.getD "adaptive".toList) }
  else none

/-- `apply_directive`: the `match` on the name, in three groups. An unknown directive is
ignored. -/
def applyDirective (config : OpenVpnConfig) (dir : Directive) : OpenVpnConfig :=
  (((config.applySessionDirective dir.name dir.args).or
    (config.applyTlsDirective dir.name dir.args)).or
    (config.applyNetworkDirective dir.name dir.args)).getD config

/-- One directive of a `<connection>` block. -/
def applyConnectionDirective (config : OpenVpnConfig) (dir : Directive) : OpenVpnConfig :=
  if dir.name = "remote".toList then config.pushRemote dir.args
  else if dir.name = "proto".toList then config.setProto dir.args
  else if dir.name = "http-proxy".toList then config.setProxy dir.args .http
  else if dir.name = "socks-proxy".toList then config.setProxy dir.args .socks
  else config

def applyConnectionBlock (config : OpenVpnConfig) (ast : ParsedOvpnFile) : OpenVpnConfig :=
  ast.directives.foldl applyConnectionDirective config

def applyBlock (env : ParserEnv) (config : OpenVpnConfig) (block : InlineBlock) :
    Option (Except ConfigError OpenVpnConfig) :=
  if block.tag = "ca".toList then some (.ok { config with ca := some block.content })
  else if block.tag = "cert".toList then some (.ok { config with cert := some block.content })
  else if block.tag = "key".toList then some (.ok { config with key := some block.content })
  else if block.tag = "extra-certs".toList then
    some (.ok { config with extraCerts := some block.content })
  else if block.tag = "tls-auth".toList then
    some (.ok { config with
      tlsAuth := some {
        key := block.content, direction := block.attr.bind KeyDirection.fromStr } })
  else if block.tag = "tls-crypt".toList then
    some (.ok { config with tlsCrypt := some block.content })
  else if block.tag = "tls-crypt-v2".toList then
    some (.ok { config with tlsCryptV2 := some block.content })
  else if block.tag = "pkcs12".toList then
    let text := block.content.filter fun c => c ≠ '\n' ∧ c ≠ '\r' ∧ c ≠ ' '
    match env.base64Decode (Text.utf8Encode text) with
    | .ok raw => some (.ok { config with pkcs12 := some { data := raw, password := none } })
    | .error e => some (.error (.base64Error e))
  else if block.tag = "connection".toList then
    match parseOvpnAst env block.content with
    | none => none
    | some (.error e) => some (.error e)
    | some (.ok ast) => some (.ok (config.applyConnectionBlock ast))
  else some (.ok config)

def applyBlocks (env : ParserEnv) :
    OpenVpnConfig → List InlineBlock → Option (Except ConfigError OpenVpnConfig)
  | config, [] => some (.ok config)
  | config, block :: rest =>
    match config.applyBlock env block with
    | some (.ok config) => applyBlocks env config rest
    | outcome => outcome

end OpenVpnConfig

/-- The profile, or the error; `none` when the parser does not return. -/
def parseOvpnConfig (env : ParserEnv) (content : Text) :
    Option (Except ConfigError OpenVpnConfig) :=
  match parseOvpnAst env content with
  | none => none
  | some (.error e) => some (.error e)
  | some (.ok ast) =>
    match OpenVpnConfig.applyBlocks env {} ast.inlineBlocks with
    | some (.ok config) => some (.ok (ast.directives.foldl OpenVpnConfig.applyDirective config))
    | outcome => outcome

end VpnHub.Config
