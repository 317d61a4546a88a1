import UnitreeGo2.PrivateWifi.Commands
import Mathlib.Data.Finset.Card
import Mathlib.Data.Finset.Lattice.Basic

/-!
# What the private Wi-Fi tool checks

Before the tool changes anything, it checks the profiles and the links it relies on.  While the
private network is up, it checks that nothing but that network is reached.
-/

namespace UnitreeGo2.PrivateWifi

open Script (ask get modify raise tryCatch ensure loop)

variable (lib : Library)

/-! ## Interfaces -/

inductive InterfaceKind where
  | missing
  | virtual
  | wireless
  | wired
  deriving DecidableEq, Repr

def interfacePath (interface : String) : String := "/sys/class/net/" ++ interface

/-- `_interface_kind`. -/
def interfaceKind (interface : String) : Action InterfaceKind := do
  let answer ← ask (.resolve (interfacePath interface))
  match answer.resolved with
  | none => return .missing
  | some resolved =>
    if interface = "lo" ∨ 1 < (resolved.splitOn "/virtual/").length then return .virtual
    else
      let wireless ← ask (.isDir (interfacePath interface ++ "/wireless"))
      return if wireless.holds then .wireless else .wired

/-- `_interface_is_local_bridge`. -/
def interfaceIsLocalBridge (interface : String) : Action Bool := do
  let kind ← interfaceKind interface
  if kind = .virtual then
    let bridge ← ask (.isDir (interfacePath interface ++ "/bridge"))
    return bridge.holds
  else return false

/-- `_validate_interfaces`. -/
def validateInterfaces : Action Unit := do
  let wifiKind ← interfaceKind WIFI_INTERFACE
  if wifiKind ≠ .wireless then
    raise (.switchError "wlo1 must be a physical wireless interface")
  else
    let wiredKind ← interfaceKind WIRED_INTERFACE
    if wiredKind ≠ .wired then
      raise (.switchError "enp108s0 must be a physical wired interface")
    else return ()

/-- What the environment of the process must hold. -/
def runtimeGate : List (String × String) :=
  [("GO2_FORCE_NOMOTION_PROFILE", "workstation-full-nomotion-corrected-v1"),
    ("GO2_RUNTIME_PLACEMENT", "workstation-local"), ("GO2_ALLOW_MOTION", "false")]

/-- `_validate_runtime_gate`. -/
def validateRuntimeGate (environ : String → Option String) : Except Raised Unit :=
  if ∀ item ∈ runtimeGate, environ item.1 = some item.2 then .ok ()
  else .error (.switchError "exact corrected workstation no-motion runtime gate is required")

/-! ## Profiles -/

/-- `_connection_uuids`. -/
def connectionUuids : Action (List String) := do
  let output ← run ["nmcli", "--get-values", "UUID", "connection", "show"]
    "list NetworkManager connection identities" QUERY_TIMEOUT_S
  let values := ((lib.splitlines output).map lib.strip).filter (· ≠ "")
  if values = [] ∨ ∃ value ∈ values, isUuid value = false then
    raise (.switchError "NetworkManager returned an invalid connection list")
  else return values

/-- Those of the connections that are the target. -/
def targetMatches : List String → Action (List String)
  | [] => return []
  | uuid :: uuids => do
    let connectionType ← nmValue lib "connection.type" uuid "read candidate connection type"
    if connectionType ≠ "802-11-wireless" then targetMatches uuids
    else
      let ssid ← nmValue lib "802-11-wireless.ssid" uuid "read candidate Wi-Fi SSID"
      let found ← targetMatches uuids
      return if ssid = TARGET_SSID then uuid :: found else found

/-- `_find_target_uuid`. -/
def findTargetUuid : Action String := do
  let uuids ← connectionUuids lib
  let found ← targetMatches lib uuids
  match found with
  | [uuid] => return uuid
  | _ => raise (.switchError "exactly one pre-created Robonix-Go2 Wi-Fi profile is required")

/-- `_require_profile_values`. -/
def requireProfileValues (uuid label : String) : List (String × String) → Action Unit
  | [] => return ()
  | (field, wanted) :: expected => do
    let actual ← nmValue lib field uuid s!"validate {label} profile"
    if actual ≠ wanted then
      raise (.switchError s!"{label} profile has an unsafe {field} setting")
    else requireProfileValues uuid label expected

/-- `_isolated_ip_settings`. -/
def isolatedIpSettings : List (String × String) :=
  [("connection.autoconnect", "no"), ("connection.master", ""), ("connection.slave-type", ""),
    ("connection.secondaries", ""), ("ipv4.method", "manual"), ("ipv4.addresses", HOST_ADDRESS),
    ("ipv4.gateway", ""), ("ipv4.dns", ""), ("ipv4.dns-search", ""), ("ipv4.dns-options", ""),
    ("ipv4.routes", ""), ("ipv4.route-table", "254"), ("ipv4.routing-rules", ""),
    ("ipv4.never-default", "yes"), ("ipv4.ignore-auto-dns", "yes"), ("ipv6.method", "disabled"),
    ("ipv6.addresses", ""), ("ipv6.gateway", ""), ("ipv6.dns", ""), ("ipv6.dns-search", ""),
    ("ipv6.dns-options", ""), ("ipv6.routes", ""), ("ipv6.route-table", "254"),
    ("ipv6.routing-rules", ""), ("ipv6.never-default", "yes"), ("ipv6.ignore-auto-dns", "yes")]

/-- Whether `2(?:\s+\([^\r\n()]*\))?` matches the whole text. -/
def isUnsavedSecret (text : String) : Bool :=
  match text.toList with
  | '2' :: rest =>
    rest = [] || (match rest with
      | c :: _ =>
        PyText.isSpace c && (match rest.dropWhile PyText.isSpace with
          | '(' :: body =>
            body.getLast? = some ')' &&
              body.dropLast.all fun d => d ∉ ['\r', '\n', '(', ')']
          | _ => false)
      | [] => false)
  | _ => false

/-- `_validate_target_profile`. -/
def validateTargetProfile (uuid : String) : Action Unit := do
  requireProfileValues lib uuid "private Wi-Fi" (isolatedIpSettings ++
    [("connection.type", "802-11-wireless"), ("connection.interface-name", WIFI_INTERFACE),
      ("802-11-wireless.mode", "infrastructure"), ("802-11-wireless.ssid", TARGET_SSID),
      ("802-11-wireless-security.key-mgmt", "wpa-psk")])
  let pskFlags ← nmValue lib "802-11-wireless-security.psk-flags" uuid
    "validate private Wi-Fi one-time secret policy"
  if isUnsavedSecret pskFlags then return ()
  else raise (.switchError "private Wi-Fi profile must use psk-flags=2 (not saved)")

/-- `_validate_wired_profile`. -/
def validateWiredProfile (uuid : String) : Action Unit :=
  requireProfileValues lib uuid "go2-readonly wired" (isolatedIpSettings ++
    [("connection.id", WIRED_PROFILE_NAME), ("connection.type", "802-3-ethernet"),
      ("connection.interface-name", WIRED_INTERFACE)])

/-- `preflight`. -/
def preflight (environ : String → Option String) : Action ConnectionState := do
  check (validateRuntimeGate environ)
  validateInterfaces
  let campusUuid ← activeUuid lib WIFI_INTERFACE "read active campus Wi-Fi identity"
  let campusType ← nmValue lib "connection.type" campusUuid
    "validate active campus connection type"
  let campusSsid ← nmValue lib "802-11-wireless.ssid" campusUuid "validate active campus Wi-Fi"
  if campusType ≠ "802-11-wireless" ∨ campusSsid = TARGET_SSID then
    raise (.switchError "wlo1 must initially hold a non-Robonix campus Wi-Fi")
  else
    let campusDefault ← run defaultRouteArgv "validate active campus default route" QUERY_TIMEOUT_S
    if lib.strip campusDefault = "" then
      raise (.switchError "active campus Wi-Fi must initially own an IPv4 default route")
    else
      let wiredUuid ← activeUuid lib WIRED_INTERFACE "read active go2-readonly wired identity"
      let targetUuid ← findTargetUuid lib
      if targetUuid = campusUuid then
        raise (.switchError "private Wi-Fi must not already be active")
      else
        validateTargetProfile lib targetUuid
        validateWiredProfile lib wiredUuid
        let records ← allIpv4Addresses lib
        check (requireExactHostOwner records WIRED_INTERFACE "preflight")
        let wifiAddresses := interfaceAddresses records WIFI_INTERFACE
        if wifiAddresses = [] ∨ ∃ address ∈ wifiAddresses, address.ip = HOST_IP then
          raise (.switchError
            "wlo1 must initially have a campus address and not 192.168.123.99")
        else
          let state : ConnectionState := ⟨campusUuid, targetUuid, wiredUuid⟩
          modify fun w => { w with state := some state }
          return state

/-! ## Routes -/

structure RouteRecord where
  family : ℕ
  routeType : String
  network : IpNetwork
  interface : Option String
  table : String
  hasGateway : Bool
  tokens : List String
  deriving DecidableEq, Repr

def ROUTE_TYPES : List String :=
  ["anycast", "blackhole", "broadcast", "local", "multicast", "nat", "prohibit", "throw",
    "unreachable"]

/-- The token after a name; a name at the end of the tokens is an error. -/
def tokenValue (tokens : List String) (name : String) : Except Raised (Option String) :=
  if name ∈ tokens then
    match tokens[tokens.idxOf name + 1]? with
    | none => .error (.switchError "could not parse all-table route state")
    | some value => .ok (some value)
  else .ok none

/-- `_parse_route`. -/
def parseRoute (line : String) (family : ℕ) : Except Raised RouteRecord := do
  let unparsed : Raised := .switchError "could not parse all-table route state"
  let tokens := lib.split line
  let first ← tokens.head?.elim (.error unparsed) .ok
  let typed := first ∈ ROUTE_TYPES
  let destination ← (tokens[if typed then 1 else 0]?).elim (.error unparsed) .ok
  let written :=
    if destination = "default" then (if family = 4 then "0.0.0.0/0" else "::/0") else destination
  let network ← (lib.ipNetwork written).elim (.error unparsed) .ok
  if network.version ≠ family then
    throw (.switchError "route family did not match parsed destination")
  let table ← tokenValue tokens "table"
  let interface ← tokenValue tokens "dev"
  return {
    family := family
    routeType := if typed then first else "unicast"
    network := network
    interface := interface
    -- an empty token is no table either, but there is none
    table := table.getD "main"
    hasGateway := "via" ∈ tokens || "nexthop" ∈ tokens
    tokens := tokens }

/-- `_all_routes`. -/
def allRoutes (family : ℕ) : Action (List RouteRecord) := do
  let output ← run ["ip", s!"-{family}", "route", "show", "table", "all"]
    s!"read all IPv{family} route tables" QUERY_TIMEOUT_S
  match ((lib.splitlines output).filter fun line => lib.strip line ≠ "").mapM
      fun line => parseRoute lib line family with
  | .error error => raise error
  | .ok routes => return routes

def allowedRules : List String :=
  ["0: from all lookup local", "0: from all lookup 255", "32766: from all lookup main",
    "32766: from all lookup 254", "32767: from all lookup default", "32767: from all lookup 253"]

/-- The checks of `_validate_policy_rules`. -/
def policyRules (family : ℕ) (output : String) : Except Raised Unit :=
  let normalized := ((lib.splitlines output).filter fun line => lib.strip line ≠ "").map
    fun line => " ".intercalate (lib.split line)
  let seen := (normalized.map fun rule =>
    String.ofList (rule.toList.takeWhile (· ≠ ':'))).toFinset
  if ∃ rule ∈ normalized, rule ∉ allowedRules then
    .error (.switchError s!"private validation found an unsafe IPv{family} policy rule")
  else if normalized.length ∉ (if family = 4 then [3] else [2, 3]) ∨
      seen.card ≠ normalized.length then
    .error (.switchError s!"private validation found duplicate IPv{family} policy rules")
  else if seen ≠ (if family = 4 then {"0", "32766", "32767"} else {"0", "32766"}) ∧
      ¬ (family = 6 ∧ seen = {"0", "32766", "32767"}) then
    .error (.switchError s!"private validation found an incomplete IPv{family} rule baseline")
  else .ok ()

/-- `_validate_policy_rules`. -/
def validatePolicyRules (family : ℕ) : Action Unit := do
  let output ← run ["ip", s!"-{family}", "rule", "show"] s!"read all IPv{family} policy rules"
    QUERY_TIMEOUT_S
  check (policyRules lib family output)

/-- An IPv6 network of link-local addresses, `fe80::/64`. -/
def IPV6_LINK_LOCAL_NETWORK : IpNetwork := ⟨6, 0xfe80 * 2 ^ 112, 64⟩

def PRIVATE_NETWORK : IpNetwork := ⟨4, ipv4 192 168 123 0, 24⟩

def IPV4LL_NETWORK : IpNetwork := ⟨4, ipv4 169 254 0 0, 16⟩

def ALLOWED_WIFI_IPV4LL_ROUTE_TOKENS : List String :=
  ["169.254.0.0/16", "dev", WIFI_INTERFACE, "scope", "link", "metric", "1000"]

def ALLOWED_IPV6_LOOPBACK_MAIN_TOKENS : List String :=
  ["::1", "dev", "lo", "proto", "kernel", "metric", "256", "pref", "medium"]

def ALLOWED_IPV6_LOOPBACK_LOCAL_TOKENS : List String :=
  ["local", "::1", "dev", "lo", "table", "local", "proto", "kernel", "metric", "0", "pref",
    "medium"]

def REQUIRED_IPV6_LOOPBACK_ROUTE_KEYS : Finset (String × String) :=
  {("loopback-main", "lo"), ("loopback-local", "lo")}

def REQUIRED_IPV6_DOCKER_ROUTE_KEYS : Finset (String × String) :=
  {("bridge-main", "docker0"), ("bridge-local", "docker0"), ("bridge-multicast", "docker0")}

/-- Whether the network holds the address, for an address of its version. -/
def IpNetwork.contains (network : IpNetwork) (address : ℕ) : Bool :=
  let bits := (if network.version = 4 then 32 else 128) - network.prefixLength
  address / 2 ^ bits = network.networkAddress / 2 ^ bits

/-- `a.overlaps(b)`, for networks of one version. -/
def IpNetwork.overlaps (a b : IpNetwork) : Bool :=
  a.contains b.networkAddress || b.contains a.networkAddress

/-- `_optional_docker0_link_local_ip`. -/
def optionalDocker0LinkLocalIp : Action (Option ℕ) := do
  let kind ← interfaceKind "docker0"
  if kind = .missing then return none
  else
    let virtual ← interfaceIsLocalBridge "docker0"
    let bridge ← if virtual then (do
        let answer ← ask (.isDir (interfacePath "docker0" ++ "/bridge"))
        return answer.holds) else pure false
    if bridge = false then raise (.switchError "docker0 must be a local virtual bridge")
    else
      let output ← run ["ip", "-o", "-6", "addr", "show", "dev", "docker0", "scope", "link"]
        "read docker0 IPv6 link-local address" QUERY_TIMEOUT_S
      match (lib.splitlines output).filter fun line => lib.strip line ≠ "" with
      | [] => return none
      | [line] =>
        let fields := lib.split line
        let index := fields.getD 0 ""
        if fields.length < 6 ∨ index.toList.getLast? ≠ some ':' ∨
            lib.isDigits (String.ofList index.toList.dropLast) = false ∨
            fields.getD 1 "" ≠ "docker0" ∨ fields.getD 2 "" ≠ "inet6" ∨
            (fields.drop 4).take 2 ≠ ["scope", "link"] ∨ fields.count "inet6" ≠ 1 ∨
            fields.count "scope" ≠ 1 then
          raise (.switchError "could not parse docker0 IPv6 link-local address")
        else
          match lib.ipv6Interface (fields.getD 3 "") with
          | none => raise (.switchError "could not parse docker0 IPv6 link-local address")
          | some (ip, prefixLength) =>
            if prefixLength ≠ 64 ∨ IPV6_LINK_LOCAL_NETWORK.contains ip = false then
              raise (.switchError "docker0 must have one IPv6 link-local /64 address")
            else return some ip
      | _ =>
        raise (.switchError "docker0 must have at most one IPv6 link-local /64 address")

/-- `_allowed_ipv6_route_key`. -/
def allowedIpv6RouteKey (route : RouteRecord) (docker0LinkLocalIp : Option ℕ) :
    Action (Option (String × String)) := do
  if route.tokens = ALLOWED_IPV6_LOOPBACK_MAIN_TOKENS then return some ("loopback-main", "lo")
  else if route.tokens = ALLOWED_IPV6_LOOPBACK_LOCAL_TOKENS then
    return some ("loopback-local", "lo")
  else
    match docker0LinkLocalIp with
    | none => return none
    | some ip =>
      if route.interface ≠ some "docker0" then return none
      else
        let virtual ← interfaceIsLocalBridge "docker0"
        if virtual = false then return none
        else
          let bridge ← ask (.isDir (interfacePath "docker0" ++ "/bridge"))
          if bridge.holds = false then return none
          else if route.tokens = ["fe80::/64", "dev", "docker0", "proto", "kernel", "metric", "256",
              "linkdown", "pref", "medium"] then return some ("bridge-main", "docker0")
          else if route.routeType = "local" ∧ route.network.prefixLength = 128 ∧
              IPV6_LINK_LOCAL_NETWORK.contains route.network.networkAddress ∧
              route.network.networkAddress = ip ∧
              route.tokens = ["local", lib.ipv6Text route.network.networkAddress, "dev",
                "docker0", "table", "local", "proto", "kernel", "metric", "0", "pref",
                "medium"] then
            return some ("bridge-local", "docker0")
          else if route.tokens = ["multicast", "ff00::/8", "dev", "docker0", "table", "local",
              "proto", "kernel", "metric", "256", "linkdown", "pref", "medium"] then
            return some ("bridge-multicast", "docker0")
          else return none

/-- What `_validate_route_isolation` counts. -/
structure RouteCounts where
  directRoutes : ℕ := 0
  allowedIpv4llRoutes : ℕ := 0
  seenIpv6Routes : Finset (String × String) := ∅

/-- `value_after`. -/
def valueAfter (tokens : List String) (name : String) : Option String :=
  if name ∈ tokens then tokens[tokens.idxOf name + 1]? else none

/-- The direct route of the private network. -/
def RouteRecord.isDirect (route : RouteRecord) : Prop :=
  route.routeType = "unicast" ∧ route.network = PRIVATE_NETWORK ∧
    route.table ∈ ["main", "254"] ∧ valueAfter route.tokens "scope" = some "link" ∧
    valueAfter route.tokens "src" = some "192.168.123.99" ∧
    valueAfter route.tokens "proto" = some "kernel"

def RouteRecord.isLocal (route : RouteRecord) : Prop :=
  route.routeType ∈ ["local", "broadcast"] ∧ route.table ∈ ["local", "255"] ∧
    route.network.networkAddress ∈ [PRIVATE_NETWORK.networkAddress, HOST_IP, ipv4 192 168 123 255]

def RouteRecord.isAllowedIpv4ll (route : RouteRecord) : Prop :=
  route.routeType = "unicast" ∧ route.table = "main" ∧
    route.tokens = ALLOWED_WIFI_IPV4LL_ROUTE_TOKENS

instance (route : RouteRecord) : Decidable route.isDirect := by
  unfold RouteRecord.isDirect
  infer_instance

instance (route : RouteRecord) : Decidable route.isLocal := by
  unfold RouteRecord.isLocal
  infer_instance

instance (route : RouteRecord) : Decidable route.isAllowedIpv4ll := by
  unfold RouteRecord.isAllowedIpv4ll
  infer_instance

/-- The checks of one route. -/
def isolateRoute (docker0LinkLocalIp : Option ℕ) (family : ℕ) (route : RouteRecord)
    (counts : RouteCounts) : Action RouteCounts := do
  let refuse (text : String) : Action RouteCounts := raise (.switchError text)
  if route.routeType = "unicast" ∧ route.network.prefixLength ≤ 7 then
    refuse "private validation found a default or split-default route"
  else if route.table ∉ ["main", "254", "local", "255"] then
    refuse "private validation found a non-baseline route table"
  else if route.hasGateway then refuse "private validation found a gateway route"
  else if family = 6 then
    let key ← allowedIpv6RouteKey lib route docker0LinkLocalIp
    match key with
    | none => refuse "private validation found an unexpected IPv6 route"
    | some key =>
      if key ∈ counts.seenIpv6Routes then
        refuse "private validation found a duplicate IPv6 route"
      else return { counts with seenIpv6Routes := insert key counts.seenIpv6Routes }
  else if route.routeType ∉ ["unicast", "local", "broadcast"] then
    refuse "private validation found an unexpected route type"
  else if route.network.overlaps IPV4LL_NETWORK ∧ ¬ route.isAllowedIpv4ll then
    refuse "private validation found an unexpected IPv4LL route"
  else if route.interface = some WIFI_INTERFACE then
    if route.isDirect then return { counts with directRoutes := counts.directRoutes + 1 }
    else if route.isAllowedIpv4ll then
      return { counts with allowedIpv4llRoutes := counts.allowedIpv4llRoutes + 1 }
    else if route.isLocal then return counts
    else refuse "private Wi-Fi has a route outside 192.168.123.0/24"
  else if route.interface = some WIRED_INTERFACE then
    refuse "wired Go2 interface retained a route during Wi-Fi validation"
  else if route.routeType = "unicast" then
    if route.network.overlaps PRIVATE_NETWORK then
      refuse "another interface route overlaps 192.168.123.0/24"
    else
      match route.interface with
      | none => refuse "private validation found an unbound unicast route"
      | some interface =>
        let bridge ← interfaceIsLocalBridge interface
        if bridge = false then refuse "private validation found another physical egress route"
        else if lib.isPrivate route.network then return counts
        else refuse "private validation found a non-private bridge route"
  else return counts

def isolateRoutes (docker0LinkLocalIp : Option ℕ) (family : ℕ) :
    List RouteRecord → RouteCounts → Action RouteCounts
  | [], counts => return counts
  | route :: routes, counts => do
    let counts ← isolateRoute lib docker0LinkLocalIp family route counts
    isolateRoutes docker0LinkLocalIp family routes counts

/-- `_validate_route_isolation`. -/
def validateRouteIsolation : Action Unit := do
  let docker0LinkLocalIp ← optionalDocker0LinkLocalIp lib
  validatePolicyRules lib 4
  let routes4 ← allRoutes lib 4
  let counts ← isolateRoutes lib docker0LinkLocalIp 4 routes4 {}
  validatePolicyRules lib 6
  let routes6 ← allRoutes lib 6
  let counts ← isolateRoutes lib docker0LinkLocalIp 6 routes6 counts
  if counts.directRoutes ≠ 1 then
    raise (.switchError
      "private validation requires one direct 192.168.123.0/24 route on wlo1")
  else if 1 < counts.allowedIpv4llRoutes then
    raise (.switchError "private validation found duplicate allowed IPv4LL routes")
  else if counts.seenIpv6Routes ≠ REQUIRED_IPV6_LOOPBACK_ROUTE_KEYS ∪
      (if docker0LinkLocalIp.isSome then REQUIRED_IPV6_DOCKER_ROUTE_KEYS else ∅) then
    raise (.switchError "private validation found an incomplete IPv6 local baseline")
  else return ()

/-! ## The private network -/

/-- `_validate_private_state`. -/
def validatePrivateState : Action Unit := do
  let state ← requireState
  let uuid ← activeUuid lib WIFI_INTERFACE "verify private Wi-Fi activation"
  if uuid ≠ state.targetUuid then
    raise (.switchError "private Wi-Fi did not become the active wlo1 profile")
  else
    let records ← allIpv4Addresses lib
    check (requireExactHostOwner records WIFI_INTERFACE "private runtime")
    if interfaceAddresses records WIRED_INTERFACE ≠ [] then
      raise (.switchError "wired interface retained an IPv4 address")
    else
      validateRouteIsolation lib
      let dns ← run ["nmcli", "--get-values", "IP4.DNS,IP6.DNS", "device", "show"]
        "verify absence of NetworkManager DNS" QUERY_TIMEOUT_S
      if lib.strip dns ≠ "" then
        raise (.switchError "private validation requires no NetworkManager DNS")
      else return ()

def TARGET_HOSTS : List String := ["192.168.123.1", "192.168.123.18", "192.168.123.161"]

def pingHosts : List String → Action Unit
  | [] => return ()
  | address :: addresses => do
    let _ ← run ["ping", "-n", "-I", WIFI_INTERFACE, "-c", "3", "-W", "1", address]
      s!"reachability check for private host {address}" PING_TIMEOUT_S
    pingHosts addresses

/-- `_validate_private_runtime`. -/
def validatePrivateRuntime : Action Unit := do
  validatePrivateState lib
  pingHosts TARGET_HOSTS

end UnitreeGo2.PrivateWifi
