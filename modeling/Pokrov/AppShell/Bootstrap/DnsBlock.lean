import Pokrov.AppShell.Bootstrap.SelectedApps

/-!
# The DNS block on a desktop

`_buildDesktopDnsBlock`: one server asks through the tunnel and one directly. Both are made of
servers of the profile, with their resolvers.
-/

namespace Pokrov.AppShell.Bootstrap

open Dart

/-! ## Rules -/

/-- Whether a rule sends all of the domains to a server. There is none when the domains of a rule
for that server are not a list, and the cast throws. -/
def hasServerDomains (serverDomains : List Text) (serverTag : Text) : List Fields → Option Bool
  | [] => some false
  | rule :: rest =>
    if readText (rule.get "server") ≠ serverTag then hasServerDomains serverDomains serverTag rest
    else match rule.get "domain" with
      | .null => hasServerDomains serverDomains serverTag rest
      | .list items =>
        let domains := (items.filter fun item => !item.isNull).map toText
        if serverDomains.all (fun domain => domains.contains domain) then some true
        else hasServerDomains serverDomains serverTag rest
      | _ => none

/-- `_ensureDnsServerDomainRule`. -/
def ensureDnsServerDomainRule (rules : List Fields) (serverDomains : List Text) (serverTag : Text) :
    Option (List Fields) :=
  if serverDomains = [] then some rules
  else (hasServerDomains serverDomains serverTag rules).map fun alreadyPresent =>
    if alreadyPresent then rules
    else insertRule rules 0
      [(text "domain", tagDocument serverDomains), (text "server", .string serverTag)]

def isTrue : Document → Bool
  | .bool true => true
  | _ => false

/-- `_ensureDnsIpPrivateRule`. -/
def ensureDnsIpPrivateRule (rules : List Fields) (serverTag : Text) : List Fields :=
  if rules.any fun rule =>
      isTrue (rule.get "ip_is_private") && readText (rule.get "server") = serverTag then rules
  else rules ++ [[(text "ip_is_private", .bool true), (text "server", .string serverTag)]]

/-- `_ensureDnsDomainSuffixRule`. -/
def ensureDnsDomainSuffixRule (rules : List Fields) (suffix serverTag : Text) : List Fields :=
  if rules.any fun rule => readText (rule.get "domain_suffix") = suffix &&
      readText (rule.get "server") = serverTag then rules
  else rules ++ [[(text "domain_suffix", .string suffix), (text "server", .string serverTag)]]

/-- `_ensureDnsRuleSetServerRule`. -/
def ensureDnsRuleSetServerRule (rules : List Fields) (ruleSetTags : List Text) (serverTag : Text) :
    List Fields :=
  if ruleSetTags = [] then rules
  else if rules.any fun rule => readText (rule.get "server") = serverTag &&
      readTagList (rule.get "rule_set") = ruleSetTags then rules
  else rules ++ [[(text "rule_set", tagDocument ruleSetTags), (text "server", .string serverTag)]]

/-- What the blocks read of `_ClientRuleSetCatalog`. -/
structure ClientRuleSetCatalog where
  definitions : List (Text × Text)
  domainRuleSetTags : List Text
  ipRuleSetTags : List Text

/-! ## Servers -/

variable (toLowerCase : Text → Text)

/-- `isNetworkDns`. -/
def isNetworkDns (server : Fields) : Bool :=
  decide (toLowerCase (readText (server.get "type")) ≠ text "local") &&
    decide (toLowerCase (readText (server.get "address")) ≠ text "local") &&
    !(text "rcode://").isPrefixOf (readText (server.get "address"))

/-- `template`, the server that the lanes are copied from. -/
def dnsTemplate (base : Fields) : Option Fields :=
  let candidates := (readListOfMaps (base.get "servers")).filter (isNetworkDns toLowerCase)
  (candidates.find? fun server => tagOf server = text "dns-remote") <|>
    (candidates.find? fun server => tagOf server = readText (base.get "final")) <|>
    candidates.head?

/-- The server that a lane is made of, if it is not the fallback. -/
def laneSource (template existing : Option Fields) (tag : Text) : Option Fields :=
  if tag = text "dns-remote" ∧ existing.any (fun server => !isNetworkDns toLowerCase server) then
    template
  else existing <|> template

def laneTags : List Text := [text "dns-direct", text "dns-remote"]

def redirectDomainResolver (definition : Fields) : Fields :=
  match definition.get "domain_resolver" with
  | .map resolver =>
    if readText (Fields.get resolver "server") ∈ laneTags then
      setField definition "domain_resolver"
        (.map (setField resolver "server" (.string (text "dns-local"))))
    else definition
  | .string resolver =>
    if resolver ∈ laneTags then
      setField definition "domain_resolver" (.string (text "dns-local"))
    else definition
  | _ => definition

def redirectAddressResolver (definition : Fields) : Fields :=
  if readText (definition.get "address_resolver") ∈ laneTags then
    setField definition "address_resolver" (.string (text "dns-local"))
  else definition

/-- The direct lane does not point back to a lane. -/
def redirectResolvers (definition : Fields) : Fields :=
  redirectAddressResolver (redirectDomainResolver definition)

/-- The definition of a lane. -/
def laneDefinition (template existing : Option Fields) (tag detour : Text) (fallback : Fields) :
    Fields :=
  let source := (laneSource toLowerCase template existing tag).getD fallback
  let definition := setField (setField source "tag" (.string tag)) "detour" (.string detour)
  if tag = text "dns-direct" then redirectResolvers definition else definition

/-- The server of a tag is replaced, or there is one more. -/
def putServer (tag : Text) (definition : Fields) : List Fields → List Fields
  | [] => [definition]
  | server :: rest =>
    if tagOf server = tag then definition :: rest else server :: putServer tag definition rest

/-- `putLane`. -/
def putLane (template : Option Fields) (servers : List Fields) (tag detour : Text)
    (fallback : Fields) : List Fields :=
  let existing := servers.find? fun server => tagOf server = tag
  putServer tag (laneDefinition toLowerCase template existing tag detour fallback) servers

/-- `_ensureDnsServerDefinition`. -/
def ensureDnsServerDefinition (servers : List Fields) (tag : Text) (definition : Fields) :
    List Fields :=
  if servers.any fun server => tagOf server = tag then servers else servers ++ [definition]

def remoteFallback : Fields := [(text "type", .string (text "tcp")),
  (text "server", .string (text "1.1.1.1"))]

def directFallback : Fields := [(text "type", .string (text "udp")),
  (text "server", .string (text "1.1.1.1")), (text "connect_timeout", .string (text "5s")),
  (text "disable_tcp_keep_alive", .bool true)]

def localDefinition : Fields := [(text "type", .string (text "local")),
  (text "tag", .string (text "dns-local")), (text "prefer_go", .bool true)]

/-- The servers of the block. -/
def desktopServers (base : Fields) (finalOutboundTag directTag : Text) : List Fields :=
  let template := dnsTemplate toLowerCase base
  let remote := putLane toLowerCase template (readListOfMaps (base.get "servers"))
    (text "dns-remote") finalOutboundTag remoteFallback
  let direct := putLane toLowerCase template remote (text "dns-direct") directTag directFallback
  ensureDnsServerDefinition direct (text "dns-local") localDefinition

/-! ## The block -/

/-- `_findOutboundTag`. -/
def findOutboundTag (outbounds : List Fields) (type : Text) : Option Text :=
  (outbounds.find? fun outbound =>
    typeOf toLowerCase outbound = type && decide (tagOf outbound ≠ [])).map tagOf

/-- The rules of the block after those that are kept. -/
def desktopDnsRules (outbounds : List Fields) (routeMode : RouteMode) (processNames : List Text)
    (catalog : ClientRuleSetCatalog) : Option (List Fields) := do
  let serverDomains := ((outbounds.map fun outbound => readText (outbound.get "server")).filter
    fun domain => decide (domain ≠ [])).foldl addTag []
  let rules ← ensureDnsServerDomainRule [] serverDomains (text "dns-direct")
  let rules := ensureDnsIpPrivateRule rules (text "dns-direct")
  let rules :=
    if processNames = [] then rules
    else
      let rules := ensureWindowsSelectedProcessDnsRule rules processNames
        (if routeMode = .excludedApps then text "dns-direct" else text "dns-remote")
      if routeMode = .selectedApps then
        ensureWindowsSelectedServiceRules rules processNames "server" (text "dns-remote") 1
      else rules
  return if routeMode = .allExceptRu then
      ensureDnsRuleSetServerRule
        (ensureDnsDomainSuffixRule
          (ensureDnsDomainSuffixRule
            (ensureDnsDomainSuffixRule rules (text ".ru") (text "dns-direct"))
            (text ".xn--p1ai") (text "dns-direct"))
          (text ".su") (text "dns-direct"))
        catalog.domainRuleSetTags (text "dns-direct")
    else rules

/-- `_buildDesktopDnsBlock`. -/
def buildDesktopDnsBlock (baseDns : Document) (outbounds : List Fields) (finalOutboundTag : Text)
    (routeMode : RouteMode) (selectedApps : List Text) (catalog : ClientRuleSetCatalog) :
    Option Fields := do
  let processNames := selectedWindowsProcessNames toLowerCase .windows selectedApps
  let base := readMap baseDns
  let directTag := (findOutboundTag toLowerCase outbounds (text "direct")).getD (text "direct")
  let servers := desktopServers toLowerCase base finalOutboundTag directTag
  let preservedActions := (readListOfMaps (base.get "rules")).filter fun rule =>
    decide (readText (rule.get "server") = [])
  let rules ← desktopDnsRules outbounds routeMode processNames catalog
  let block := setField base "servers" (.list (servers.map .map))
  let block := setField block "rules" (.list ((preservedActions ++ rules).map .map))
  let block := setField block "final" (.string (text "dns-remote"))
  let block :=
    if routeMode = .selectedApps ∧ selectedWindowsServiceDomains processNames ≠ [] then
      setField block "reverse_mapping" (.bool true)
    else block
  return setField (setField block "disable_expire" (.bool true)) "independent_cache" (.bool true)

end Pokrov.AppShell.Bootstrap
