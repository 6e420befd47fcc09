import Pokrov.AppShell.Routing.RouteOverrides
import Pokrov.AppShell.TransportSelection

/-!
# What the user is told about a destination

The routing preferences and `explainPokrovRouteDecision`, which says which of them decides
about a destination.
-/

namespace Pokrov.AppShell

open Dart

inductive PokrovPurposeRoute
  | video
  | ai
  | social
  | games
  | ruDirect
deriving DecidableEq

namespace PokrovPurposeRoute

def values : List PokrovPurposeRoute := [video, ai, social, games, ruDirect]

def name : PokrovPurposeRoute → String
  | video => "video"
  | ai => "ai"
  | social => "social"
  | games => "games"
  | ruDirect => "ruDirect"

def title : PokrovPurposeRoute → String
  | video => "Видео"
  | ai => "AI-сервисы"
  | social => "Соцсети"
  | games => "Игровые сервисы"
  | ruDirect => "RU напрямую"

/-- `_purposeDomains`. -/
def domains : PokrovPurposeRoute → List String
  | video => ["youtube.com", "youtu.be", "googlevideo.com", "netflix.com", "vimeo.com"]
  | ai => ["openai.com", "chatgpt.com", "oaistatic.com", "oaiusercontent.com",
      "gemini.google.com", "notebooklm.google.com", "aistudio.google.com", "ai.google.dev",
      "generativelanguage.googleapis.com", "anthropic.com", "claude.ai", "perplexity.ai"]
  | social => ["instagram.com", "facebook.com", "x.com", "twitter.com", "discord.com"]
  | games => ["steampowered.com", "steamcommunity.com", "epicgames.com", "playstation.com",
      "xbox.com", "xboxlive.com", "xboxservices.com", "gamepass.com"]
  | ruDirect => ["ru", "xn--p1ai", "su", "gosuslugi.ru", "sberbank.ru", "tinkoff.ru", "ozon.ru",
      "wildberries.ru"]

end PokrovPurposeRoute

/-- What of the preferences decides about destinations. The sets are lists in their order. -/
structure PokrovRoutingPreferences where
  purposeRoutes : List PokrovPurposeRoute
  overrides : List PokrovRouteOverride
  allowLan : Bool
  lanSubnets : List Text

structure PokrovRouteDecision where
  /-- `none` is a safety block. -/
  action : Option PokrovRouteAction
  reason : String
  matchedValue : Text

namespace Reasons

def lanBlocked : String :=
  "Локальный адрес не входит в разрешённые подсети LAN. Перехваченный трафик блокируется."

def lanDirect : String :=
  "Разрешённая подсеть LAN идёт напрямую; VPN для этого адреса не используется."

def overrideVpn : String := "Твоё правило отправляет адрес через POKROV VPN."

def overrideDirect : String := "Твоё правило оставляет адрес напрямую."

def purpose (route : PokrovPurposeRoute) : String := "Сработал профиль «" ++ route.title ++ "»."

end Reasons

/-- The `switch` at the end: nothing was said about the destination. -/
def fallbackDecision : RouteMode → PokrovRouteDecision
  | .selectiveServices => ⟨some .direct, "Базовый маршрут — напрямую. Правила выбранных сервисов нужно смотреть в каталоге; этот пример их не рассчитывает.", text "selectiveServices"⟩
  | .fullTunnel => ⟨some .vpn, "Базовый режим отправляет всё устройство через POKROV VPN.",
      text "fullTunnel"⟩
  | .allExceptRu => ⟨some .vpn, "Специальное правило не найдено; действует умный режим.",
      text "allExceptRu"⟩
  | .selectedApps => ⟨some .vpn, "Решение зависит от выбранного приложения.", text "selectedApps"⟩
  | .excludedApps => ⟨some .vpn, "Прямое подключение задаётся списком исключений.",
      text "excludedApps"⟩

section

variable (toLowerCase : Text → Text) (net : InternetAddresses)

/-- `_enabledLanSubnets`. -/
def enabledLanSubnets (preferences : PokrovRoutingPreferences) : Try (List Text) :=
  if preferences.allowLan then
    let subnets := readLanSubnets net (.list (preferences.lanSubnets.map .string))
    if subnets = [] then .error .other else .ok subnets
  else .ok []

/-- `subnets.where((subnet) => _ipInSubnet(address, subnet)).firstOrNull`. -/
def firstSubnet (address : Text) : List Text → Try (Option Text)
  | [] => .ok none
  | subnet :: rest => do
      if ← ipInSubnet net address subnet then return some subnet else firstSubnet address rest

/-- `_routeOverrideMatches`. -/
def routeOverrideMatches (rule : PokrovRouteOverride) (destination : Text)
    (destinationType : PokrovRouteMatchType) : Try Bool :=
  if rule.matchType = .domain ∧ destinationType = .domain then
    .ok (domainMatches destination rule.value)
  else if rule.matchType = .ip ∧ destinationType = .ip then .ok (destination == rule.value)
  else if rule.matchType = .subnet ∧ destinationType = .ip then
    ipInSubnet net destination rule.value
  else .ok (destination == rule.value)

/-- The loop over the rules of the user. -/
def firstOverride (destination : Text) (destinationType : PokrovRouteMatchType)
    (fallbackMode : RouteMode) : List PokrovRouteOverride → Try (Option PokrovRouteOverride)
  | [] => .ok none
  | rule :: rest => do
      if fallbackMode = .fullTunnel ∧ rule.action = .direct then
        firstOverride destination destinationType fallbackMode rest
      else if ← routeOverrideMatches net rule destination destinationType then return some rule
      else firstOverride destination destinationType fallbackMode rest

/-- The loop over the purposes. -/
def firstPurpose (destination : Text) (fallbackMode : RouteMode)
    (purposes : List PokrovPurposeRoute) : Option PokrovPurposeRoute :=
  purposes.find? fun purpose =>
    !(fallbackMode = .fullTunnel && purpose = .ruDirect) &&
      purpose.domains.any fun suffix => domainMatches destination (text suffix)

def lanDecision (destination : Text) : Option Text → PokrovRouteDecision
  | none => ⟨none, Reasons.lanBlocked, destination⟩
  | some allowed => ⟨some .direct, Reasons.lanDirect, allowed⟩

def overrideDecision (rule : PokrovRouteOverride) : PokrovRouteDecision :=
  ⟨some rule.action, if rule.action = .vpn then Reasons.overrideVpn else Reasons.overrideDirect,
    rule.value⟩

def purposeDecision (purpose : PokrovPurposeRoute) : PokrovRouteDecision :=
  ⟨some (if purpose = .ruDirect then .direct else .vpn), Reasons.purpose purpose,
    text purpose.name⟩

/-- The decision for a destination that is no local address. -/
def remoteDecision (value : Text) (type : PokrovRouteMatchType)
    (preferences : PokrovRoutingPreferences) (fallbackMode : RouteMode) :
    Try PokrovRouteDecision := do
  match ← firstOverride net value type fallbackMode preferences.overrides with
  | some rule => return overrideDecision rule
  | none =>
    if type = .domain then
      match firstPurpose value fallbackMode preferences.purposeRoutes with
      | some purpose => return purposeDecision purpose
      | none => return fallbackDecision fallbackMode
    else return fallbackDecision fallbackMode

/-- `type == PokrovRouteMatchType.ip && _isLocalDestination(value)`. -/
def isLocalMatch (value : Text) (type : PokrovRouteMatchType) : Try Bool :=
  if type = .ip then isLocalDestination net value else .ok false

def explainPokrovRouteDecision (destination : Text) (preferences : PokrovRoutingPreferences)
    (fallbackMode : RouteMode) : Try PokrovRouteDecision :=
  match normalizeRouteMatch toLowerCase net destination with
  | none => .ok (fallbackDecision fallbackMode)
  | some (value, type) => do
      if ← isLocalMatch net value type then
        let subnets ← enabledLanSubnets net preferences
        let allowed ← firstSubnet net value subnets
        return lanDecision value allowed
      else remoteDecision net value type preferences fallbackMode

end

end Pokrov.AppShell
