import Pokrov.AppShell.Bootstrap.OutboundChains
import Pokrov.AppShell.TransportSelection

/-!
# Selected applications

The names of the processes of the selected applications on Windows, and the rules that are made
of them.
-/

namespace Pokrov.AppShell.Bootstrap

open Dart

/-! ## Process names -/

/-- `_trim`. -/
def trimTo (value : Text) (maxLength : Nat) : Text := (trim value).take maxLength

/-- What follows the last slash. -/
def lastComponent (path : Text) : Text := (path.reverse.takeWhile fun u => u ≠ unit '/').reverse

/-- `[a-z0-9_.-]`. -/
def isSafeUnit (u : UInt16) : Bool :=
  isLower u || isDigit u || [unit '_', unit '.', unit '-'].contains u

/-- `safeProcessName`. -/
def isSafeProcessName (name : Text) : Bool :=
  let stem := name.take (name.length - 4)
  decide (4 < name.length) && decide (name.drop (name.length - 4) = text ".exe") &&
    stem.all isSafeUnit

variable (toLowerCase : Text → Text)

/-- The name of the process of an item, if it is one that is safe. -/
def processNameOf (item : Text) : Option Text :=
  let path := toLowerCase ((trimTo item 96).map fun u => if u = unit '\\' then unit '/' else u)
  if path = [] then none
  else
    let component := lastComponent path
    let name := if (text ".exe").isSuffixOf component then component else component ++ text ".exe"
    if isSafeProcessName name then some name else none

/-- The loop of `_selectedWindowsProcessNames`, which ends with the name number 128. -/
def collectProcessNames (processNames : List Text) : List Text → List Text
  | [] => processNames
  | item :: rest =>
    match processNameOf toLowerCase item with
    | none => collectProcessNames processNames rest
    | some name =>
      if name ∈ processNames then collectProcessNames processNames rest
      else if 128 ≤ processNames.length + 1 then processNames ++ [name]
      else collectProcessNames (processNames ++ [name]) rest

/-- `_selectedWindowsProcessNames`. -/
def selectedWindowsProcessNames (hostPlatform : HostPlatform) (selectedApps : List Text) :
    List Text :=
  if hostPlatform ≠ .windows then [] else collectProcessNames toLowerCase [] selectedApps

/-! ## Rules -/

/-- `_windowsDiscordUpdaterPath`. -/
def windowsDiscordUpdaterPath : Text :=
  text "(?i)[\\\\/]Discord[\\\\/](?:app-[^\\\\/]+[\\\\/])?Update\\.exe$"

/-- `_windowsSelectedServiceDomains`. -/
def windowsSelectedServiceDomains : List (String × List String) :=
  [("discord.exe", ["discord.com", "discord.gg", "discordapp.com", "discordapp.net"]),
   ("telegram.exe", ["telegram.org", "t.me", "telegram.me", "telegram.dog"]),
   ("youtube.exe", ["youtube.com", "youtu.be", "youtube-nocookie.com", "googlevideo.com",
      "ytimg.com", "youtubei.googleapis.com"])]

/-- `_windowsSelectedServiceDomains[processName] ?? const []`. -/
def serviceDomainsOf (processName : Text) : List Text :=
  ((windowsSelectedServiceDomains.find? fun entry => text entry.1 = processName).elim []
    (·.2)).map text

/-- `_selectedWindowsServiceDomains`. -/
def selectedWindowsServiceDomains (processNames : List Text) : List Text :=
  (processNames.flatMap serviceDomainsOf).foldl addTag []

/-- `rules.insert(min(index, rules.length), rule)`. -/
def insertRule (rules : List Fields) (index : Nat) (rule : Fields) : List Fields :=
  rules.take index ++ rule :: rules.drop index

/-- `_ensureWindowsSelectedProcessDnsRule`. -/
def ensureWindowsSelectedProcessDnsRule (rules : List Fields) (processNames : List Text)
    (serverTag : Text) : List Fields :=
  if rules.any fun rule => readText (rule.get "server") = serverTag &&
      readTagList (rule.get "process_name") = processNames then rules
  else insertRule rules 0
    [(text "process_name", tagDocument processNames), (text "server", .string serverTag)]

/-- The rule for the updater of one application. -/
def ensureUpdaterRule (rules : List Fields) (targetKey : String) (targetTag : Text)
    (index : Nat) : List Fields :=
  if rules.any fun rule => readText (rule.get targetKey) = targetTag &&
      readTagList (rule.get "process_path_regex") = [windowsDiscordUpdaterPath] then rules
  else insertRule rules index
    [(text "process_path_regex", tagDocument [windowsDiscordUpdaterPath]),
     (text targetKey, .string targetTag)]

/-- `_ensureWindowsSelectedServiceRules`. -/
def ensureWindowsSelectedServiceRules (rules : List Fields) (processNames : List Text)
    (targetKey : String) (targetTag : Text) (insertAt : Nat) : List Fields :=
  let updating := decide (text "discord.exe" ∈ processNames)
  let updated := if updating then ensureUpdaterRule rules targetKey targetTag insertAt else rules
  let index := if updating then insertAt + 1 else insertAt
  let domains := selectedWindowsServiceDomains processNames
  if domains = [] then updated
  else
    let suffixes := domains.map fun domain => unit '.' :: domain
    if updated.any fun rule => readText (rule.get targetKey) = targetTag &&
        readTagList (rule.get "domain") = domains &&
        readTagList (rule.get "domain_suffix") = suffixes then updated
    else insertRule updated index
      [(text "domain", tagDocument domains), (text "domain_suffix", tagDocument suffixes),
       (text targetKey, .string targetTag)]

end Pokrov.AppShell.Bootstrap
