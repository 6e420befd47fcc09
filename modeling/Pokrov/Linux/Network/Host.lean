import Pokrov.Linux.Network.Durability

/-!
# The host, and a runner that tells the truth about it

`Host` is the part of the machine recovery looks at: the nftables tables, the
policy rules and routes as `ip` prints them, and the bus names and checkpoints
of NetworkManager. `Truthful` says which outputs describe a given host; the
documents are described by their JSON members, not by how the daemon reads
them. The lemmas say that the daemon reads them right.
-/

namespace Pokrov.Linux.Network

open Effects Contract

structure Host where
  /-- Comment of the table `inet pokrov`, if there is one. -/
  block : Option String
  /-- The other tables. -/
  tables : List TableEntry
  foreign : ∀ entry ∈ tables, ¬ (entry.family = "inet" ∧ entry.name = "pokrov")
  objects : Family → RouteKind → List IpObject
  /-- Unique bus names that have an owner. -/
  names : List String
  /-- Object paths of the NetworkManager checkpoints. -/
  checkpoints : List String
  paths : ∀ path ∈ checkpoints, networkManagerCheckpointPath path.toList = true

def blockEntry (comment : String) : TableEntry := ⟨"inet", "pokrov", comment⟩

def Host.entries (h : Host) : List TableEntry :=
  (h.block.map blockEntry).toList ++ h.tables

/-! ## Documents -/

/-- The values of an object's members that go by this name. -/
def members (name : String) (fields : List (List Char × Json.Raw × Json.Value)) :
    List Json.Value :=
  (fields.filter fun field => sameField name field.1).map fun field => field.2.2

/-- An object that describes a table; its comment only in a full listing, and
only if there is one. -/
def DescribesTable (withComment : Bool) (entry : TableEntry) (v : Json.Value) : Prop :=
  ∃ fields, v = .object fields ∧
    members "family" fields = [.string entry.family.toList] ∧
    members "name" fields = [.string entry.name.toList] ∧
    (withComment = true → members "comment" fields =
      if entry.comment = "" then [] else [.string entry.comment.toList])

/-- An item of an nft listing is a table, or something else. -/
inductive DescribesItem (withComment : Bool) : Option TableEntry → Json.Value → Prop
  | table {entry : TableEntry} {fields : List (List Char × Json.Raw × Json.Value)}
      {v : Json.Value} (hmember : members "table" fields = [v])
      (hv : DescribesTable withComment entry v) :
      DescribesItem withComment (some entry) (.object fields)
  | other {fields : List (List Char × Json.Raw × Json.Value)}
      (hmember : members "table" fields = []) : DescribesItem withComment none (.object fields)

/-- A listing with these tables in it. -/
def ListsTables (withComment : Bool) (tables : List TableEntry) (text : String) : Prop :=
  ∃ fields items entries, Json.read maxNestingDepth text.toList = some (.object fields) ∧
    members "nftables" fields = [.array items] ∧
    List.Forall₂ (fun entry item => DescribesItem withComment entry item.2) entries items ∧
    (∀ entry, some entry ∈ entries ↔ entry ∈ tables)

/-- A listing with exactly these rules or routes. -/
def ListsObjects (objects : List IpObject) (text : String) : Prop :=
  ∃ items, Json.read maxNestingDepth text.toList = some (.array items) ∧
    List.Forall₂ (fun object item => ∃ fields, item.2 = Json.Value.object fields ∧
      object = fields.map fun field => (String.ofList field.1, field.2.1)) objects items

/-- The property `Checkpoints` as `busctl` prints it. -/
def ListsCheckpoints (checkpoints : List String) (text : String) : Prop :=
  ∃ count, GoText.atoi count = some (checkpoints.length : Int) ∧
    GoText.fields text.toList = ['a', 'o'] :: count :: checkpoints.map GoText.quotePlain

/-! ## Reading them -/

theorem foldChar_distinct {key : List Char} {a b : String} (hab : a ≠ b)
    (ha : sameField a key = true) : sameField b key = false := by
  unfold sameField at *
  rw [decide_eq_true_eq] at ha
  rw [decide_eq_false_iff_not, ha]
  exact fun h => hab (String.toList_inj.mp h)

theorem foldlM_members {σ : Type} {name : String} {f : σ → Json.Value → Option σ}
    (fields : List (List Char × Json.Raw × Json.Value)) (s : σ) :
    fields.foldlM (fun s field => if sameField name field.1 then f s field.2.2 else some s) s =
      (members name fields).foldlM f s := by
  induction fields generalizing s with
  | nil => rfl
  | cons field rest ih =>
    by_cases h : sameField name field.1 = true
    · simp only [List.foldlM_cons, members, List.filter_cons, h, if_true, List.map_cons]
      cases f s field.2.2 with
      | none => rfl
      | some s' => exact ih s'
    · simp only [List.foldlM_cons, members, List.filter_cons, h]
      exact ih s

theorem members_cons (name : String) (field : List Char × Json.Raw × Json.Value)
    (rest : List (List Char × Json.Raw × Json.Value)) :
    members name (field :: rest) =
      if sameField name field.1 then field.2.2 :: members name rest else members name rest := by
  unfold members
  rw [List.filter_cons]
  split <;> rfl

/-- The three strings of a table are read independently of each other. -/
theorem foldlM_decodeTableField {withComment : Bool} {family name comment : String} :
    ∀ (fields : List (List Char × Json.Raw × Json.Value)) (entry : TableEntry),
      (members "family" fields).foldlM decodeString entry.family = some family →
      (members "name" fields).foldlM decodeString entry.name = some name →
      (if withComment then (members "comment" fields).foldlM decodeString entry.comment
        else some entry.comment) = some comment →
      fields.foldlM (decodeTableField withComment) entry = some ⟨family, name, comment⟩
  | [], entry, hf, hn, hc => by
      simp only [members, List.filter_nil, List.map_nil, List.foldlM_nil, Option.pure_def,
        ite_self, Option.some.injEq] at hf hn hc
      subst hf hn hc
      rfl
  | field :: rest, entry, hf, hn, hc => by
      rw [List.foldlM_cons]
      rw [members_cons] at hf hn hc
      unfold decodeTableField
      by_cases h1 : sameField "family" field.1 = true
      · rw [if_pos h1] at hf ⊢
        have hn' : sameField "name" field.1 = false := foldChar_distinct (by decide) h1
        have hc' : sameField "comment" field.1 = false := foldChar_distinct (by decide) h1
        simp only [hn', hc', Bool.false_eq_true, if_false] at hn hc
        rw [List.foldlM_cons] at hf
        cases hv : decodeString entry.family field.2.2 with
        | none => rw [hv] at hf; cases hf
        | some v =>
          rw [hv] at hf
          exact foldlM_decodeTableField rest { entry with family := v } hf hn hc
      rw [if_neg h1] at hf ⊢
      by_cases h2 : sameField "name" field.1 = true
      · rw [if_pos h2] at hn ⊢
        have hc' : sameField "comment" field.1 = false := foldChar_distinct (by decide) h2
        simp only [hc', Bool.false_eq_true, if_false] at hc
        rw [List.foldlM_cons] at hn
        cases hv : decodeString entry.name field.2.2 with
        | none => rw [hv] at hn; cases hn
        | some v =>
          rw [hv] at hn
          exact foldlM_decodeTableField rest { entry with name := v } hf hn hc
      rw [if_neg h2] at hn ⊢
      cases withComment with
      | false => exact foldlM_decodeTableField rest entry hf hn hc
      | true =>
        by_cases h3 : sameField "comment" field.1 = true
        · rw [if_pos rfl, if_pos h3, List.foldlM_cons] at hc
          rw [if_pos (by simpa using h3)]
          cases hv : decodeString entry.comment field.2.2 with
          | none => rw [hv] at hc; cases hc
          | some v =>
            rw [hv] at hc
            exact foldlM_decodeTableField rest { entry with comment := v } hf hn hc
        · rw [if_neg h3] at hc
          rw [if_neg (by simpa using h3)]
          exact foldlM_decodeTableField rest entry hf hn hc

/-- What the daemon keeps of a table: without the comment in a short listing. -/
def seen (withComment : Bool) (entry : TableEntry) : TableEntry :=
  if withComment then entry else { entry with comment := "" }

theorem decodeTable_describes {withComment : Bool} {entry : TableEntry} {v : Json.Value}
    (h : DescribesTable withComment entry v) :
    decodeTable withComment none v = some (some (seen withComment entry)) := by
  obtain ⟨fields, rfl, hf, hn, hc⟩ := h
  have hread : fields.foldlM (decodeTableField withComment) {} =
      some ⟨entry.family, entry.name, (seen withComment entry).comment⟩ := by
    refine foldlM_decodeTableField fields {} (by rw [hf]; simp [decodeString])
      (by rw [hn]; simp [decodeString]) ?_
    cases withComment with
    | false => rfl
    | true =>
      rw [if_pos rfl, hc rfl]
      by_cases hcomment : entry.comment = "" <;> simp [hcomment, seen, decodeString]
  simp only [decodeTable, Option.getD_none, hread]
  cases withComment <;> rfl

theorem decodeEntry_describes {withComment : Bool} {entry : Option TableEntry}
    {v : Json.Value} (h : DescribesItem withComment entry v) :
    decodeEntry withComment v = some (entry.map (seen withComment)) := by
  cases h with
  | table hmember hv =>
    simp only [decodeEntry]
    rw [foldlM_members, hmember]
    simp [decodeTable_describes hv]
  | other hmember =>
    simp only [decodeEntry]
    rw [foldlM_members, hmember]
    rfl

theorem mapM_of_forall₂ {α β γ : Type} {R : β → α → Prop} {f : α → Option γ} {g : β → γ}
    (hf : ∀ b a, R b a → f a = some (g b)) {bs : List β} {as : List α}
    (h : List.Forall₂ R bs as) : as.mapM f = some (bs.map g) := by
  induction h with
  | nil => rfl
  | cons hab _ ih => simp [List.mapM_cons, hf _ _ hab, ih]

/-- A listing is read as the tables it shows. -/
theorem decodeListing_lists {withComment : Bool} {tables : List TableEntry} {text : String}
    (h : ListsTables withComment tables text) :
    ∃ entries, decodeListing withComment text = some (some entries) ∧
      ∀ entry, some entry ∈ entries ↔ ∃ table ∈ tables, entry = seen withComment table := by
  obtain ⟨fields, items, shown, hread, hmember, hitems, htables⟩ := h
  refine ⟨shown.map (Option.map (seen withComment)), ?_, ?_⟩
  · have hm : items.mapM (fun item => decodeEntry withComment item.2) =
        some (shown.map (Option.map (seen withComment))) :=
      mapM_of_forall₂ (fun _ _ hd => decodeEntry_describes hd) hitems
    simp only [decodeListing, hread]
    rw [foldlM_members (f := fun _ v => decodeEntries withComment v), hmember]
    simp [decodeEntries, hm]
  · intro entry
    simp only [List.mem_map, Option.map_eq_some_iff]
    constructor
    · rintro ⟨_, hmem, table, rfl, rfl⟩
      exact ⟨table, (htables table).mp hmem, rfl⟩
    · rintro ⟨table, hmem, rfl⟩
      exact ⟨some table, (htables table).mpr hmem, table, rfl, rfl⟩

/-- `tablePresent` on a truthful listing. -/
theorem containsPokrovTable_lists {h : Host} {text : String}
    (hl : ListsTables false h.entries text) :
    containsPokrovTable text = .ok h.block.isSome := by
  obtain ⟨entries, hread, hmem⟩ := decodeListing_lists hl
  have hany : entries.any isPokrovTable = h.block.isSome := by
    rw [Bool.eq_iff_iff, List.any_eq_true]
    constructor
    · rintro ⟨entry, hin, hp⟩
      cases entry with
      | none => cases hp
      | some entry =>
        obtain ⟨table, htable, rfl⟩ := (hmem entry).mp hin
        rcases List.mem_append.mp htable with hblock | hother
        · rw [Option.mem_toList, Option.map_eq_some_iff] at hblock
          obtain ⟨c, hc, -⟩ := hblock
          rw [hc]; rfl
        · refine absurd ?_ (h.foreign table hother)
          change (decide (table.family = "inet") && decide (table.name = "pokrov")) = true at hp
          simpa using hp
    · intro hsome
      obtain ⟨c, hc⟩ := Option.isSome_iff_exists.mp hsome
      refine ⟨some (seen false (blockEntry c)), (hmem _).mpr ⟨blockEntry c, ?_, rfl⟩, rfl⟩
      simp [Host.entries, hc]
  simp only [containsPokrovTable, hread, hany]

/-- `verifyOwner` on a truthful listing of the table. -/
theorem ownedTable_lists {comment text : String} (owner : String)
    (hl : ListsTables true [blockEntry comment] text) :
    ∃ entries, decodeListing true text = some (some entries) ∧
      (entries.any (ownedTable owner) = true ↔
        comment = ownerComment owner ∧ ownerTokenPattern owner = true) := by
  obtain ⟨entries, hread, hmem⟩ := decodeListing_lists hl
  refine ⟨entries, hread, ?_⟩
  rw [List.any_eq_true]
  constructor
  · rintro ⟨entry, hin, hp⟩
    cases entry with
    | none => cases hp
    | some entry =>
      obtain ⟨table, htable, rfl⟩ := (hmem entry).mp hin
      rw [List.mem_singleton] at htable
      subst htable
      change ownedTable owner (some ⟨"inet", "pokrov", comment⟩) = true at hp
      simpa [ownedTable] using hp
  · rintro ⟨rfl, hpattern⟩
    refine ⟨some (blockEntry (ownerComment owner)), (hmem _).mpr ⟨_, List.mem_singleton.mpr rfl,
      rfl⟩, ?_⟩
    simp [ownedTable, blockEntry, hpattern]

theorem decodeIpObjects_lists {objects : List IpObject} {text : String}
    (hl : ListsObjects objects text) : decodeIpObjects text = some objects := by
  obtain ⟨items, hread, hitems⟩ := hl
  have hm : items.mapM (fun item => decodeIpObject item.2) = some (objects.map id) := by
    refine mapM_of_forall₂ ?_ hitems
    rintro object item ⟨fields, hv, rfl⟩
    rw [hv]
    rfl
  simp only [decodeIpObjects, hread, hm, List.map_id]

theorem checkpointPaths_quoted {paths : List String}
    (h : ∀ path ∈ paths, networkManagerCheckpointPath path.toList = true) :
    checkpointPaths (paths.map GoText.quotePlain) = some (paths.map String.toList) := by
  induction paths with
  | nil => rfl
  | cons path rest ih =>
    have hpath := h path List.mem_cons_self
    have hplain : path.toList.all (· ≠ '"') = true := by
      refine GoText.matchesAfter_all hpath (by decide) fun c hc => ?_
      rw [decide_eq_true_eq]
      rintro rfl
      exact absurd hc (by decide)
    rw [List.map_cons, List.map_cons, checkpointPaths]
    simp only [GoText.trimQuotes_quotePlain hplain, hpath, if_true]
    rw [ih fun p hp => h p (List.mem_cons_of_mem _ hp)]
    rfl

/-! ## Commands on the host -/

/-- The rules and routes `Apply` makes, as `ip -N -j` prints them. -/
def printed (plan : Plan) (family : Family) : RouteKind → IpObject
  | .rule => [("priority", "20555".toList), ("not", "null".toList), ("src", "\"all\"".toList),
      ("fwmark", ("\"0x" ++ GoText.hex plan.routingMark.toNat ++ "\"").toList),
      ("table", "\"20555\"".toList), ("protocol", "\"243\"".toList)]
  | .route =>
    (match family with
      | .v4 => [("dst", "\"default\"".toList),
          ("dev", GoText.quotePlain plan.tunnelInterface)]
      | .v6 =>
        if plan.ipv6 then
          [("dst", "\"default\"".toList), ("dev", GoText.quotePlain plan.tunnelInterface)]
        else
          [("type", "\"7\"".toList), ("dst", "\"default\"".toList),
            ("dev", "\"lo\"".toList)]) ++
    [("table", "\"20555\"".toList), ("protocol", "\"243\"".toList)] ++
    (match family with
      | .v4 => [("scope", "\"253\"".toList), ("metric", "42700".toList),
          ("flags", "[]".toList)]
      | .v6 => [("metric", "42700".toList), ("flags", "[]".toList),
          ("pref", "\"medium\"".toList)])

def nameHasOwner (owner : String) : List String :=
  ["--system", "--no-pager", "call", "org.freedesktop.DBus", "/org/freedesktop/DBus",
    "org.freedesktop.DBus", "NameHasOwner", "s", owner]

def getCheckpoints (owner : String) : List String :=
  ["--system", "--no-pager", "get-property", owner, "/org/freedesktop/NetworkManager",
    "org.freedesktop.NetworkManager", "Checkpoints"]

def checkpointDestroy (owner path : String) : List String :=
  NetworkManagerParticipant.managerCall owner "CheckpointDestroy" ["o", path]

/-- Where a deletion of a rule or route of this plan strikes. -/
def deletes (plan : Plan) (arguments : List String) : Option (Family × RouteKind) :=
  RouteParticipant.rollbackTargets.find? fun target =>
    kindArguments target.2 target.1 "del" plan = arguments

/-- What a command does to the host when it takes effect. -/
def Host.effect (plan : Plan) (h : Host) (name : String) (arguments : List String)
    (input : Option String) : Host :=
  if name = "nft" then
    if arguments = ["--file", "-"] ∧ input = some nftDelete then { h with block := none } else h
  else if name = "ip" then
    match deletes plan arguments with
    | none => h
    | some target =>
      { h with
        objects := fun family kind =>
          if (family, kind) = target then
            (h.objects family kind).erase (printed plan family kind)
          else h.objects family kind }
  else if name = "busctl" then
    { h with
      checkpoints := h.checkpoints.filter fun path =>
        arguments ≠ checkpointDestroy (arguments[3]?.getD "") path
      paths := fun path hp => h.paths path ((List.mem_filter.mp hp).1) }
  else h

/-- The output of a command that succeeded describes the host it ran on. -/
structure Truthful (plan : Plan) (h : Host) (name : String) (arguments : List String)
    (input : Option String) (text : String) : Prop where
  tables : name = "nft" → arguments = ["--json", "list", "tables"] →
    ListsTables false h.entries text
  table : name = "nft" → arguments = ["--json", "list", "table", "inet", "pokrov"] →
    ∃ comment, h.block = some comment ∧ ListsTables true [blockEntry comment] text
  deleted : name = "nft" → input = some nftDelete → h.block.isSome = true
  objects : ∀ family kind, name = "ip" → arguments = listArguments family kind →
    ListsObjects (h.objects family kind) text
  removed : ∀ family kind, name = "ip" → deletes plan arguments = some (family, kind) →
    printed plan family kind ∈ h.objects family kind
  named : ∀ owner, name = "busctl" → arguments = nameHasOwner owner →
    GoText.trimSpace text.toList =
      if owner ∈ h.names then "b true".toList else "b false".toList
  listed : ∀ owner, name = "busctl" → arguments = getCheckpoints owner →
    owner ∈ h.names ∧ ListsCheckpoints h.checkpoints text
  destroyed : ∀ owner path, name = "busctl" → arguments = checkpointDestroy owner path →
    owner ∈ h.names ∧ path ∈ h.checkpoints

/-- A failure that is the truth about the host: listings do not fail, and the
other commands fail because what they name is not there. -/
structure Refused (plan : Plan) (h : Host) (name : String) (arguments : List String)
    (input : Option String) : Prop where
  tables : ¬ (name = "nft" ∧ arguments = ["--json", "list", "tables"])
  table : name = "nft" → arguments = ["--json", "list", "table", "inet", "pokrov"] →
    h.block = none
  deleted : name = "nft" → input = some nftDelete → h.block = none
  objects : ∀ family kind, ¬ (name = "ip" ∧ arguments = listArguments family kind)
  removed : ∀ family kind, name = "ip" → deletes plan arguments = some (family, kind) →
    printed plan family kind ∉ h.objects family kind
  named : ∀ owner, ¬ (name = "busctl" ∧ arguments = nameHasOwner owner)
  listed : ∀ owner, name = "busctl" → arguments = getCheckpoints owner → owner ∉ h.names
  destroyed : ∀ owner path, name = "busctl" → arguments = checkpointDestroy owner path →
    ¬ (owner ∈ h.names ∧ path ∈ h.checkpoints)

end Pokrov.Linux.Network
