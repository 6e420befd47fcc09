import Pokrov.AppShell.ManifestDenial

/-!
# The floor does not go back

Along every run the record that is stored is followed by records that succeed it,
as long as what `_observe` accepts ends before the year 10000. A later window is
written all the same, in a text that is never read again.
-/

namespace Pokrov.AppShell

open Dart Effects

/-- In every run whose windows end before the year 10000 what is stored is followed
by records that are accepted, with no older floor and no earlier times, and an
authorization to roll back keeps the kills of the floor. -/
theorem floor_monotone {audience : Text} {allowed : Event Storage → Prop}
    {durable : Option StoredText} {p q : Pool Storage StoreState StoreTask (Try StoreAnswer)}
    (honest : ∀ e, allowed e → Honest e) (timely : ∀ e, allowed e → InYears e)
    (hp : (manifestStore audience allowed).Run (StoreState.new durable) p)
    (hq : (manifestStore audience allowed).Run p q) :
    Follows audience p.shared.durable q.shared.durable ∧
      ∀ generation before value, .committing generation before value ∈ q.shared.history →
        KillsKept audience before value := by
  have hvalid : (storeOutline audience allowed).Valid := storeOutline_valid honest
  have hgood := (Outline.Good.run hvalid (storeOutline_good durable) hp).1
  obtain ⟨hgood', hrely⟩ := Outline.Good.run hvalid hgood hq
  constructor
  · exact (hrely q.threads.length (Nat.le_refl _)).follows timely
  · exact fun generation before value => hgood'.1.kills timely generation before value

/-! ## A window beyond the year 9999 -/

/-- The windows of `_observe` end before the year 10000. -/
def inYears (e : Event Storage) : Bool :=
  match e with
  | ⟨.readBootClock (some (value, deadline)), .ok sample⟩ =>
    match anchorOf value with
    | .ok anchor =>
      match windowOf anchor (some value) deadline sample with
      | .ok w => decide (w.latest.year ≤ 9999)
      | .error _ => true
    | .error _ => true
  | _ => true

theorem inYears_of {e : Event Storage} (h : inYears e = true) : InYears e := by
  obtain ⟨c, r⟩ := e
  cases c with
  | readBootClock observing =>
    cases observing with
    | none => trivial
    | some observing =>
      obtain ⟨value, deadline⟩ := observing
      cases r with
      | error e => trivial
      | ok sample =>
        intro anchor w hanchor hwindow
        simp only [inYears, hanchor, hwindow, decide_eq_true_eq] at h
        exact h
  | _ => trivial

/-! ### A rollback that is admitted -/

def labText (name value : String) : Text × Document := (text name, .string (text value))

/-- What both documents of the laboratory begin with. -/
def labFields (schema : String) (revision : Int) : Fields :=
  [labText "schema_version" schema, labText "audience" "lab", labText "signer_key_id" "k",
    (text "epoch", .int 1), (text "revision", .int revision),
    labText "issued_at" "2026-01-01T00:00:00Z", labText "not_before" "2026-01-01T00:00:00Z",
    labText "expires_at" "2026-02-01T00:00:00Z", labText "minimum_client_release" "1.0.0",
    labText "minimum_core_release" "1.0.0", (text "kills", (Kills.mk [] [] []).toDocument)]

def labSigned (payload : Fields) : Document :=
  .map [labText "algorithm" "Ed25519", labText "key_id" "k",
    (text "payload_sha256", .string (List.replicate 64 (unit '0'))), (text "payload", .map payload),
    (text "signature_b64", .string (List.replicate 86 (unit 'A')))]

def labRef (name : String) : Text := text name ++ unit '_' :: List.replicate 16 (unit '0')

def labRefs (name : String) : Document := refsDocument [labRef name]

def labManifest : Document :=
  labSigned (labFields "pokrov-transport-manifest-v1" 1 ++
    [(text "capability_refs", labRefs "capability"),
      (text "capability_bindings", .list [.map [
        (text "capability_ref", .string (labRef "capability")),
        (text "core_capability_revision", .string (labRef "revision")),
        (text "required_features", .list [.string (text "singbox_vless_v1")]),
        (text "artifacts", .list [.map [(text "platform", .string (text "linux")),
          (text "artifact_sha256", .string (List.replicate 64 (unit '0')))]]),
        (text "profile_refs", labRefs "profile")]]),
      (text "profile_refs", labRefs "profile"), (text "bootstrap_set_refs", labRefs "bootstrap"),
      (text "probe_set_refs", labRefs "probe"),
      (text "budget", .map ([("total_deadline_ms", 1), ("max_attempts", 1), ("max_endpoints", 1),
          ("max_concurrency", 1), ("max_diagnostic_bytes", 0), ("cooldown_ms", 0),
          ("hints_ttl_ms", 1), ("max_repairs", 0)].map (fun (name, value) =>
            (text name, Document.int value)) ++
        [(text "policy_ref", .string (labRef "policy")),
          (text "stage_caps_ms", .map (["profile", "transport", "dns", "payload", "egress"].map
            fun name => (text name, .int 1)))]))])

def labRollback : Document :=
  labSigned (labFields "pokrov-transport-rollback-v1" 2 ++
    [(text "target_epoch", .int 1), (text "target_revision", .int 1),
      (text "target_payload_sha256", .string (List.replicate 64 (unit '0')))])

def labRequest : AcceptRequest where
  manifest := .document labManifest
  rollback := some (.document labRollback)
  expectedGeneration := 0
  enrollment := none
  onlineAnchor := none
  deadline := none
  checked := false

/-- Its floor kills the profile of the manifest. -/
def killedRecord : ManifestRecord where
  __ := someRecord
  floor := { someFloor with kills := ⟨[labRef "profile"], [], []⟩ }.toDocument (text "lab")

theorem honest_and_timely {e : Event Storage} (h : (honestly e && inYears e) = true) :
    Honest e ∧ InYears e := by
  rw [Bool.and_eq_true] at h
  exact ⟨honest_of_honestly h.1, inYears_of h.2⟩

/-- An authorization to roll back that kills nothing itself is accepted. -/
def admittedRun : Pool Storage StoreState StoreTask (Try StoreAnswer) :=
  (storePlayer (text "lab") (fun e => honestly e && inYears e) fun _ => honest_and_timely).play
    (StoreState.new (some (.of killedRecord.toDocument)))
    [.start (.accept someStore labRequest), .go 0 60 { clock := .ok (moment 86400000) }]

/-- What is stored follows what was stored, and the kills of its floor are kept. -/
theorem admittedRun_follows :
    Follows (text "lab") (some (.of killedRecord.toDocument)) admittedRun.shared.durable ∧
      ∀ generation before value,
        .committing generation before value ∈ admittedRun.shared.history →
          KillsKept (text "lab") before value :=
  floor_monotone (fun _ h => h.1) (fun _ h => h.2)
    (.refl : (manifestStore (text "lab") fun e => Honest e ∧ InYears e).Run
      (StoreState.new (some (.of killedRecord.toDocument))) _)
    (Player.run_play _ _ _)

/-! ### A moment beyond -/

/-- A read at a moment of the boot. -/
def readRun {allowed : Event Storage → Prop} (check : Event Storage → Bool)
    (hcheck : ∀ e, check e = true → allowed e) (sample : RuntimeBootClockSnapshot) :
    Pool Storage StoreState StoreTask (Try StoreAnswer) :=
  (storePlayer (text "lab") check hcheck).play (StoreState.new (some (.of someRecord.toDocument)))
    [.start (.read someStore none), .go 0 40 { clock := .ok sample }]

/-- `_load` has a record of what is stored. -/
def loads (audience : Text) (raw : Option StoredText) : Bool :=
  match loadRecord audience raw with
  | .ok (some _) => true
  | _ => false

theorem loads_of_follows {audience : Text} {a b : Option StoredText} (h : Follows audience a b)
    (ha : loads audience a = true) : loads audience b = true := by
  rcases h with rfl | ⟨value, hvalue, -⟩
  · exact ha
  · unfold loads
    rw [hvalue]

/-- An uptime of 8239 years, which the clock may report: the read stores a record
that no operation accepts again. -/
theorem read_beyond :
    ∃ p q, (manifestStore (text "lab") Honest).Run
        (StoreState.new (some (.of someRecord.toDocument))) p ∧
      (manifestStore (text "lab") Honest).Run p q ∧
      ¬ Follows (text "lab") p.shared.durable q.shared.durable := by
  refine ⟨_, readRun honestly (fun _ => honest_of_honestly) (moment 260000000000000), .refl,
    Player.run_play _ _ _, fun h => ?_⟩
  obtain ⟨hbefore, hafter⟩ : loads (text "lab") (some (.of someRecord.toDocument)) = true ∧
      loads (text "lab") (readRun honestly (fun _ => honest_of_honestly)
        (moment 260000000000000)).shared.durable = false := by
    decide +kernel
  rw [loads_of_follows h hbefore] at hafter
  cases hafter

end Pokrov.AppShell
