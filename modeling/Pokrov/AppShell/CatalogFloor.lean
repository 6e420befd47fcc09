import Pokrov.AppShell.CatalogSpecs

/-!
# The floors of the catalog and the denial

Along every run what is stored is followed by records with no lower floors, a
catalog that is returned is that of the record, and a denial fences what came
before it. An admission that fails leaves the floors alone, unless its write failed
or a denial came while it was written.
-/

namespace Pokrov.AppShell

open Dart Effects

/-- What was stored after a part of the history. -/
def storedAfter (first : Option StoredText) (history : List CatalogNote) : Option StoredText :=
  (CatalogView.run ⟨first, 0, false, false⟩ history).durable

/-- A catalog that was returned: that of the record at a time that is no earlier than
any that was recorded before. -/
structure ReturnedOver (first : Option StoredText) (before : List CatalogNote)
    (catalog : VerifiedRoutingCatalog) (now : DateTime) (raw : Option StoredText) : Prop where
  stored : raw = storedAfter first before
  returnable : Returnable catalog now raw
  latest : ∀ (earlier later : List CatalogNote) value time, before = earlier ++ later →
    loadCatalog (storedAfter first earlier) = .ok (some value) → value.observedAt = some time →
      time.micros ≤ now.micros

/-- What has come after a denial: admissions of its generation or a later one alone
end the suspension, before them nothing is returned, and an envelope that is erased
stays so until such an admission goes on to write. -/
structure CatalogFenced (s : CatalogState) (generation : Nat) (after : List CatalogNote) : Prop where
  resumed : ∀ thread g, .resumed thread g ∈ after → generation ≤ g
  quiet : (∀ thread g, .resumed thread g ∈ after → g < generation) →
    s.suspended = true ∧ ∀ thread catalog now raw, .returned thread catalog now raw ∉ after
  erased : ∀ (between : List CatalogNote) thread g late, after = between ++ .erased thread g :: late →
    (∀ thread g, .committing thread g ∈ late → g < generation) → CatalogErased s.durable

section Floor

variable {first : Option StoredText} {s : CatalogState}

/-- By the floors that follow one another up to the note. -/
theorem returnedOver_of_inv (hinv : CatalogInv first s) {before after : List CatalogNote}
    {thread : Nat} {catalog : VerifiedRoutingCatalog} {now : DateTime} {raw : Option StoredText}
    (hhistory : s.history = before ++ .returned thread catalog now raw :: after) :
    ReturnedOver first before catalog now raw := by
  have hfitting := hinv.fitting
  rw [hhistory, CatalogView.fitting_append] at hfitting
  rcases hfitting with ⟨hbefore, ⟨hraw, -, hreturnable⟩, -⟩
  refine ⟨hraw, hreturnable, ?_⟩
  rintro earlier later value time rfl hload htime
  rw [CatalogView.fitting_append] at hbefore
  have hfollows := hbefore.2.follows
  rw [← CatalogView.run_append_list, ← hraw] at hfollows
  rcases hreturnable with ⟨current, hcurrent, hnow, -⟩
  rcases hfollows with hsame | ⟨value', hvalue', hnone | ⟨old, hold, hprecedes⟩⟩
  · rw [hsame] at hcurrent
    cases hcurrent.symm.trans hload
    cases hnow.symm.trans htime
    exact Int.le_refl _
  · rw [storedAfter, hnone] at hload
    cases hload
  · cases hvalue'.symm.trans hcurrent
    cases hold.symm.trans hload
    rcases hprecedes.observed_le with ⟨t, t', ht, ht', hle⟩
    cases ht.symm.trans htime
    cases ht'.symm.trans hnow
    exact hle

theorem fenced_of_catalogInv (hinv : CatalogInv first s) {before after : List CatalogNote}
    {generation : Nat} (hhistory : s.history = before ++ .discarded generation :: after) :
    CatalogFenced s generation after := by
  have hfitting := hinv.fitting
  rw [hhistory, CatalogView.fitting_append] at hfitting
  have hafter := hfitting.2.2
  have hshows := hinv.shows
  rw [CatalogState.view, hhistory, CatalogView.run_append_list] at hshows
  have hends : ∀ thread g, (.resumed thread g ∈ after ∨ .committing thread g ∈ after) →
      generation ≤ g := fun thread g hmem => hafter.le_ends hmem
  constructor
  · exact fun thread g hmem => hends thread g (.inl hmem)
  · intro holder
    have hquiet := hafter.quiet rfl fun thread g hmem =>
      Nat.lt_irrefl g (Nat.lt_of_lt_of_le (holder thread g hmem) (hends thread g (.inl hmem)))
    exact ⟨hshows.suspended.symm.trans hquiet.1, hquiet.2⟩
  · rintro between thread g late rfl holder
    have hlate : ∀ thread g, .committing thread g ∉ late := by
      intro thread' g' hmem
      have hle := hends thread' g' (.inr (List.mem_append_right _ (List.mem_cons_of_mem _ hmem)))
      exact Nat.lt_irrefl g' (Nat.lt_of_lt_of_le (holder thread' g' hmem) hle)
    apply CatalogSpec.erased_of_inv hinv
    rw [CatalogState.view, hhistory, ← List.cons_append, ← List.append_assoc,
      CatalogView.run_append_list]
    exact CatalogView.run_erased (v := (CatalogView.run _ _).after (.erased thread g)) rfl hlate

/-- What holds of the catalog along a run, of the state that it leads to. -/
structure CatalogKept (first : Option StoredText)
    (p q : Pool CatalogStorage CatalogState CatalogTask CatalogAnswer) : Prop where
  /-- Floors, digest and time follow those that were stored, and every record is accepted. -/
  follows : CatalogFollows p.shared.durable q.shared.durable
  /-- A failed admission has left them alone, or its write has failed, or it was
  overtaken, and it has not ended a suspension. -/
  failed : ∀ i e, q.threads[i]? = some (.ret (.inr (.accept (.error e)))) →
    (Unharmed i q.shared.history ∨ Overtaken i q.shared.history) ∧ Unresumed i q.shared.history
  /-- A catalog that `read` returns is that of the record, and current. -/
  returned : ∀ i catalog, q.threads[i]? = some (.ret (.inr (.read (.ok (some catalog))))) →
    ∃ (before after : List CatalogNote) (now : DateTime) (raw : Option StoredText), q.shared.history = before ++ .returned i catalog now raw :: after ∧
      ReturnedOver first before catalog now raw
  /-- A denial fences what came before it. -/
  fenced : ∀ (before after : List CatalogNote) generation,
    q.shared.history = before ++ .discarded generation :: after →
      CatalogFenced q.shared generation after
  /-- An admission that succeeds has ended a suspension, a denial that does has erased. -/
  admitted : ∀ i catalog, q.threads[i]? = some (.ret (.inr (.accept (.ok catalog)))) →
    ∃ g, .resumed i g ∈ q.shared.history
  denied : ∀ i, q.threads[i]? = some (.ret (.inr (.discardEnvelope (.ok ())))) →
    Denies i q.shared.history

end Floor

/-- In every run of `read`, `accept` and `discardEnvelope` over a key, with any clock
and writes that are reported only when they have replaced the record, the floors do
not go back and a denial fences older fetches. -/
theorem catalog_floor_and_denial {durable : Option StoredText}
    {p q : Pool CatalogStorage CatalogState CatalogTask CatalogAnswer}
    (hp : catalogStore.Run (CatalogState.new durable) p) (hq : catalogStore.Run p q) :
    CatalogKept durable p q := by
  have hnumbered : (catalogOutline durable).Numbered CatalogState.called :=
    CatalogSpec.outline_numbered
  rcases Outline.Good.run_numbered hnumbered (CatalogSpec.outline_good durable) rfl hp with
    ⟨hgood, hcount, -⟩
  rcases Outline.Good.run_numbered hnumbered hgood hcount hq with ⟨hgood', -, hrely⟩
  have hinv : CatalogInv durable p.shared := hgood.1
  have hinv' : CatalogInv durable q.shared := hgood'.1
  have hended : ∀ (i : Nat) (answer : CatalogAnswer), q.threads[i]? = some (.ret (.inr answer)) →
      answer.Ended i q.shared.history := fun i answer hi => hgood'.answered hi
  constructor
  · rcases (hrely q.threads.length (Nat.le_refl _)).grows with ⟨added, hgrows, -⟩
    have hfitting := hinv'.fitting
    rw [hgrows, CatalogView.fitting_append] at hfitting
    have hfollows := hfitting.2.follows
    rw [← CatalogView.run_append_list, ← hgrows] at hfollows
    exact hinv.shows.durable ▸ hinv'.shows.durable ▸ hfollows
  · exact fun i e hi => hended i _ hi
  · intro i catalog hi
    rcases hended i _ hi with ⟨now, raw, hmem⟩
    rcases List.append_of_mem hmem with ⟨before, after, hhistory⟩
    exact ⟨before, after, now, raw, hhistory, returnedOver_of_inv hinv' hhistory⟩
  · exact fun before after generation hhistory => fenced_of_catalogInv hinv' hhistory
  · exact fun i catalog hi => hended i _ hi
  · exact fun i hi => hended i _ hi

/-! ## Runs that are played -/

/-- The answers that a run is given: the clock and the storage. -/
structure CatalogSetting where
  clock : DateTime
  outcome : Bool × Bool := (true, true)

/-- The answer of a call, unless it has to wait. -/
def CatalogSetting.answer (setting : CatalogSetting) (thread : Nat) (s : CatalogState) :
    (c : CatalogCall) → Option c.Answer
  | .enqueue => some ()
  | .discard => some (s.generation + 1)
  | .enter => if s.queue.head? = some thread then some () else none
  | .leave => some ()
  | .now => some setting.clock
  | .requireGeneration expected => some (s.requireGeneration expected)
  | .readStorage => some (.ok s.durable)
  | .writeStorage _ => some setting.outcome
  | .isSuspended => some s.suspended
  | .verification => some ()
  | .finishRead catalog now => some (s.mayReturn catalog now setting.clock setting.clock)
  | .commit expected => some (s.requireGeneration expected)
  | .resume expected => some (s.requireGeneration expected)
  | .erased _ => some ()

theorem CatalogSetting.allows_answer {setting : CatalogSetting} {thread : Nat} {s : CatalogState}
    {c : CatalogCall} {r : c.Answer} (h : setting.answer thread s c = some r) :
    s.allows thread ⟨c, r⟩ := by
  cases c with
  | enter =>
    simp only [answer] at h
    split at h
    · assumption
    · cases h
  | readStorage =>
    cases h
    rintro raw hraw
    cases hraw
    rfl
  | finishRead catalog now =>
    cases h
    exact ⟨_, _, rfl⟩
  | discard =>
    cases h
    rfl
  | requireGeneration expected =>
    cases h
    rfl
  | isSuspended =>
    cases h
    rfl
  | commit expected =>
    cases h
    rfl
  | resume expected =>
    cases h
    rfl
  | _ => trivial

/-- Whether an answer says that a write was reported that left the record. -/
def honestAnswer (e : Event CatalogStorage) : Bool :=
  match e with
  | ⟨.writeStorage _, (replaced, reported)⟩ => !reported || replaced
  | _ => true

theorem honest_of_honestAnswer {e : Event CatalogStorage} (h : honestAnswer e = true) :
    CatalogState.Honest e := by
  rcases e with ⟨c, r⟩
  cases c with
  | writeStorage raw =>
    rintro hreported
    have hcases : (!r.2 || r.1) = true := h
    rw [show r.2 = true from hreported] at hcases
    exact hcases
  | _ => trivial

def catalogPlayer : Player catalogStore CatalogSetting where
  startTask := fun s _ => some { s with called := s.called + 1 }
  respond := fun setting thread s c =>
    match setting.answer thread s c with
    | none => none
    | some r => if honestAnswer ⟨c, r⟩ then some (r, s.effect thread ⟨c, r⟩) else none
  starts := by
    intro s s' task h
    cases h
    rfl
  executes := by
    intro setting thread s s' c r h
    split at h
    · cases h
    · rename_i r' hr
      split at h
      · cases h
        exact ⟨honest_of_honestAnswer (by assumption), CatalogSetting.allows_answer hr, rfl⟩
      · cases h

/-! ### An envelope -/

def catalogKey : List UInt8 := List.replicate 32 0

/-- A verifier whose key has signed everything. -/
def labVerifier : RoutingCatalogVerifier where
  publicKeysById := [(text "k", some catalogKey)]
  audience := text "lab"
  sha256 := fun _ _ => 0
  ed25519 := fun _ _ _ => some true

def labCatalogStore : RoutingCatalogStore where
  verifier := labVerifier
  enabled := true
  fromVerified := fun _ => .ok ()

def labEnvelope : Document :=
  .map [(text "algorithm", .string (text "Ed25519")), (text "key_id", .string (text "k")),
    (text "payload_sha256", .string (List.replicate 64 (unit '0'))),
    (text "payload", .map [(text "schema_version", .string (text "pokrov-routing-catalog-v1")),
      (text "revision", .int 7), (text "security_revision", .int 1),
      (text "audience", .string (text "lab")),
      (text "issued_at", .string (text "2026-01-01T00:00:00Z")),
      (text "expires_at", .string (text "2026-02-01T00:00:00Z")), (text "sources", .list []),
      (text "evidence", .list []), (text "services", .list [])]),
    (text "signature_b64", .string (List.replicate 86 (unit 'A')))]

/-- A day in January of 2026. -/
def january : DateTime := ⟨1768000000000000, by decide, by decide⟩

/-- A denial comes while an admission writes its record. -/
def overtakenRun : Pool CatalogStorage CatalogState CatalogTask CatalogAnswer :=
  catalogPlayer.play (CatalogState.new none)
    [.start (.accept labCatalogStore labEnvelope 0), .go 0 11 { clock := january },
      .start (.discardEnvelope labCatalogStore), .go 1 1 { clock := january },
      .go 0 9 { clock := january }, .go 1 9 { clock := january }]

theorem overtakenRun_kept : CatalogKept none (CatalogState.new none) overtakenRun :=
  catalog_floor_and_denial .refl (Player.run_play _ _ _)

/-- Whether a write of a thread that is reported has moved the revision. -/
def movesRevision (i : Nat) : CatalogNote → Bool
  | .wrote thread before raw true =>
    thread = i && (floorOf (some raw)).map Prod.fst ≠ (floorOf before).map Prod.fst
  | _ => false

theorem not_unharmed_of_movesRevision {i : Nat} {history : List CatalogNote}
    (h : history.any (movesRevision i) = true) : ¬ Unharmed i history := by
  intro hunharmed
  rcases List.any_eq_true.mp h with ⟨note, hmem, hmoves⟩
  unfold movesRevision at hmoves
  split at hmoves
  · rename_i thread before raw
    rw [Bool.and_eq_true, decide_eq_true_eq, decide_eq_true_eq] at hmoves
    rcases hmoves with ⟨rfl, hmoved⟩
    rcases hunharmed before raw true hmem with hsame | hnever
    · exact hmoved (congrArg (Option.map Prod.fst) hsame)
    · cases hnever
  · cases hmoves

/-- Whether a thread has ended in an admission that failed with a code. -/
def failedWith (code : String) : Option CatalogAnswer → Bool
  | some (.accept (.error (.catalog found))) => found = code
  | _ => false

theorem eq_of_failedWith {code : String} {answer : Option CatalogAnswer}
    (h : failedWith code answer = true) : answer = some (.accept (.error (.catalog code))) := by
  unfold failedWith at h
  split at h
  · rw [decide_eq_true_eq] at h
    rw [h]
  · cases h

/-- A failed admission may have moved the floors though its write succeeded: it was
superseded while it wrote. -/
theorem failed_admission_moves_floors :
    ¬ ∀ p : Pool CatalogStorage CatalogState CatalogTask CatalogAnswer,
      catalogStore.Run (CatalogState.new none) p → ∀ i e,
        p.threads[i]? = some (.ret (.inr (.accept (.error e)))) → Unharmed i p.shared.history := by
  intro hclaim
  obtain ⟨hfailed, hmoved⟩ : failedWith "catalog_fetch_superseded" (overtakenRun.answer 0) = true ∧
      overtakenRun.shared.history.any (movesRevision 0) = true := by
    decide +kernel
  exact not_unharmed_of_movesRevision hmoved (hclaim overtakenRun (Player.run_play _ _ _) 0 _
    (Pool.answer_eq_some (eq_of_failedWith hfailed)))

end Pokrov.AppShell
