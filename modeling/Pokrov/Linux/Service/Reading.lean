import Pokrov.Linux.Service.Ownership

/-!
# Programs that only look

A quiet call neither takes nor gives back the lock, and touches neither the owner
nor the tunnel. What the daemon does before it decides, and the snapshot that it
takes at the end, is made of quiet calls and leaves the fields as they are.
-/

namespace Pokrov.Linux.Service

open Effects

def quiet : DaemonCall → Bool
  | .execute _ _ => false
  | .restore _ => false
  | .recoverSystem => false
  | c => benign c

/-- The calls that do not touch the health of a session either. -/
def plain : DaemonCall → Bool
  | .coreProbe _ => false
  | .revokeATSLease _ _ _ _ => false
  | c => quiet c

theorem benign_of_quiet {c : DaemonCall} (h : quiet c = true) : benign c = true := by
  cases c <;> first | exact h | cases h

theorem quiet_of_plain {c : DaemonCall} (h : plain c = true) : quiet c = true := by
  cases c <;> first | exact h | cases h

/-- The program makes calls of one class and leaves its memory alone. -/
def Looks {σ α : Type} (C : DaemonCall → Bool) (m : Act Daemon σ α) : Prop :=
  ∀ f, (m f).Yields (C · = true) (·.2 = f)

namespace Looks

variable {σ α β : Type} {C C' : DaemonCall → Bool}

theorem pure (a : α) : Looks C (pure a : Act Daemon σ α) := fun _ => rfl

theorem get : Looks C (MonadState.get : Act Daemon σ σ) := fun _ => rfl

theorem bind {m : Act Daemon σ α} {n : α → Act Daemon σ β} (hm : Looks C m)
    (hn : ∀ a, Looks C (n a)) : Looks C (m >>= n) := fun f =>
  Prog.Yields.bind (hm f) fun x hx => by
    obtain rfl : x.2 = f := hx
    exact hn x.1 x.2

theorem ite {b : Prop} [Decidable b] {m n : Act Daemon σ α} (hm : Looks C m) (hn : Looks C n) :
    Looks C (if b then m else n) := by
  split
  · exact hm
  · exact hn

theorem call {c : DaemonCall} (hc : C c = true) : Looks C (call c : Act Daemon σ c.Answer) :=
  fun _ => ⟨hc, fun _ => rfl⟩

theorem connectMu {sec : Section} (hsec : C (.connectMu sec) = true) :
    Looks C (connectMu sec : Act Daemon σ sec.Answer) :=
  call (c := .connectMu sec) hsec

theorem mono {m : Act Daemon σ α} (hm : Looks C m) (hC : ∀ c, C c = true → C' c = true) :
    Looks C' m :=
  fun f => (hm f).mono hC fun _ => id

end Looks

/-- The program only looks. -/
abbrev Quiet {σ α : Type} (m : Act Daemon σ α) : Prop := Looks quiet m

/-- The program only looks, and not at the health of a session. -/
abbrev Plain {σ α : Type} (m : Act Daemon σ α) : Prop := Looks plain m

theorem Looks.quiet {σ α : Type} {m : Act Daemon σ α} (hm : Plain m) : Quiet m :=
  hm.mono fun _ => quiet_of_plain

/-- A response that refuses shows nothing. -/
def Response.Refuses (response : Response) : Prop := response.ok = false ∧ response.snapshot = none

/-- The program makes calls of one class, and answers with a refusal or not at all. -/
def Declines {σ : Type} (C : DaemonCall → Bool) (m : Act Daemon σ (Option Response)) : Prop :=
  ∀ f, (m f).Yields (C · = true) fun x =>
    x.2 = f ∧ ∀ response, x.1 = some response → response.Refuses

namespace Declines

variable {σ α : Type} {C C' : DaemonCall → Bool} {m : Act Daemon σ (Option Response)}

theorem looks (h : Declines C m) : Looks C m := fun f => (h f).mono (fun _ => id) fun _ h => h.1

theorem mono (h : Declines C m) (hC : ∀ c, C c = true → C' c = true) : Declines C' m :=
  fun f => (h f).mono hC fun _ => id

theorem passes : Declines C (pure none : Act Daemon σ (Option Response)) :=
  fun _ => ⟨rfl, fun response h => absurd (h : none = some response) nofun⟩

theorem refused {response : Response} (h : response.Refuses) :
    Declines C (pure (some response) : Act Daemon σ (Option Response)) :=
  fun _ => ⟨rfl, fun _ h' => Option.some.inj h' ▸ h⟩

theorem failure (request : Request) (errorCode messageCode : String) :
    Declines C (pure (some (.failure request errorCode messageCode)) : Act Daemon σ (Option Response)) :=
  refused ⟨rfl, rfl⟩

theorem after {m : Act Daemon σ α} {n : α → Act Daemon σ (Option Response)} (hm : Looks C m)
    (hn : ∀ a, Declines C (n a)) : Declines C (m >>= n) := fun f =>
  Prog.Yields.bind (hm f) fun x hx => by
    obtain rfl : x.2 = f := hx
    exact hn x.1 x.2

theorem bind {n : Option Response → Act Daemon σ (Option Response)} (hm : Declines C m)
    (hsome : ∀ response, response.Refuses → Declines C (n (some response)))
    (hnone : Declines C (n none)) : Declines C (m >>= n) := fun f =>
  Prog.Yields.bind (hm f) fun x hx => by
    obtain ⟨r, f'⟩ := x
    obtain ⟨rfl, hr⟩ := hx
    rcases r with _ | response
    · exact hnone f'
    · exact hsome response (hr response rfl) f'

theorem ite {b : Prop} [Decidable b] {n : Act Daemon σ (Option Response)} (hm : Declines C m)
    (hn : Declines C n) : Declines C (if b then m else n) := by
  split
  · exact hm
  · exact hn

end Declines

/-- The program only looks, and answers with a refusal or not at all. -/
abbrev Refusing {σ : Type} (m : Act Daemon σ (Option Response)) : Prop := Declines quiet m

theorem Declines.refusing {σ : Type} {m : Act Daemon σ (Option Response)}
    (h : Declines plain m) : Refusing m :=
  h.mono fun _ => quiet_of_plain

section Checks

variable {σ : Type}

variable (peer : Peer) (context : Option Nat)

theorem plain_alive : Plain (peer.alive : Act Daemon σ Bool) :=
  .ite (.pure _) (.call rfl)

theorem quiet_alive : Quiet (peer.alive : Act Daemon σ Bool) :=
  (plain_alive peer).quiet

theorem plain_authorize : Plain (authorize peer : Act Daemon σ Bool) :=
  .ite (.pure _) (.ite (.pure _) (.call rfl))

theorem quiet_authorize : Quiet (authorize peer : Act Daemon σ Bool) :=
  (plain_authorize peer).quiet

theorem refuses_cancelledConnectResponse (request : Request) (cause : Cause) :
    (cancelledConnectResponse request cause).Refuses := by
  cases cause
  · exact ⟨rfl, rfl⟩
  · exact ⟨rfl, rfl⟩

theorem declines_cancelledConnect (request : Request) :
    Declines plain (cancelledConnect context request : Act Daemon σ (Option Response)) := by
  refine .ite .passes (.after (.call rfl) fun cause => ?_)
  cases cause with
  | some cause => exact .refused (refuses_cancelledConnectResponse request cause)
  | none => exact .passes

theorem refusing_cancelledConnect (request : Request) :
    Refusing (cancelledConnect context request : Act Daemon σ (Option Response)) :=
  (declines_cancelledConnect context request).refusing

theorem declines_changedNetwork (request : Request) (expected : Option ExpectedIdentity)
    {abort : Act Daemon σ Unit} (habort : Plain abort) :
    Declines plain (changedNetwork context request expected abort) := by
  cases expected with
  | none => exact .passes
  | some identity =>
    refine .after (.call rfl) fun current => .ite .passes (.after habort fun _ => ?_)
    exact .bind (declines_cancelledConnect context request) (fun _ h => .refused h)
      (.failure request _ _)

theorem refusing_changedNetwork (request : Request) (expected : Option ExpectedIdentity)
    {abort : Act Daemon σ Unit} (habort : Plain abort) :
    Refusing (changedNetwork context request expected abort) :=
  (declines_changedNetwork context request expected habort).refusing

end Checks

/-! ## Snapshots -/

variable (peer : Peer) (context : Option Nat) (request : Request) (result : HostResult)

theorem plain_canConnect : Plain (canConnect result) := by
  refine .bind .get fun f => .ite (.pure _) (.bind (.call rfl) fun _ => .ite (.pure _) ?_)
  exact .bind (.call rfl) fun _ => .ite (.pure _) (.pure _)

theorem plain_coreTexts (phase : Phase) : Plain (coreTexts result phase) := by
  refine .bind .get fun f => .ite (.pure _) ?_
  cases f.core with
  | some core =>
    exact .bind (.call rfl) fun _ => .bind (.call rfl) fun _ => .bind (.call rfl) fun _ => .pure _
  | none => exact .ite (.pure _) (.bind (.call rfl) fun _ => .pure _)

/-- What a snapshot of a ready host says about a runtime that runs. -/
def Shows (f : Fields) (shown : Snapshot) : Prop :=
  shown.supportsLiveConnect = true → f.phase = .running → f.recoveryRequired = false →
    shown.phase = .running ∧ shown.connectionPending = false

/-- A snapshot displays no health but that of a runtime that runs and has not failed. -/
def Displays (f : Fields) (shown : Snapshot) : Prop :=
  (shown.coreEgressValidated = none ∧ shown.dnsReady = none) ∨
    ∃ health, f.health = some health ∧ f.phase = .running ∧ f.lastFailure = "" ∧
      shown.phase = .running ∧ shown.coreEgressValidated = some health.egressValidated ∧
      shown.dnsReady = some health.dnsReady

/-- A snapshot says that a connection is pending where recovery is required or a
transaction does not run. -/
def Pends (f : Fields) (shown : Snapshot) : Prop :=
  shown.connectionPending = true → f.recoveryRequired = true ∨ f.transaction ≠ none

theorem displays_of {f : Fields} {shown : Snapshot} {phase : Phase}
    (hphase : phase = .running → f.phase = .running) (hshown : shown.phase = phase)
    (hegress : shown.coreEgressValidated =
      (if phase = .running ∧ f.lastFailure = "" then f.health else none).map (·.egressValidated))
    (hdns : shown.dnsReady =
      (if phase = .running ∧ f.lastFailure = "" then f.health else none).map (·.dnsReady)) :
    Displays f shown := by
  by_cases hruns : phase = .running ∧ f.lastFailure = ""
  · rw [if_pos hruns] at hegress hdns
    cases hhealth : f.health with
    | none => exact .inl ⟨by simp [hegress, hhealth], by simp [hdns, hhealth]⟩
    | some health =>
      refine .inr ⟨health, hhealth, hphase hruns.1, hruns.2, hshown.trans hruns.1, ?_, ?_⟩
      · simp [hegress, hhealth]
      · simp [hdns, hhealth]
  · rw [if_neg hruns] at hegress hdns
    exact .inl ⟨hegress, hdns⟩

theorem yields_snapshot_plain (f : Fields) : (snapshot result f).Yields (plain · = true) fun x =>
      x.2 = f ∧ Shows f x.1 ∧ Displays f x.1 ∧ Pends f x.1 := by
  refine .bind (R := (· = (f, f))) rfl ?_
  rintro _ rfl
  refine .bind (Looks.call (C := plain) (c := .ownership) rfl f) ?_
  rintro ⟨ownership, f⟩ rfl
  refine .bind (plain_canConnect result f) ?_
  rintro ⟨connectable, f⟩ rfl
  refine .bind (plain_coreTexts result _ f) ?_
  rintro ⟨texts, f⟩ rfl
  refine ⟨rfl, fun hready hrunning hrecovery => ?_, ?_, fun hpending => ?_⟩
  · have hready : result.hostReady = true := hready
    dsimp only at hrunning hrecovery ⊢
    rw [hready, hrunning, hrecovery]
    simp
  · refine displays_of (fun hphase => ?_) rfl rfl rfl
    -- the phase that is shown is the one of the fields unless the host is not ready
    split at hphase
    · cases hphase
    · split at hphase
      · cases hphase
      · exact hphase
  · simp only [Bool.or_eq_true, Bool.and_eq_true, decide_eq_true_eq] at hpending
    exact hpending.imp id And.left

theorem yields_snapshot (f : Fields) :
    (snapshot result f).Yields (quiet · = true) fun x => x.2 = f ∧ Shows f x.1 :=
  (yields_snapshot_plain result f).mono (fun _ => quiet_of_plain) fun _ h => ⟨h.1, h.2.1⟩

theorem plain_snapshot : Plain (snapshot result) :=
  fun f => (yields_snapshot_plain result f).mono (fun _ => id) fun _ h => h.1

theorem quiet_snapshot : Quiet (snapshot result) :=
  (plain_snapshot result).quiet

theorem quiet_succeed : Quiet (succeed request) :=
  .bind (.call rfl) fun result => .bind (quiet_snapshot result) fun _ => .pure _

theorem declines_refuseConnect (expected : Option ExpectedIdentity) (result : HostResult) :
    Declines plain (refuseConnect context request expected result) := by
  refine .bind (declines_cancelledConnect context request) (fun _ h => .refused h) ?_
  refine .ite (.failure request _ _) ?_
  refine .bind (declines_changedNetwork _ _ _ (.pure _)) (fun _ h => .refused h) ?_
  refine .after .get fun f => ?_
  cases expected with
  | none => exact .after (.call rfl) fun _ => .ite (.failure request _ _) .passes
  | some identity =>
    refine .after (.ite (.pure _) (.bind (.call rfl) fun _ => .ite (.pure _) (.pure _)))
      fun mismatch => ?_
    exact .ite (.failure request _ _) (.ite (.failure request _ _) .passes)

theorem refusing_refuseConnect (expected : Option ExpectedIdentity) (result : HostResult) :
    Refusing (refuseConnect context request expected result) :=
  (declines_refuseConnect context request expected result).refusing

theorem plain_newTransaction : Plain (newTransaction request) :=
  .bind .get fun _ => .bind (.call rfl) fun _ => .ite (.pure _) (.call rfl)

theorem quiet_newTransaction : Quiet (newTransaction request) :=
  (plain_newTransaction request).quiet

theorem plain_lateRefusal (expected : Option ExpectedIdentity) :
    Plain (lateRefusal context expected) := by
  refine .bind ?_ fun networkChanged => .bind (.call rfl) fun cause => .ite (.pure _) ?_
  · cases expected with
    | none => exact .pure _
    | some identity =>
      refine .bind (.call rfl) fun _ => .ite (.pure _) ?_
      exact .bind (.call rfl) fun _ => .pure _
  · refine .bind ?_ fun expired => .ite (.pure _) (.pure _)
    cases expected with
    | none => exact .pure _
    | some identity => exact .bind (.call rfl) fun _ => .pure _

theorem quiet_lateRefusal (expected : Option ExpectedIdentity) :
    Quiet (lateRefusal context expected) :=
  (plain_lateRefusal context expected).quiet

theorem plain_coreRuns (core : Nat) (profileDigest : String) : Plain (coreRuns core profileDigest) :=
  .bind (.call rfl) fun _ => .ite (.pure _) (.bind (.call rfl) fun _ => .pure _)

theorem quiet_coreRuns (core : Nat) (profileDigest : String) : Quiet (coreRuns core profileDigest) :=
  (plain_coreRuns core profileDigest).quiet

theorem plain_peerOnNetwork (networkRef : String) : Plain (peerOnNetwork peer networkRef) :=
  .bind (plain_alive peer) fun _ => .ite (.pure _) (.call rfl)

theorem quiet_peerOnNetwork (networkRef : String) : Quiet (peerOnNetwork peer networkRef) :=
  (plain_peerOnNetwork peer networkRef).quiet

theorem plain_stillPromotable (call' core : Nat) (networkRef : String) :
    Plain (stillPromotable peer call' core networkRef) := by
  refine .bind (.connectMu rfl) fun c => ?_
  cases c with
  | none => exact .pure _
  | some c =>
    refine .ite (.pure _) (.bind (plain_alive peer) fun _ => .ite (.pure _) ?_)
    exact .bind (.call rfl) fun _ => .ite (.pure _) (.call rfl)

theorem quiet_stillPromotable (call' core : Nat) (networkRef : String) :
    Quiet (stillPromotable peer call' core networkRef) :=
  (plain_stillPromotable peer call' core networkRef).quiet

/-! ## Watchers -/

/-- A watcher looks, but for what it does under the lock. -/
theorem upholds_watchBoundPeer {S T A : Type} {sys : System Daemon S T A} {O : Outline sys}
    {J : Nat → Unit → S → Prop} {call' : Nat} {peer : Peer} {requestID networkRef : String}
    (hplain : ∀ {α : Type} {m : Unlocked α}, Plain m → O.Upholds J m)
    (hcancel : ∀ networkChanged, O.Upholds J
      (locked (connectMu (.cancelWatched call' peer requestID networkChanged))))
    (hstop : ∀ networkChanged, O.Upholds J (locked (stopWatched peer requestID networkChanged))) :
    O.Upholds J (watchBoundPeer call' peer requestID networkRef) := by
  refine .bind (hplain (.call rfl)) fun _ => .bind (hplain (.connectMu rfl)) fun current => ?_
  refine .ite (hplain (.pure _)) (.bind (hplain (plain_alive peer)) fun alive => ?_)
  refine .bind (.ite (hplain (.pure _)) (hplain (.connectMu rfl))) fun current => ?_
  refine .ite (hplain (.pure _)) (.bind (hplain ?_) fun networkChanged => ?_)
  · exact .bind (.call rfl) fun _ => .ite (.pure _) (.bind (.call rfl) fun _ => .pure _)
  refine .ite (hplain (.pure _)) (.bind (hcancel networkChanged) fun verdict => ?_)
  cases verdict with
  | gone => exact hplain (.pure _)
  | kept => exact hplain (.pure _)
  | cancelled =>
    refine .bind (hplain (.call rfl)) fun _ => .bind (hstop networkChanged) fun _ => ?_
    exact hplain (.pure _)

end Pokrov.Linux.Service
