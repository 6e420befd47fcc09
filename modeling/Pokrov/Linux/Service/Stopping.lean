import Pokrov.Linux.Service.SessionRuns

/-!
# What a stop leaves

A stop cleans up on one of two routes, by restoring the transaction or, when its
Core has exited, by a recovery. A recovery that fails leaves a flag behind, and
only a recovery that succeeds takes it back: a stop that comes to its end on the
other route leaves the daemon busy with nothing.
-/

namespace Pokrov.Linux.Service

open Effects Contract

/-! ## At rest -/

/-- Nothing is left of a runtime. -/
structure AtRest (f : Fields) (ownership : Ownership) : Prop where
  transaction : f.transaction = none
  core : f.core = none
  owner : ownership.boundConnectRequestID = ""
  recovery : f.recoveryRequired = false

/-- What the calls of a thread do to the shared state. -/
def Shared.along (thread : Nat) (s : Shared) (tr : List (Event Daemon)) : Shared :=
  tr.foldl (fun s e => s.effect thread e.call) s

/-- Whatever is answered, a stop without an error leaves the daemon at rest. -/
def StopsAtRest (thread : Nat) (f : Fields) (s : Shared) : Prop :=
  ∀ tr f', Steps (stop f) tr (.ret (true, f')) → AtRest f' (s.along thread tr).ownership

/-- The daemon takes on a new runtime: no snapshot says that a connection is
pending, and nothing is refused as busy. -/
structure Vacant (P : Payloads) (f : Fields) : Prop where
  snapshot : ∀ result tr shown f', Steps (snapshot result f) tr (.ret (shown, f')) →
    shown.connectionPending = false
  stageProfile : ∀ request tr response f',
    Steps (stageProfile P request f) tr (.ret (response, f')) →
    response.errorCode ≠ "linux_runtime_busy"
  connect : ∀ context request expected result tr response f',
    Steps (refuseConnect context request expected result f) tr (.ret (some response, f')) →
    response.errorCode ≠ "linux_runtime_busy"

/-- What a thread that has taken the lock may promise of a stop. -/
structure StopsClean (P : Payloads) (thread : Nat) (f : Fields) (s : Shared) : Prop where
  stop : StopsAtRest thread f s
  disconnect : ∀ request tr response f', Steps (disconnect request f) tr (.ret (response, f')) →
    response.ok = true → AtRest f' (s.along thread tr).ownership ∧ Vacant P f' ∧
      ∀ shown, response.snapshot = some shown → shown.connectionPending = false

/-- A recovery has failed and the transaction is still there to be restored. -/
def Stranded (f : Fields) : Prop := f.transaction ≠ none ∧ f.recoveryRequired = true

instance (f : Fields) : Decidable (Stranded f) := inferInstanceAs (Decidable (_ ∧ _))

/-! ## Every outcome -/

def isRestore : DaemonCall → Bool
  | .restore _ => true
  | _ => false

/-- The calls may be answered in any way. The flag says whether a stop has begun to
restore. -/
def outcomes (thread : Nat) : Contract Daemon (Shared × Bool) where
  next := fun g e => (g.1.effect thread e.call, g.2 || isRestore e.call)
  rely := fun _ _ => True
  guar := fun _ _ => True

section Outcomes

variable {α β : Type} {thread : Nat} {f f' : Fields} {g : Shared × Bool}

theorem after_outcomes (s : Shared) (restored : Bool) (tr : List (Event Daemon)) :
    (outcomes thread).after (s, restored) tr =
      (s.along thread tr, restored || tr.any fun e => isRestore e.call) := by
  induction tr generalizing s restored with
  | nil => simp [Shared.along]
  | cons e tr ih =>
    show (outcomes thread).after (s.effect thread e.call, restored || isRestore e.call) tr = _
    rw [ih]
    simp [Shared.along, Bool.or_assoc]

theorem outcomes_run (thread : Nat) (g : Shared × Bool) {m : Locked α} {Q : α → Fields → Shared × Bool → Prop}
    (h : (outcomes thread).wpa m Q f g) {tr : List (Event Daemon)} {v : α}
    (hrun : Steps (m f) tr (.ret (v, f'))) : Q v f' ((outcomes thread).after g tr) :=
  ((outcomes thread).wp_steps h hrun ((outcomes thread).along_of_forall (fun _ _ => trivial) g tr)).2

/-- One call, whatever it is answered. -/
theorem wpa_any {c : DaemonCall} {k : c.Answer → Locked α} {Q : α → Fields → Shared × Bool → Prop}
    (h : ∀ r, (outcomes thread).wpa (k r) Q f (g.1.effect thread c, g.2 || isRestore c)) :
    (outcomes thread).wpa (call c >>= k) Q f g :=
  wpa_call fun r _ => ⟨trivial, h r⟩

/-- The owner and the flag, which are all that a stop looks at. -/
structure Alongside (g g' : Shared × Bool) : Prop where
  owner : g'.1.ownership.boundConnectRequestID = g.1.ownership.boundConnectRequestID
  flag : g'.2 = g.2

theorem Alongside.refl (g : Shared × Bool) : Alongside g g := ⟨rfl, rfl⟩

theorem Alongside.trans {g1 g2 g3 : Shared × Bool} (h : Alongside g1 g2) (h' : Alongside g2 g3) :
    Alongside g1 g3 :=
  ⟨h'.owner.trans h.owner, h'.flag.trans h.flag⟩

theorem alongside_plain {c : DaemonCall} (hc : plain c = true) :
    Alongside g (g.1.effect thread c, g.2 || isRestore c) where
  owner := by rw [(same_effect thread (benign_of_quiet (quiet_of_plain hc))).ownership]
  flag := by
    have : isRestore c = false := by
      cases c <;> first | rfl | cases hc
    simp [this]

/-- A program that only looks changes nothing that matters. -/
theorem wpa_yields {m : Locked α} {R : α → Prop}
    (hm : (m f).Yields (plain · = true) fun x => x.2 = f ∧ R x.1) :
    (outcomes thread).wpa m (fun v f' g' => f' = f ∧ R v ∧ Alongside g g') f g := by
  unfold wpa
  have hrun : ∀ (p : Prog Daemon (α × Fields)) (g : Shared × Bool),
      p.Yields (plain · = true) (fun x => x.2 = f ∧ R x.1) →
      (outcomes thread).wp p (fun x g' => x.2 = f ∧ R x.1 ∧ Alongside g g') g := by
    intro p
    induction p with
    | ret x => exact fun g h => ⟨h.1, h.2, .refl g⟩
    | call c k ih =>
      intro g h r _
      refine ⟨trivial, (outcomes thread).wp_mono (ih r _ (h.2 r)) ?_⟩
      rintro x g' ⟨hx, hr, halong⟩
      exact ⟨hx, hr, (alongside_plain h.1).trans halong⟩
  exact hrun (m f) g hm

theorem wpa_plain {m : Locked α} (hm : Plain m) :
    (outcomes thread).wpa m (fun _ f' g' => f' = f ∧ Alongside g g') f g :=
  wpa_mono (wpa_yields (R := fun _ => True) ((hm f).mono (fun _ => id) fun _ h => ⟨h, trivial⟩))
    fun _ _ _ h => ⟨h.1, h.2.2⟩

/-! ## The two routes -/

theorem wpa_clearRuntime :
    (outcomes thread).wpa clearRuntime (fun _ f' g' =>
      f' = { f with transaction := none, core := none } ∧
        g'.1.ownership.boundConnectRequestID = "" ∧ g'.2 = g.2) f g := by
  intro _ _
  refine ⟨trivial, rfl, ?_, ?_⟩
  · show g.1.releaseBoundConnect.ownership.boundConnectRequestID = ""
    rw [(release_fields g.1).2.2.1]
  · show (g.2 || false) = g.2
    simp

theorem wpa_recoverPending :
    (outcomes thread).wpa recoverPending (fun r f' g' => g'.2 = g.2 ∧
      (r = none ∧ f' = { f with recoveryRequired := false } ∧ Alongside g g' ∨
        r = none ∧ AtRest f' g'.1.ownership ∨
        r ≠ none ∧ f'.transaction = f.transaction)) f g := by
  unfold recoverPending
  refine wpa_any fun outcome => ?_
  have hflag : (g.2 || isRestore .recoverSystem) = g.2 := by simp [isRestore]
  rcases outcome with error | found
  · exact ⟨hflag, .inr (.inr ⟨nofun, rfl⟩)⟩
  cases found with
  | false => exact ⟨hflag, .inl ⟨rfl, rfl, rfl, hflag⟩⟩
  | true =>
    rw [wpa_bind, wpa_modify, wpa_ite]
    refine ⟨fun h => absurd rfl h, fun _ => wpa_bind.mpr ?_⟩
    refine wpa_mono wpa_clearRuntime ?_
    rintro _ f1 g1 ⟨rfl, howner, hsame⟩
    rw [wpa_bind, wpa_modify]
    refine wpa_any fun exist => ?_
    refine ⟨?_, .inr (.inl ⟨rfl, rfl, rfl, howner, rfl⟩)⟩
    show (g1.2 || false) = g.2
    rw [Bool.or_false, hsame, hflag]

theorem wpa_recoverExited (htransaction : f.transaction ≠ none) :
    (outcomes thread).wpa recoverExited (fun r f' g' => g'.2 = g.2 ∧
      (r = true → AtRest f' g'.1.ownership) ∧ (r = false → f'.transaction ≠ none)) f g := by
  unfold recoverExited
  refine wpa_bind.mpr (wpa_get.mpr ?_)
  cases f.core with
  | none => exact ⟨rfl, nofun, fun _ => htransaction⟩
  | some core =>
    refine wpa_any fun exited => ?_
    have hflag : (g.2 || isRestore (.coreExited core)) = g.2 := by simp [isRestore]
    refine wpa_ite.mpr ⟨fun _ => ⟨hflag, nofun, fun _ => htransaction⟩, fun _ => wpa_bind.mpr ?_⟩
    refine wpa_mono wpa_recoverPending ?_
    rintro r f1 g1 ⟨hsame, hcases⟩
    refine wpa_ite.mpr ⟨fun hfailed => ⟨hsame.trans hflag, nofun, fun _ => ?_⟩, fun hdone => ?_⟩
    · rcases hcases with ⟨hnone, -⟩ | ⟨hnone, -⟩ | ⟨-, hkept⟩
      · exact absurd hnone hfailed
      · exact absurd hnone hfailed
      · exact hkept ▸ htransaction
    · refine ⟨hsame.trans hflag, fun hnone => ?_, fun hsome => by simpa using hsome⟩
      have hnone : f1.transaction = none := by simpa using hnone
      rcases hcases with ⟨-, rfl, -⟩ | ⟨-, hrest⟩ | ⟨hfailed, -⟩
      · exact absurd hnone htransaction
      · exact hrest
      · exact absurd hfailed hdone

/-- What a stop ends in, unless it starts stranded. -/
theorem wpa_stop (hkept : ¬ Stranded f)
    (hrest : f.transaction = none → f.core = none ∧ g.1.ownership.boundConnectRequestID = "") :
    (outcomes thread).wpa stop (fun r f' g' => (r = true → AtRest f' g'.1.ownership) ∧
      (f.transaction ≠ none → r = false → f'.transaction ≠ none)) f g := by
  unfold stop
  refine wpa_bind.mpr (wpa_get.mpr ?_)
  cases htransaction : f.transaction with
  | none =>
    obtain ⟨hcore, howner⟩ := hrest htransaction
    refine wpa_ite.mpr ⟨fun hrecovery => ⟨fun _ => ?_, fun h => absurd rfl h⟩, fun _ => wpa_bind.mpr ?_⟩
    · exact ⟨htransaction, hcore, howner, by simpa using hrecovery⟩
    refine wpa_mono wpa_recoverPending ?_
    rintro r f1 g1 ⟨-, hcases⟩
    refine ⟨fun hdone => ?_, fun h => absurd rfl h⟩
    have hdone : r = none := by simpa using hdone
    rcases hcases with ⟨-, rfl, halong⟩ | ⟨-, hrest⟩ | ⟨hfailed, -⟩
    · exact ⟨htransaction, hcore, halong.owner.trans howner, rfl⟩
    · exact hrest
    · exact absurd hdone hfailed
  | some transaction =>
    refine wpa_any fun restored => wpa_ite.mpr ⟨fun _ => wpa_bind.mpr ?_, fun _ => wpa_bind.mpr ?_⟩
    · refine wpa_mono wpa_clearRuntime ?_
      rintro _ f1 g1 ⟨rfl, howner, -⟩
      -- this route leaves the flag of a failed recovery as it was
      have hrecovery : f.recoveryRequired = false := by
        simpa [Stranded, htransaction] using hkept
      exact ⟨fun _ => ⟨rfl, rfl, howner, hrecovery⟩, fun _ h => Bool.noConfusion h⟩
    · refine wpa_mono (wpa_recoverExited (by simp [htransaction])) ?_
      rintro r f1 g1 ⟨-, hdone, hfailed⟩
      refine wpa_ite.mpr ⟨fun hr => ⟨fun _ => hdone hr, fun _ h => Bool.noConfusion h⟩, fun hr => ?_⟩
      exact ⟨fun h => Bool.noConfusion h, fun _ _ => hfailed (by simpa using hr)⟩

/-- The run that leaves a stranded daemon busy. -/
theorem steps_stop {transaction : Nat} (htransaction : f.transaction = some transaction) :
    Steps (stop f) [⟨.restore transaction, true⟩, ⟨.connectMu .releaseBoundConnect, ()⟩]
      (.ret (true, { f with
        transaction := none, core := none, lastFailure := "", phase := .configStaged })) := by
  obtain ⟨⟩ := f
  cases htransaction
  let restore : DaemonCall := .restore transaction
  let release : DaemonCall := .connectMu .releaseBoundConnect
  refine Steps.call (I := Daemon) (c := restore) true ?_
  refine Steps.call (I := Daemon) (c := release) () ?_
  exact .refl _

/-! ## What follows a stop -/

/-- A response that does not say that the runtime is busy. -/
def Unbusy (response : Response) : Prop := response.errorCode ≠ "linux_runtime_busy"

theorem unbusy_failure (request : Request) {errorCode messageCode : String}
    (h : errorCode ≠ "linux_runtime_busy") : Unbusy (.failure request errorCode messageCode) :=
  h

/-- The program leaves the fields alone, and what it refuses it does not refuse as
busy. -/
def Passes (thread : Nat) (m : Locked (Option Response)) : Prop :=
  ∀ f g, (outcomes thread).wpa m (fun r f' g' => f' = f ∧ Alongside g g' ∧
    ∀ response, r = some response → Unbusy response) f g

namespace Passes

variable {m : Locked (Option Response)}

theorem none : Passes thread (pure Option.none) :=
  fun _ g => ⟨rfl, .refl g, fun _ h => by cases h⟩

theorem some {response : Response} (h : Unbusy response) :
    Passes thread (pure (Option.some response)) :=
  fun _ g => ⟨rfl, .refl g, fun _ h' => Option.some.inj h' ▸ h⟩

theorem plain {m : Locked α} {n : α → Locked (Option Response)} (hm : Plain m)
    (hn : ∀ v, Passes thread (n v)) : Passes thread (m >>= n) := by
  intro f g
  refine wpa_seq (wpa_plain hm) ?_
  rintro v f1 g1 ⟨rfl, halong⟩
  refine wpa_mono (hn v f1 g1) ?_
  rintro r f2 g2 ⟨rfl, halong2, hr⟩
  exact ⟨rfl, halong.trans halong2, hr⟩

theorem bind {n : Option Response → Locked (Option Response)} (hm : Passes thread m)
    (hsome : ∀ response, Unbusy response → Passes thread (n (Option.some response)))
    (hnone : Passes thread (n Option.none)) : Passes thread (m >>= n) := by
  intro f g
  refine wpa_seq (hm f g) ?_
  rintro r f1 g1 ⟨rfl, halong, hr⟩
  have hrest : Passes thread (n r) := by
    rcases r with _ | response
    · exact hnone
    · exact hsome response (hr response rfl)
  refine wpa_mono (hrest f1 g1) ?_
  rintro r2 f2 g2 ⟨rfl, halong2, hr2⟩
  exact ⟨rfl, halong.trans halong2, hr2⟩

theorem ite {b : Prop} [Decidable b] {n : Locked (Option Response)} (hm : b → Passes thread m)
    (hn : ¬ b → Passes thread n) : Passes thread (if b then m else n) := by
  by_cases hb : b
  · rw [if_pos hb]
    exact hm hb
  · rw [if_neg hb]
    exact hn hb

end Passes

variable (context : Option Nat) (peer : Peer) (request : Request)

theorem passes_cancelledConnect : Passes thread (cancelledConnect context request) := by
  refine .ite (fun _ => .none) fun _ => .plain (.call rfl) fun cause => ?_
  rcases cause with _ | cause
  · exact .none
  · exact .some (by cases cause <;> exact unbusy_failure request (by decide))

theorem passes_changedNetwork (expected : Option ExpectedIdentity) :
    Passes thread (changedNetwork context request expected (pure ())) := by
  cases expected with
  | none => exact .none
  | some identity =>
    refine .plain (.call rfl) fun current => .ite (fun _ => .none) fun _ => ?_
    refine .plain (.pure _) fun _ => ?_
    exact .bind (passes_cancelledConnect context request) (fun _ h => .some h)
      (.some (unbusy_failure request (by decide)))

/-- A daemon at rest takes on a new runtime. -/
theorem passes_refuseConnect (expected : Option ExpectedIdentity) (result : HostResult)
    (hfree : ¬ (f.transaction ≠ none ∨ f.recoveryRequired = true)) :
    (outcomes thread).wpa (refuseConnect context request expected result)
      (fun r _ _ => ∀ response, r = some response → Unbusy response) f g := by
  unfold refuseConnect
  refine wpa_seq (passes_cancelledConnect context request f g) ?_
  rintro r f1 g1 ⟨rfl, -, hr⟩
  rcases r with _ | response
  swap
  · exact hr
  have hfailure : ∀ {errorCode messageCode : String}, errorCode ≠ "linux_runtime_busy" →
      ∀ response, some (Response.failure request errorCode messageCode) = some response →
        Unbusy response := by
    rintro errorCode messageCode h _ ⟨⟩
    exact h
  have hnone : ∀ response : Response, none = some response → Unbusy response := fun _ h => by cases h
  rw [wpa_ite]
  refine ⟨fun _ => hfailure (by decide), fun _ => ?_⟩
  refine wpa_seq (passes_changedNetwork context request expected f1 g1) ?_
  rintro r f2 g2 ⟨rfl, -, hr⟩
  rcases r with _ | response
  swap
  · exact hr
  rw [wpa_bind, wpa_get]
  cases expected with
  | none =>
    refine wpa_any fun boundOnly => wpa_ite.mpr ⟨fun _ => hfailure (by decide), fun _ => hnone⟩
  | some identity =>
    have hlook : Plain (do
        if ¬ f2.boundStageCurrent then return true
        if ¬ (← call .profilesBoundOnly) then return true
        return f2.stagedProfileDigest ≠ identity.profileSHA256 : Locked Bool) :=
      .ite (.pure _) (.bind (.call rfl) fun _ => .ite (.pure _) (.pure _))
    refine wpa_seq (wpa_plain hlook) ?_
    rintro mismatch f3 g3 ⟨rfl, -⟩
    rw [wpa_ite, wpa_ite]
    exact ⟨fun _ => hfailure (by decide), fun _ => ⟨fun hbusy => absurd hbusy hfree, fun _ => hnone⟩⟩

theorem wpa_stageProfile {P : Payloads}
    (hfree : ¬ (f.transaction ≠ none ∨ f.recoveryRequired = true)) :
    (outcomes thread).wpa (stageProfile P request) (fun response _ _ => Unbusy response) f g := by
  unfold stageProfile
  rw [wpa_bind, wpa_get, wpa_ite]
  refine ⟨fun hbusy => absurd hbusy hfree, fun _ => wpa_any fun result => ?_⟩
  rw [wpa_ite]
  refine ⟨fun _ => unbusy_failure request (by decide), fun _ => ?_⟩
  cases P.stage request.payload with
  | none => exact unbusy_failure request (by decide)
  | some stage =>
    refine wpa_any fun staged => ?_
    cases staged with
    | none => exact unbusy_failure request (by decide)
    | some staged =>
      dsimp only
      rw [wpa_bind, wpa_modify, wpa_bind]
      refine wpa_mono (wpa_plain (plain_snapshot result)) fun shown _ _ _ => ?_
      show "" ≠ "linux_runtime_busy"
      decide

theorem AtRest.vacant {P : Payloads} {ownership : Ownership} (h : AtRest f ownership) :
    Vacant P f := by
  have hfree : ¬ (f.transaction ≠ none ∨ f.recoveryRequired = true) := by
    simp [h.transaction, h.recovery]
  have anywhere : Shared × Bool := (.new false, false)
  refine ⟨fun result tr shown f' hrun => ?_, fun request tr response f' hrun => ?_,
    fun context request expected result tr response f' hrun => ?_⟩
  · have hpends : Pends f shown := ((yields_snapshot_plain result f).steps hrun).2.2.2
    cases hpending : shown.connectionPending with
    | false => rfl
    | true => exact absurd (hpends hpending).symm hfree
  · exact outcomes_run 0 anywhere (wpa_stageProfile request hfree) hrun
  · exact outcomes_run 0 anywhere
      (passes_refuseConnect context request expected result hfree) hrun response rfl

theorem stopsAtRest_iff {s : Shared}
    (hrest : f.transaction = none → f.core = none ∧ s.ownership.boundConnectRequestID = "") :
    StopsAtRest thread f s ↔ ¬ Stranded f := by
  constructor
  · rintro hstop ⟨hsome, hrecovery⟩
    obtain ⟨transaction, htransaction⟩ := Option.ne_none_iff_exists'.mp hsome
    have hfalse := (hstop _ _ (steps_stop htransaction)).recovery
    exact absurd (hrecovery.symm.trans hfalse) (by simp)
  · intro hkept tr f' hrun
    have h := outcomes_run thread (s, false) (wpa_stop hkept hrest) hrun
    rw [after_outcomes] at h
    exact h.1 rfl

/-! ## Disconnecting and connecting -/

theorem wpa_disconnect (hkept : ¬ Stranded f)
    (hrest : f.transaction = none → f.core = none ∧ g.1.ownership.boundConnectRequestID = "") :
    (outcomes thread).wpa (disconnect request) (fun response f' g' => response.ok = true →
      AtRest f' g'.1.ownership ∧
        ∀ shown, response.snapshot = some shown → shown.connectionPending = false) f g := by
  unfold disconnect
  refine wpa_seq (wpa_stop hkept hrest) ?_
  rintro stopped f1 g1 ⟨hstopped, -⟩
  rw [wpa_ite]
  refine ⟨fun _ hok => Bool.noConfusion hok, fun hdone => ?_⟩
  have h1 : AtRest f1 g1.1.ownership := hstopped (by simpa using hdone)
  rw [wpa_bind, wpa_modify]
  refine wpa_any fun exist => ?_
  dsimp only
  rw [wpa_bind, wpa_modify]
  refine wpa_any fun result => ?_
  refine wpa_seq (wpa_yields ((yields_snapshot_plain result _).mono (fun _ => id)
    fun _ h => ⟨h.1, h.2.2.2⟩)) ?_
  rintro shown f2 g2 ⟨rfl, hpends, halong⟩ -
  refine ⟨⟨h1.transaction, h1.core, halong.owner.trans h1.owner, h1.recovery⟩, ?_⟩
  rintro _ ⟨⟩
  cases hpending : shown.connectionPending with
  | false => rfl
  | true =>
    rcases hpends hpending with h | h
    · exact absurd (h1.recovery.symm.trans h) (by simp)
    · exact absurd h1.transaction h

/-- A connect that has begun to restore and is left without a transaction is at
rest. -/
def Undone (f : Fields) (g : Shared × Bool) : Prop :=
  g.2 = true → f.transaction = none → AtRest f g.1.ownership

theorem Undone.of_flag {f : Fields} {g : Shared × Bool} (h : g.2 = false) : Undone f g :=
  fun hflag => absurd (h.symm.trans hflag) (by simp)

theorem wpa_stopConnected (networkChanged : Bool) (htransaction : f.transaction ≠ none)
    (hrecovery : f.recoveryRequired = false) :
    (outcomes thread).wpa (stopConnected context request networkChanged)
      (fun _ f' g' => Undone f' g') f g := by
  unfold stopConnected
  refine wpa_seq (wpa_stop (by simp [Stranded, hrecovery]) fun h => absurd h htransaction) ?_
  rintro stopped f1 g1 ⟨hdone, hfailed⟩
  rw [wpa_ite]
  refine ⟨fun hstopped _ hnone => ?_, fun hstopped => ?_⟩
  · exact absurd hnone (hfailed htransaction (by simpa using hstopped))
  have h1 : AtRest f1 g1.1.ownership := hdone (by simpa using hstopped)
  rw [wpa_bind, wpa_modify, wpa_ite]
  refine ⟨fun _ _ _ => ⟨h1.transaction, h1.core, h1.owner, h1.recovery⟩, fun _ => ?_⟩
  refine wpa_any fun cause => ?_
  rcases cause with _ | cause
  · exact fun _ _ => ⟨h1.transaction, h1.core, h1.owner, h1.recovery⟩
  · exact fun _ _ => ⟨h1.transaction, h1.core, h1.owner, h1.recovery⟩

theorem wpa_finishConnect (expected : Option ExpectedIdentity) (result : HostResult) (core : Nat)
    (htransaction : f.transaction ≠ none) (hrecovery : f.recoveryRequired = false)
    (hflag : g.2 = false) :
    (outcomes thread).wpa (finishConnect context request expected result core)
      (fun _ f' g' => Undone f' g') f g := by
  unfold finishConnect
  rw [wpa_bind, wpa_modify, wpa_bind]
  refine wpa_mono (Q := fun _ f' g' =>
    f' = { f with phase := .running, lastFailure := "" } ∧ g'.2 = false) ?_ ?_
  · cases expected with
    | none =>
      refine wpa_any fun health => ⟨rfl, ?_⟩
      simp [isRestore, hflag]
    | some identity => exact ⟨rfl, hflag⟩
  rintro health f1 g1 ⟨rfl, hflag1⟩
  refine wpa_seq (wpa_plain (plain_lateRefusal context expected)) ?_
  rintro refusal f2 g2 ⟨rfl, halong⟩
  have hflag2 : g2.2 = false := halong.flag.trans hflag1
  rcases refusal with _ | networkChanged
  · dsimp only
    rw [wpa_bind, wpa_modify]
    refine wpa_any fun _ => ?_
    refine wpa_seq (wpa_plain (plain_snapshot result)) ?_
    rintro shown f3 g3 ⟨rfl, halong3⟩
    exact .of_flag (halong3.flag.trans (by simp [isRestore, hflag2]))
  · exact wpa_stopConnected context request networkChanged htransaction hrecovery

theorem wpa_executeFailure (core : Nat) (restored : Bool) (hflag : g.2 = false) :
    (outcomes thread).wpa (executeFailure context request core restored)
      (fun _ f' g' => Undone f' g') f g := by
  unfold executeFailure
  rw [wpa_bind, wpa_modify, wpa_ite]
  refine ⟨fun _ => Undone.of_flag hflag, fun _ => ?_⟩
  refine wpa_seq wpa_clearRuntime ?_
  rintro _ f1 g1 ⟨rfl, -, hsame⟩
  refine wpa_seq (passes_cancelledConnect context request _ g1) ?_
  rintro r f2 g2 ⟨rfl, halong, -⟩
  have hflag2 : g2.2 = false := halong.flag.trans (hsame.trans hflag)
  rcases r with _ | response
  · refine wpa_any fun expired => wpa_ite.mpr ⟨fun _ => .of_flag ?_, fun _ => .of_flag ?_⟩
    · simp [isRestore, hflag2]
    · simp [isRestore, hflag2]
  · exact Undone.of_flag hflag2

theorem wpa_startConnect (expected : Option ExpectedIdentity) (result : HostResult)
    (transaction core : Nat) (hrecovery : f.recoveryRequired = false) (hflag : g.2 = false) :
    (outcomes thread).wpa (startConnect context peer request expected result transaction core)
      (fun _ f' g' => Undone f' g') f g := by
  unfold startConnect
  rw [wpa_bind, wpa_modify, wpa_bind]
  refine wpa_mono (Q := fun _ f' g' =>
    f' = { f with core := some core, transaction := some transaction } ∧ g'.2 = false) ?_ ?_
  · cases expected with
    | none => exact ⟨rfl, hflag⟩
    | some identity => exact fun _ _ => ⟨trivial, rfl, by simp [outcomes, isRestore, hflag]⟩
  rintro _ f1 g1 ⟨rfl, hflag1⟩
  refine wpa_any fun execution => ?_
  have hflag2 : (g1.2 || isRestore (.execute transaction core)) = false := by
    simp [isRestore, hflag1]
  cases execution with
  | active =>
    exact wpa_finishConnect context request expected result core (Option.some_ne_none _)
      hrecovery hflag2
  | restored => exact wpa_executeFailure context request core true hflag2
  | dirty => exact wpa_executeFailure context request core false hflag2

theorem wpa_prepareConnect (expected : Option ExpectedIdentity) (result : HostResult)
    (hrecovery : f.recoveryRequired = false) (hflag : g.2 = false) :
    (outcomes thread).wpa (prepareConnect context peer request expected result)
      (fun _ f' g' => Undone f' g') f g := by
  unfold prepareConnect
  refine wpa_any fun exist => wpa_ite.mpr ⟨fun _ => .of_flag ?_, fun _ => ?_⟩
  · simp [isRestore, hflag]
  refine wpa_seq (wpa_plain (plain_newTransaction request)) ?_
  rintro transaction f1 g1 ⟨rfl, halong⟩
  have hflag1 : g1.2 = false := halong.flag.trans (by simp [isRestore, hflag])
  cases transaction with
  | none => exact Undone.of_flag hflag1
  | some transaction =>
    refine wpa_any fun prepared => ?_
    have hflag2 : (g1.2 || isRestore (.prepare expected)) = false := by simp [isRestore, hflag1]
    cases prepared with
    | error error =>
      dsimp only [prepareFailure]
      refine wpa_seq (passes_cancelledConnect context request _ _) ?_
      rintro r f2 g2 ⟨rfl, halong2, -⟩
      have hflag3 : g2.2 = false := halong2.flag.trans hflag2
      rcases r with _ | response
      · cases error <;> exact Undone.of_flag hflag3
      · exact Undone.of_flag hflag3
    | ok core =>
      have habort : Plain (call (.abortPrepared core) : Locked Unit) := .call rfl
      dsimp only
      refine wpa_seq (wpa_plain
        (declines_changedNetwork context request expected habort).looks) ?_
      rintro r f2 g2 ⟨rfl, halong2⟩
      have hflag3 : g2.2 = false := halong2.flag.trans hflag2
      rcases r with _ | response
      · exact wpa_startConnect context peer request expected result transaction core
          hrecovery hflag3
      · exact Undone.of_flag hflag3

theorem wpa_connect (expected : Option ExpectedIdentity) (hflag : g.2 = false) :
    (outcomes thread).wpa (connect context peer request expected)
      (fun _ f' g' => Undone f' g') f g := by
  unfold connect
  refine wpa_any fun result => ?_
  refine wpa_seq (wpa_plain (declines_refuseConnect context request expected result).looks) ?_
  rintro r f1 g1 ⟨rfl, halong⟩
  have hflag1 : g1.2 = false := halong.flag.trans (by simp [isRestore, hflag])
  rcases r with _ | response
  swap
  · exact Undone.of_flag hflag1
  dsimp only
  rw [wpa_bind]
  have hrecovered : (outcomes thread).wpa (do
      if ¬ (← get).recoveryRequired then return true
      return (← recoverPending) = none : Locked Bool) (fun recovered f' g' => g'.2 = false ∧
        (recovered = true → f'.recoveryRequired = false)) f1 g1 := by
    rw [wpa_bind, wpa_get, wpa_ite]
    refine ⟨fun hrecovery => ⟨hflag1, fun _ => by simpa using hrecovery⟩, fun _ => ?_⟩
    refine wpa_seq wpa_recoverPending ?_
    rintro r f2 g2 ⟨hsame, hcases⟩
    refine ⟨hsame.trans hflag1, fun hdone => ?_⟩
    rcases hcases with ⟨-, rfl, -⟩ | ⟨-, hrest⟩ | ⟨hfailed, -⟩
    · rfl
    · exact hrest.recovery
    · exact absurd (by simpa using hdone) hfailed
  refine wpa_mono hrecovered ?_
  rintro recovered f2 g2 ⟨hflag2, hdone⟩
  rw [wpa_ite]
  refine ⟨fun _ => Undone.of_flag hflag2, fun hrecovered => ?_⟩
  have hrecovery : f2.recoveryRequired = false := hdone (by simpa using hrecovered)
  rw [wpa_bind, wpa_get, wpa_ite]
  refine ⟨fun _ => wpa_ite.mpr ⟨fun _ => ?_, fun _ => Undone.of_flag hflag2⟩, fun _ => ?_⟩
  · refine wpa_seq (wpa_plain (plain_snapshot result)) ?_
    rintro shown f3 g3 ⟨rfl, halong3⟩
    exact Undone.of_flag (halong3.flag.trans hflag2)
  · exact wpa_prepareConnect context peer request expected result hrecovery hflag2

end Outcomes

/-! ## Every reachable state -/

/-- **A stop leaves the daemon idle** exactly when it does not start stranded. From
every state in which the lock is free, whatever `Restore` and the recovery answer, a
stop without an error then ends at rest, and a disconnect that succeeds shows no
pending connection and leaves nothing that a later request is refused for. The stop
inside a connect never starts stranded. -/
theorem stop_idle_iff (P : Payloads) (p : Pool Daemon Shared Task Reply) (h : Reachable P p)
    (hfree : p.shared.mu = none) (thread : Nat) :
    (StopsClean P thread p.shared.fields p.shared ↔ ¬ Stranded p.shared.fields) ∧
    ∀ context peer request expected tr response f',
      Steps (connect context peer request expected p.shared.fields) tr (.ret (response, f')) →
      (∃ transaction restored, (⟨.restore transaction, restored⟩ : Event Daemon) ∈ tr) →
      f'.transaction = none → AtRest f' (p.shared.along thread tr).ownership := by
  obtain ⟨register, hregistered⟩ := h.registered
  have hinv : RegisterInv (p.shared, register) := (good_of_registered hregistered).1
  have hrest : p.shared.fields.transaction = none → p.shared.fields.core = none ∧
      p.shared.ownership.boundConnectRequestID = "" := by
    intro hnone
    obtain ⟨hcore, howner⟩ := (hinv.vouched hfree).owed hnone
    exact ⟨hcore, hinv.owner.symm.trans howner⟩
  refine ⟨⟨fun hclean => (stopsAtRest_iff hrest).mp hclean.stop, fun hkept => ?_⟩, ?_⟩
  · refine ⟨(stopsAtRest_iff hrest).mpr hkept, fun request tr response f' hrun hok => ?_⟩
    have h := outcomes_run thread (p.shared, false)
      (wpa_disconnect request hkept hrest) hrun hok
    rw [after_outcomes] at h
    exact ⟨h.1, h.1.vacant, h.2⟩
  · rintro context peer request expected tr response f' hrun ⟨transaction, restored, hmem⟩ hnone
    have h := outcomes_run thread (p.shared, false)
      (wpa_connect context peer request expected rfl) hrun
    rw [after_outcomes] at h
    refine h ?_ hnone
    simp only [Bool.false_or, List.any_eq_true]
    exact ⟨_, hmem, rfl⟩

/-! ## Schedules -/

/-- What goes wrong while a runtime is stopped. -/
structure Mishap where
  restores : Bool := true
  exited : Bool := false
  recovers : Bool := true

/-- A healthy world but for the stop. -/
def mishapPlayer (P : Payloads) : Player (daemon P) Mishap where
  startTask := Shared.startTask
  respond := fun mishap thread s c =>
    match c with
    | .restore transaction => some (mishap.restores, s.effect thread (.restore transaction))
    | .coreExited core => some (mishap.exited, s.effect thread (.coreExited core))
    | .recoverSystem =>
      some (if mishap.recovers then .ok false else .error .other, s.effect thread .recoverSystem)
    | c => (player P).respond true thread s c
  starts := starts_startTask
  executes := by
    intro mishap thread s s' c r h
    dsimp only at h
    split at h
    · cases h
      exact ⟨trivial, rfl⟩
    · cases h
      exact ⟨trivial, rfl⟩
    · cases h
      exact ⟨trivial, rfl⟩
    · exact (player P).executes h

def disconnectRequest : Request := ⟨"disconnect", .disconnect, "", by decide⟩

/-- A bound connect, and then disconnects. -/
def disconnectSchedule : List Mishap → List (Move Task Mishap)
  | mishaps => ([.start (.request samplePeer stageRequest), .go 0 100 {},
      .start (.request samplePeer connectR), .go 1 100 {}] : List (Move Task Mishap)) ++
    mishaps.zipIdx.flatMap fun (mishap, i) =>
      [.start (.request samplePeer disconnectRequest), .go (i + 2) 100 mishap]

def disconnected (mishaps : List Mishap) : Pool Daemon Shared Task Reply :=
  (mishapPlayer samplePayloads).play ⟨.new true, []⟩ (disconnectSchedule mishaps)

theorem reachable_disconnected (mishaps : List Mishap) :
    Reachable samplePayloads (disconnected mishaps) :=
  ⟨true, (mishapPlayer samplePayloads).run_play _ _⟩

/-- The running daemon can be stopped. -/
theorem disconnected_stopsClean :
    (disconnected []).shared.fields.transaction ≠ none ∧
      StopsClean samplePayloads 2 (disconnected []).shared.fields (disconnected []).shared := by
  have h := stop_idle_iff samplePayloads (disconnected []) (reachable_disconnected [])
    (by decide +kernel) 2
  exact ⟨by decide +kernel, h.1.mpr (by decide +kernel)⟩

/-- A restoration fails after its Core has exited, and so does the recovery. -/
def failedStop : Mishap := ⟨false, true, false⟩

/-- The disconnect that follows a failed one succeeds and leaves the daemon busy. -/
theorem stop_not_idle :
    ¬ ∀ (p : Pool Daemon Shared Task Reply) (thread : Nat), Reachable samplePayloads p →
      p.shared.mu = none → StopsClean samplePayloads thread p.shared.fields p.shared := by
  intro hclean
  have h := (hclean (disconnected [failedStop]) 3 (reachable_disconnected _)
    (by decide +kernel)).stop
  have hstranded : Stranded (disconnected [failedStop]).shared.fields := by decide +kernel
  obtain ⟨hsome, hrecovery⟩ := hstranded
  obtain ⟨transaction, htransaction⟩ := Option.ne_none_iff_exists'.mp hsome
  have hfalse := (h _ _ (steps_stop htransaction)).recovery
  exact absurd (hrecovery.symm.trans hfalse) (by simp)

/-- What the two requests after a failed stop are told. -/
example : ((disconnected [failedStop, {}]).answer 3).bind (fun reply =>
    reply.response.bind fun response => response.snapshot.map fun shown =>
      (response.ok, shown.connectionPending)) = some (true, true) := by decide +kernel

end Pokrov.Linux.Service
