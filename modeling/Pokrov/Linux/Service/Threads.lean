import Pokrov.Linux.Service.Reading

/-!
# Every thread of the daemon keeps the ownership

The outline of the proof that the daemon keeps its invariant, and the programs
that the threads run. A program under `mu` keeps `Inside`: the thread holds the
lock, an owned runtime has a transaction, and the call that the thread has begun
is still its own.
-/

namespace Pokrov.Linux.Service

open Effects Outline

/-! ## The outline -/

/-- A call of this peer and this name is done and stopped. -/
def Finished (peer : Peer) (requestID : String) (s : Shared) : Prop :=
  ∃ call c, s.At call c ∧ c.requestID = requestID ∧ c.peer = peer ∧ c.done = true ∧
    c.stopped = true

/-- The reply settles a cancellation. -/
def Settles (reply : Reply) (peer : Peer) (requestID : String) : Prop :=
  ∃ request response, reply.task = .request peer request ∧ request.action = .cancelConnect ∧
    reply.response = some response ∧ response.connectCancellation = some ⟨requestID, true⟩

theorem Finished.rely {peer : Peer} {requestID : String} {thread : Nat} {s s' : Shared}
    (h : Finished peer requestID s) (hrely : Rely thread s s') : Finished peer requestID s' := by
  obtain ⟨call, c, hc, hr, hp, hd, hs⟩ := h
  obtain ⟨c', hc', hb⟩ := hrely.calls call c hc
  exact ⟨call, c', hc', hb.requestID.trans hr, hb.peer.trans hp, hb.done hd, hb.stopped hd hs⟩

def outline (P : Payloads) : Outline (daemon P) where
  inv := Inv
  rely := Rely
  pre := fun _ _ _ => True
  post := fun _ reply s => ∀ peer requestID, Settles reply peer requestID →
    Finished peer requestID s
  refl := Rely.refl
  trans := Rely.trans

/-! ## Programs that ownership does not depend on -/

section Rules

variable {P : Payloads} {σ α β : Type} {thread : Nat}

/-- A call that ownership does depend on, and what follows it. -/
theorem safea_step {c : DaemonCall} {k : c.Answer → Act Daemon σ α} {Q : α → σ → Shared → Prop}
    {f : σ} {s : Shared}
    (h : ∀ s1, Rely thread s s1 → Inv s1 → ∀ r, s1.allows thread ⟨c, r⟩ →
      Allowed thread s1 (s1.effect thread c) ∧
        (outline P).safea thread (k r) Q f (s1.effect thread c)) :
    (outline P).safea thread (call c >>= k) Q f s := by
  rintro s1 hrely hinv r s2 ⟨hallows, rfl⟩
  obtain ⟨hallowed, hrest⟩ := h s1 hrely hinv r hallows
  exact ⟨hallowed.1, hallowed.2, hrest⟩

/-- A call that it does not depend on. -/
theorem safea_benign {c : DaemonCall} {k : c.Answer → Act Daemon σ α}
    {Q : α → σ → Shared → Prop} {f : σ} {s : Shared} (hc : benign c = true)
    (h : ∀ s1, Rely thread s s1 → Inv s1 → ∀ r, s1.allows thread ⟨c, r⟩ →
      (outline P).safea thread (k r) Q f (s1.effect thread c)) :
    (outline P).safea thread (call c >>= k) Q f s :=
  safea_step fun s1 hrely hinv r hallows =>
    ⟨.of_same hinv (same_effect thread hc), h s1 hrely hinv r hallows⟩

variable (P)

/-- The program keeps whatever outlasts the steps of the others. -/
def Calm (m : Act Daemon σ α) : Prop :=
  ∀ thread (A : σ → Shared → Prop), (∀ f s s', A f s → Rely thread s s' → A f s') →
    ∀ f s, A f s → (outline P).safea thread m (fun _ f' s' => A f' s') f s

variable {P}

namespace Calm

theorem pure (a : α) : Calm P (pure a : Act Daemon σ α) :=
  fun _ _ hA f s h s1 hrely => hA f s s1 h hrely

theorem get : Calm P (MonadState.get : Act Daemon σ σ) :=
  fun _ _ hA f s h s1 hrely => hA f s s1 h hrely

theorem bind {m : Act Daemon σ α} {n : α → Act Daemon σ β} (hm : Calm P m)
    (hn : ∀ a, Calm P (n a)) : Calm P (m >>= n) := by
  intro thread A hA f s h
  exact safea_seq (hm thread A hA f s h) fun a f' s' h' => hn a thread A hA f' s' h'

theorem ite {b : Prop} [Decidable b] {m n : Act Daemon σ α} (hm : Calm P m) (hn : Calm P n) :
    Calm P (if b then m else n) := by
  split
  · exact hm
  · exact hn

theorem call {c : DaemonCall} (hc : benign c = true) :
    Calm P (call c : Act Daemon σ c.Answer) := by
  rintro thread A hA f s h s1 hrely hinv r s2 ⟨-, rfl⟩
  have hsame := same_effect (s := s1) thread hc
  have hallowed : Allowed thread s1 (s1.effect thread c) := .of_same hinv hsame
  refine ⟨hallowed.1, hallowed.2, fun s3 hrely' => ?_⟩
  exact hA _ _ _ (hA _ _ _ (hA _ _ _ h hrely) (.of_same hsame thread)) hrely'

theorem connectMu {sec : Section} (hsec : sec.benign = true) :
    Calm P (connectMu sec : Act Daemon σ sec.Answer) :=
  call (c := .connectMu sec) hsec

end Calm

/-- A program that only looks keeps everything. -/
theorem Looks.calm {m : Act Daemon σ α} (hm : Quiet m) : Calm P m := by
  intro thread A hA f s h
  refine (outline P).safe_mono ((outline P).safe_of_yields ?_ (fun s s' hrely h => hA f s s' h hrely)
    (hm f) h) ?_
  · rintro s s' e hquiet hinv h ⟨-, rfl⟩
    have hsame := same_effect (s := s) thread (benign_of_quiet hquiet)
    have hallowed : Allowed thread s (s.effect thread e.call) := .of_same hinv hsame
    exact ⟨hallowed.1, hallowed.2, hA _ _ _ h (.of_same hsame thread)⟩
  · rintro x s' ⟨hx, h⟩
    obtain rfl : x.2 = f := hx
    exact h

end Rules

variable {P : Payloads}

/-! ## Programs under the lock -/

/-- The call that a thread has begun, and whether it is still fresh. -/
def Begun (thread : Nat) (mine : Option (Nat × String)) (fresh : Bool) (s : Shared) : Prop :=
  ∀ call requestID, mine = some (call, requestID) →
    Mine thread call requestID s ∧ (fresh = true → Fresh call s)

theorem Begun.rely {thread : Nat} {mine : Option (Nat × String)} {fresh : Bool} {s s' : Shared}
    (h : Begun thread mine fresh s) (hrely : Rely thread s s') : Begun thread mine fresh s' := by
  intro call requestID hmine
  obtain ⟨hm, hf⟩ := h call requestID hmine
  exact ⟨hrely.mine call requestID hm, fun hfresh => hrely.fresh call requestID hm (hf hfresh)⟩

structure Inside (thread : Nat) (mine : Option (Nat × String)) (fresh : Bool) (f : Fields)
    (s : Shared) : Prop where
  held : s.mu = some thread
  transaction : s.ownership.boundConnectRequestID ≠ "" → f.transaction ≠ none
  begun : Begun thread mine fresh s

theorem Inside.rely {thread : Nat} {mine : Option (Nat × String)} {fresh : Bool} {f : Fields}
    {s s' : Shared} (h : Inside thread mine fresh f s) (hrely : Rely thread s s') :
    Inside thread mine fresh f s' := by
  obtain ⟨hmu, hown⟩ := hrely.held h.held
  refine ⟨hmu, ?_, h.begun.rely hrely⟩
  rw [hown]
  exact h.transaction

/-- The program keeps what holds inside the lock. -/
def Keeps (P : Payloads) {α : Type} (m : Locked α) : Prop :=
  ∀ thread mine fresh f s, Inside thread mine fresh f s →
    (outline P).safea thread m (fun _ f' s' => Inside thread mine fresh f' s') f s

namespace Keeps

variable {α β : Type}

theorem calm {m : Locked α} (h : Calm P m) : Keeps P m :=
  fun thread mine fresh f s hinside =>
    h thread (Inside thread mine fresh) (fun _ _ _ h' hrely => h'.rely hrely) f s hinside

theorem pure (a : α) : Keeps P (pure a) := calm (.pure a)

theorem get : Keeps P MonadState.get := calm .get

theorem call {c : DaemonCall} (hc : benign c = true) : Keeps P (call c) := calm (.call hc)

theorem modify {g : Fields → Fields}
    (hg : ∀ f, f.transaction ≠ none → (g f).transaction ≠ none) :
    Keeps P (MonadStateOf.modifyGet fun f => ((), g f)) := by
  intro thread mine fresh f s h s1 hrely
  have h1 := h.rely hrely
  exact ⟨h1.held, fun hne => hg f (h1.transaction hne), h1.begun⟩

theorem bind {m : Locked α} {n : α → Locked β} (hm : Keeps P m) (hn : ∀ a, Keeps P (n a)) :
    Keeps P (m >>= n) := by
  intro thread mine fresh f s h
  exact safea_seq (hm thread mine fresh f s h)
    fun a f' s' h' => hn a thread mine fresh f' s' h'

theorem ite {b : Prop} [Decidable b] {m n : Locked α} (hm : Keeps P m) (hn : Keeps P n) :
    Keeps P (if b then m else n) := by
  split
  · exact hm
  · exact hn

end Keeps

theorem keeps_runtimeFailure (request : Request) : Keeps P (runtimeFailure request) :=
  .bind (.modify fun _ h => h) fun _ => .pure _

/-- The transaction goes together with its owner. -/
theorem keeps_clearRuntime : Keeps P clearRuntime := by
  intro thread mine fresh f s h
  unfold clearRuntime
  refine safea_bind fun s1 hrely => ?_
  rintro s2 hrely2 hinv r s3 ⟨-, rfl⟩
  have h2 := (h.rely hrely).rely hrely2
  have hallowed := allowed_release hinv h2.held
  refine ⟨hallowed.1, hallowed.2, fun s4 hrely4 => Inside.rely ⟨?_, ?_, ?_⟩ hrely4⟩
  · exact (release_fields s2).1.trans h2.held
  · show s2.releaseBoundConnect.ownership.boundConnectRequestID ≠ "" → _
    rw [(release_fields s2).2.2.1]
    exact fun hne => absurd rfl hne
  · intro call requestID hm
    obtain ⟨hmine, hfresh⟩ := h2.begun call requestID hm
    exact ⟨hmine.release, fun hf => (hfresh hf).release hinv⟩

theorem keeps_recoverPending : Keeps P recoverPending := by
  refine .bind (.call rfl) fun outcome => ?_
  cases outcome with
  | error error => exact .bind (.modify fun _ h => h) fun _ => .pure _
  | ok found =>
    refine .bind (.modify fun _ h => h) fun _ => .ite (.pure _) ?_
    refine .bind keeps_clearRuntime fun _ => .bind (.modify fun _ h => h) fun _ => ?_
    exact .bind (.call rfl) fun _ => .bind (.modify fun _ h => h) fun _ => .pure _

theorem keeps_recoverExited : Keeps P recoverExited := by
  refine .bind .get fun f => ?_
  cases f.core with
  | none => exact .pure _
  | some core =>
    refine .bind (.call rfl) fun exited => .ite (.pure _) ?_
    exact .bind keeps_recoverPending fun _ => .ite (.pure _) (.bind .get fun _ => .pure _)

theorem keeps_stop : Keeps P stop := by
  refine .bind .get fun f => ?_
  cases f.transaction with
  | none => exact .ite (.pure _) (.bind keeps_recoverPending fun _ => .pure _)
  | some transaction =>
    refine .bind (.call rfl) fun restored => .ite ?_ ?_
    · exact .bind keeps_clearRuntime fun _ => .bind (.modify fun _ h => h) fun _ => .pure _
    · refine .bind keeps_recoverExited fun recovered => .ite (.pure _) ?_
      exact .bind (.modify fun _ h => h) fun _ => .pure _

theorem keeps_settleExitedCore (core : Nat) : Keeps P (settleExitedCore core) := by
  refine .bind (.call rfl) fun expired => .bind keeps_stop fun stopped => ?_
  exact .ite (.modify fun _ h => h) (.pure _)

theorem keeps_awaitTunnelGone (error : RecoverError) (rounds : Nat) :
    Keeps P (awaitTunnelGone error rounds) := by
  induction rounds with
  | zero => exact .pure _
  | succ rounds ih =>
    refine .bind (.call rfl) fun observed => ?_
    cases observed with
    | timeout => exact .pure _
    | unreadable => exact .pure _
    | live => exact ih
    | gone => exact keeps_recoverPending

theorem keeps_recover : Keeps P recover := by
  refine .bind keeps_recoverPending fun outcome => ?_
  split
  · exact keeps_awaitTunnelGone _ _
  · exact .pure _

theorem keeps_close : Keeps P close :=
  .bind (.modify fun _ h => h) fun _ => .bind (.call rfl) fun _ => keeps_stop

theorem keeps_stageProfile (request : Request) : Keeps P (stageProfile P request) := by
  refine .bind .get fun f => .ite (.pure _) (.bind (.call rfl) fun result => .ite (.pure _) ?_)
  cases P.stage request.payload with
  | none => exact .pure _
  | some stage =>
    refine .bind (.call rfl) fun staged => ?_
    cases staged with
    | none => exact .bind (.modify fun _ h => h) fun _ => .pure _
    | some staged =>
      refine .bind (.modify fun _ h => h) fun _ => ?_
      exact .bind (.calm (quiet_snapshot result).calm) fun _ => .pure _

theorem keeps_invalidateProfile (request : Request) : Keeps P (invalidateProfile request) := by
  refine .bind .get fun f => .ite (.pure _) (.bind (.call rfl) fun _ => .ite (.pure _) ?_)
  exact .bind (.modify fun _ h => h) fun _ => .calm (quiet_succeed request).calm

theorem keeps_status (request : Request) : Keeps P (status request) := by
  refine .bind .get fun f => ?_
  cases f.core with
  | none => exact .calm (quiet_succeed request).calm
  | some core =>
    refine .bind (.call rfl) fun exited => .ite ?_ (.calm (quiet_succeed request).calm)
    exact .bind (keeps_settleExitedCore core) fun _ => .calm (quiet_succeed request).calm

theorem keeps_initializeHost (request : Request) : Keeps P (initializeHost request) := by
  refine .bind (.call rfl) fun result => .bind .get fun f => ?_
  refine .bind (.ite (.pure _) (.call rfl)) fun inventory => .bind (.modify fun _ h => h) fun _ => ?_
  exact .bind (.calm (quiet_snapshot result).calm) fun _ => .pure _

theorem keeps_disconnect (request : Request) : Keeps P (disconnect request) := by
  refine .bind keeps_stop fun stopped => .ite (keeps_runtimeFailure request) ?_
  refine .bind (.modify fun _ h => h) fun _ => .bind (.call rfl) fun _ => ?_
  refine .bind (.modify fun _ h => h) fun _ => .bind (.call rfl) fun result => ?_
  exact .bind (.calm (quiet_snapshot result).calm) fun _ => .pure _

theorem keeps_stopWatched (peer : Peer) (requestID : String) (networkChanged : Bool) :
    Keeps P (stopWatched peer requestID networkChanged) := by
  refine .bind (.call rfl) fun ownership => .ite ?_ (.pure _)
  exact .bind keeps_stop fun stopped => .ite (.modify fun _ h => h) (.pure _)

theorem keeps_stopUnacknowledged (request : Request) : Keeps P (stopUnacknowledged request) :=
  .bind keeps_stop fun _ => .pure _

/-! ### Connecting -/

theorem keeps_prepareFailure (context : Option Nat) (request : Request) (error : PrepareError) :
    Keeps P (prepareFailure context request error) := by
  refine .bind (.calm (refusing_cancelledConnect context request).looks.calm) fun r => ?_
  cases r with
  | some response => exact .pure _
  | none =>
    cases error with
    | deadline => exact .pure _
    | identityMismatch => exact .pure _
    | other => exact keeps_runtimeFailure request

theorem keeps_executeFailure (context : Option Nat) (request : Request) (core : Nat)
    (restored : Bool) : Keeps P (executeFailure context request core restored) := by
  refine .bind (.modify fun _ h => h) fun _ => .ite (keeps_runtimeFailure request) ?_
  refine .bind keeps_clearRuntime fun _ => ?_
  refine .bind (.calm (refusing_cancelledConnect context request).looks.calm) fun r => ?_
  cases r with
  | some response => exact .bind (.modify fun _ h => h) fun _ => .pure _
  | none =>
    refine .bind (.call rfl) fun expired => .ite ?_ (keeps_runtimeFailure request)
    exact .bind (.modify fun _ h => h) fun _ => .pure _

theorem keeps_stopConnected (context : Option Nat) (request : Request) (networkChanged : Bool) :
    Keeps P (stopConnected context request networkChanged) := by
  refine .bind keeps_stop fun stopped => .ite (keeps_runtimeFailure request) ?_
  refine .bind (.modify fun _ h => h) fun _ => .ite ?_ ?_
  · exact .bind (.modify fun _ h => h) fun _ => .pure _
  · refine .bind (.call rfl) fun cause => ?_
    cases cause with
    | none => exact .pure _
    | some cause => exact .pure _

theorem keeps_finishConnect (context : Option Nat) (request : Request)
    (expected : Option ExpectedIdentity) (result : HostResult) (core : Nat) :
    Keeps P (finishConnect context request expected result core) := by
  refine .bind (.modify fun _ h => h) fun _ => .bind ?_ fun health => ?_
  · cases expected with
    | none => exact .bind (.call rfl) fun _ => .pure _
    | some identity => exact .pure _
  · refine .bind (.calm (quiet_lateRefusal context expected).calm) fun refusal => ?_
    cases refusal with
    | some networkChanged => exact keeps_stopConnected context request networkChanged
    | none =>
      refine .bind (.modify fun _ h => h) fun _ => .bind (.call rfl) fun _ => ?_
      exact .bind (.calm (quiet_snapshot result).calm) fun _ => .pure _

theorem keeps_execute (context : Option Nat) (request : Request)
    (expected : Option ExpectedIdentity) (result : HostResult) (transaction core : Nat) :
    Keeps P (do
      match ← call (.execute transaction core) with
      | .active => finishConnect context request expected result core
      | .restored => executeFailure context request core true
      | .dirty => executeFailure context request core false) := by
  refine .bind (.call rfl) fun outcome => ?_
  cases outcome with
  | active => exact keeps_finishConnect context request expected result core
  | restored => exact keeps_executeFailure context request core true
  | dirty => exact keeps_executeFailure context request core false

section Connect

variable {thread : Nat} {mine : Option (Nat × String)} {f : Fields} {s : Shared}

theorem Inside.used (h : Inside thread mine true f s) : Inside thread mine false f s :=
  ⟨h.held, h.transaction, fun call requestID hm => ⟨(h.begun call requestID hm).1, nofun⟩⟩

/-- What a program keeps, whether it needs a fresh call or not. -/
theorem Keeps.used {α : Type} {m : Locked α} (hm : Keeps P m) (h : Inside thread mine true f s) :
    (outline P).safea thread m (fun _ f' s' => Inside thread mine false f' s') f s :=
  hm thread mine false f s h.used

variable {context : Option Nat} {peer : Peer} {request : Request}
  {expected : Option ExpectedIdentity} {result : HostResult}

/-- The thread of a bound connect makes its own call the owner. -/
theorem safea_startConnect (transaction core : Nat)
    (hbound : expected ≠ none → ∃ call, mine = some (call, request.requestID))
    (h : Inside thread mine true f s) :
    (outline P).safea thread (startConnect context peer request expected result transaction core)
      (fun _ f' s' => Inside thread mine false f' s') f s := by
  unfold startConnect
  refine safea_bind fun s1 hrely => ?_
  have h1 := h.rely hrely
  cases expected with
  | none =>
    refine safea_bind fun s2 hrely2 => ?_
    refine (keeps_execute context request none result transaction core).used ?_
    exact Inside.rely ⟨h1.held, fun _ => nofun, h1.begun⟩ hrely2
  | some identity =>
    refine safea_step fun s2 hrely2 hinv _ _ => ?_
    have h2 := h1.rely hrely2
    obtain ⟨call, hmine⟩ := hbound nofun
    obtain ⟨hm, hf⟩ := h2.begun call request.requestID hmine
    refine ⟨allowed_own hinv h2.held hm (hf rfl), ?_⟩
    refine keeps_execute context request (some identity) result transaction core thread mine false
      _ _ ⟨h2.held, fun _ => nofun, ?_⟩
    intro call' requestID' hm'
    exact ⟨(h2.begun call' requestID' hm').1, nofun⟩

theorem safea_prepareConnect
    (hbound : expected ≠ none → ∃ call, mine = some (call, request.requestID))
    (h : Inside thread mine true f s) :
    (outline P).safea thread (prepareConnect context peer request expected result)
      (fun _ f' s' => Inside thread mine false f' s') f s := by
  unfold prepareConnect
  refine safea_seq (Keeps.call rfl thread mine true f s h) fun exist f s h => ?_
  refine safea_ite (fun _ => (Keeps.pure _).used h) fun _ => ?_
  refine safea_seq
    (Keeps.calm (quiet_newTransaction request).calm thread mine true f s h) fun transaction f s h => ?_
  cases transaction with
  | none => exact (keeps_runtimeFailure request).used h
  | some transaction =>
    refine safea_seq (Keeps.call rfl thread mine true f s h) fun prepared f s h => ?_
    cases prepared with
    | error error => exact (keeps_prepareFailure context request error).used h
    | ok core =>
      refine safea_seq (Keeps.calm (refusing_changedNetwork context request expected
        (.call rfl)).looks.calm thread mine true f s h) fun r f s h => ?_
      cases r with
      | some response => exact (Keeps.pure _).used h
      | none => exact safea_startConnect transaction core hbound h

theorem safea_connect
    (hbound : expected ≠ none → ∃ call, mine = some (call, request.requestID))
    (h : Inside thread mine true f s) :
    (outline P).safea thread (connect context peer request expected)
      (fun _ f' s' => Inside thread mine false f' s') f s := by
  unfold connect
  refine safea_seq (Keeps.call rfl thread mine true f s h) fun result f s h => ?_
  refine safea_seq (Keeps.calm (refusing_refuseConnect context request expected result).looks.calm
    thread mine true f s h) fun r f s h => ?_
  cases r with
  | some response => exact (Keeps.pure _).used h
  | none =>
    have hrecover : Keeps P (do
        if ¬ (← get).recoveryRequired then return true
        return (← recoverPending) = none) :=
      .bind .get fun f => .ite (.pure _) (.bind keeps_recoverPending fun _ => .pure _)
    refine safea_seq (hrecover thread mine true f s h) fun recovered f s h => ?_
    refine safea_ite (fun _ => (keeps_runtimeFailure request).used h) fun _ => ?_
    refine safea_seq (Keeps.get thread mine true f s h) fun f' f s h => ?_
    refine safea_ite (fun _ => Keeps.used ?_ h) fun _ => safea_prepareConnect hbound h
    refine .ite (.bind (.calm (quiet_snapshot result).calm) fun _ => .pure _) ?_
    exact keeps_runtimeFailure request

theorem safea_handleLocked
    (hbound : expected ≠ none → ∃ call, mine = some (call, request.requestID))
    (h : Inside thread mine true f s) :
    (outline P).safea thread (handleLocked P context peer request expected)
      (fun _ f' s' => Inside thread mine false f' s') f s := by
  unfold handleLocked
  refine safea_seq (Keeps.get thread mine true f s h) fun f' f s h => ?_
  refine safea_ite (fun _ => (keeps_runtimeFailure request).used h) fun _ => ?_
  refine safea_seq (Keeps.calm (refusing_cancelledConnect context request).looks.calm
    thread mine true f s h) fun r f s h => ?_
  cases r with
  | some response => exact (Keeps.pure _).used h
  | none =>
    dsimp only
    split
    · exact (keeps_stageProfile request).used h
    · exact (keeps_stageProfile request).used h
    · exact (keeps_invalidateProfile request).used h
    · exact safea_connect hbound h
    · exact safea_connect hbound h
    · exact (keeps_disconnect request).used h
    · exact (Keeps.pure _).used h

end Connect

/-! ### Transport leases -/

theorem ne_empty_of_matchesClass {cls : Char → Bool} {low high : Nat} {value : String}
    (hlow : 0 < low) (h : GoText.matchesClass cls low high value.toList = true) : value ≠ "" := by
  rintro rfl
  simp only [GoText.matchesClass, Bool.and_eq_true, decide_eq_true_eq] at h
  have : low ≤ 0 := h.1.1
  omega

theorem ne_empty_of_isTransportLeaseRef {value : String} (h : isTransportLeaseRef value = true) :
    value ≠ "" := by
  rintro rfl
  exact absurd h (by decide)

/-- Inside the lock nobody else changes the ownership. -/
theorem calm_owner {α : Type} {thread : Nat} {mine : Option (Nat × String)} {fresh : Bool}
    {f : Fields} {s : Shared} {ownership : Ownership} {m : Locked α} (hm : Calm P m)
    (h : Inside thread mine fresh f s) (hown : s.ownership = ownership) :
    (outline P).safea thread m (fun _ f' s' =>
      Inside thread mine fresh f' s' ∧ s'.ownership = ownership) f s := by
  refine hm thread (fun f s => Inside thread mine fresh f s ∧ s.ownership = ownership) ?_ f s
    ⟨h, hown⟩
  rintro f s s' ⟨hinside, hsame⟩ hrely
  exact ⟨hinside.rely hrely, (hrely.held hinside.held).2.trans hsame⟩

/-- Where a request owns the runtime, no call is fresh. -/
theorem Inside.lease {thread : Nat} {mine : Option (Nat × String)} {fresh : Bool} {f : Fields}
    {s s' : Shared} (h : Inside thread mine fresh f s)
    (hne : s.ownership.boundConnectRequestID ≠ "") (hmu : s'.mu = s.mu)
    (hcalls : s'.calls = s.calls) (hcurrent : s'.boundConnectCall = s.boundConnectCall)
    (hsame : s'.ownership.boundConnectRequestID = s.ownership.boundConnectRequestID) :
    Inside thread mine fresh f s' := by
  refine ⟨hmu.trans h.held, ?_, fun call requestID hm => ?_⟩
  · rw [hsame]
    exact h.transaction
  · obtain ⟨⟨hbound, c, hc, hrest⟩, hfresh⟩ := h.begun call requestID hm
    refine ⟨⟨hcurrent.trans hbound, c, by rwa [Shared.At, hcalls], hrest⟩, fun hf => ?_⟩
    exact absurd (hfresh hf).1 hne

theorem keeps_promoteLocked (peer : Peer) (request : Request) {target : TransportLeasePromotion}
    (hrequest : target.connectRequestID ≠ "") (href : target.endpointLeaseRef ≠ "") :
    Keeps P (promoteLocked peer request target) := by
  refine .bind (.calm (.connectMu rfl)) fun current => .bind .get fun f0 => ?_
  intro thread mine fresh f s h
  refine safea_benign rfl fun s1 hrely hinv ownership hown => ?_
  have h1 : Inside thread mine fresh f s1 := h.rely hrely
  have hown : s1.ownership = ownership := hown.symm
  cases current with
  | none => exact Keeps.pure _ thread mine fresh f s1 h1
  | some current =>
  cases f0.core with
  | none => exact Keeps.pure _ thread mine fresh f s1 h1
  | some core =>
    dsimp only
    refine safea_ite (fun _ => Keeps.pure _ thread mine fresh f s1 h1) fun hpromotable => ?_
    have hpromotable : promotable peer target f0 ownership (some current) = true := by
      simpa using hpromotable
    simp only [promotable, Bool.and_eq_true, decide_eq_true_eq] at hpromotable
    obtain ⟨⟨⟨⟨-, hunleased⟩, howner⟩, -⟩, -⟩ := hpromotable
    refine safea_seq (calm_owner (quiet_coreRuns core _).calm h1 hown) ?_
    rintro runs f2 s2 ⟨h2, hown2⟩
    refine safea_ite (fun _ => Keeps.pure _ thread mine fresh f2 s2 h2) fun _ => ?_
    refine safea_seq (calm_owner (quiet_peerOnNetwork peer _).calm h2 hown2) ?_
    rintro there f3 s3 ⟨h3, hown3⟩
    refine safea_ite (fun _ => Keeps.pure _ thread mine fresh f3 s3 h3) fun _ => ?_
    refine safea_seq (calm_owner (.call rfl) h3 hown3) ?_
    rintro promoted f4 s4 ⟨h4, hown4⟩
    refine safea_ite (fun _ =>
      keeps_stopUnacknowledged request thread mine fresh f4 s4 h4) fun _ => ?_
    refine safea_seq (calm_owner (quiet_stillPromotable peer _ core _).calm h4 hown4) ?_
    rintro still f5 s5 ⟨h5, hown5⟩
    refine safea_ite (fun _ =>
      keeps_stopUnacknowledged request thread mine fresh f5 s5 h5) fun _ => ?_
    refine safea_step fun s6 hrely6 hinv6 _ _ => ?_
    have h6 := h5.rely hrely6
    have hown6 : s6.ownership = ownership := (hrely6.held h5.held).2.trans hown5
    have hne : s6.ownership.boundConnectRequestID ≠ "" := by
      rw [hown6, howner]
      exact hrequest
    have hunleased6 : s6.ownership.transportLeaseRef = "" := by
      rw [hown6, hunleased]
    refine ⟨allowed_promote hinv6 h6.held hne hunleased6 href, ?_⟩
    have hrest : Keeps P (do
        modify fun f => { f with health := some { dnsReady := true, egressValidated := true } }
        let response ← succeed request
        let handoff := ⟨target.connectRequestID, target.endpointLeaseRef⟩
        return { response with transportLeaseHandoff := some handoff }) :=
      .bind (.modify fun _ h => h) fun _ => .bind (.calm (quiet_succeed request).calm) fun _ => .pure _
    exact hrest thread mine fresh f5 _ (h6.lease hne rfl rfl rfl rfl)

theorem keeps_revokeLocked (peer : Peer) (request : Request) (target : TransportLeaseRevocation)
    (terminateActive : Bool) : Keeps P (revokeLocked peer request target terminateActive) := by
  refine .bind (.calm (.connectMu rfl)) fun current => .bind .get fun f0 => ?_
  intro thread mine fresh f s h
  refine safea_benign rfl fun s1 hrely hinv ownership hown => ?_
  have h1 : Inside thread mine fresh f s1 := h.rely hrely
  have hown : s1.ownership = ownership := hown.symm
  cases f0.core with
  | none => exact Keeps.pure _ thread mine fresh f s1 h1
  | some core =>
    dsimp only
    refine safea_ite (fun _ => Keeps.pure _ thread mine fresh f s1 h1) fun hrevocable => ?_
    have hrevocable : revocable peer target f0 ownership current = true := by
      simpa using hrevocable
    simp only [revocable, Bool.and_eq_true, decide_eq_true_eq] at hrevocable
    obtain ⟨⟨⟨⟨⟨-, hpromoted⟩, -⟩, -⟩, -⟩, -⟩ := hrevocable
    refine safea_seq (calm_owner (quiet_coreRuns core _).calm h1 hown) ?_
    rintro runs f2 s2 ⟨h2, hown2⟩
    refine safea_ite (fun _ => Keeps.pure _ thread mine fresh f2 s2 h2) fun _ => ?_
    refine safea_bind fun s3 hrely3 => ?_
    have h3 := h2.rely hrely3
    have hown3 := ((hrely3.held h2.held).2).trans hown2
    have hrevoke : Calm P (do
        if ¬ (← call (.revokeATSLease core target.profileDigest target.endpointLeaseRef
          terminateActive)) then return false
        return !(← call (.coreExited core)) : Locked Bool) :=
      .bind (.call rfl) fun _ => .ite (.pure _) (.bind (.call rfl) fun _ => .pure _)
    refine safea_seq (calm_owner hrevoke
      ⟨h3.held, h3.transaction, h3.begun⟩ hown3) ?_
    rintro revoked f4 s4 ⟨h4, hown4⟩
    refine safea_ite (fun _ =>
      keeps_stopUnacknowledged request thread mine fresh f4 s4 h4) fun _ => ?_
    have hrest : Keeps P (do
        let response ← succeed request
        let receipt := ⟨target.connectRequestID, target.endpointLeaseRef, terminateActive⟩
        return { response with transportLeaseRevocation := some receipt }) :=
      .bind (.calm (quiet_succeed request).calm) fun _ => .pure _
    unfold onlyIf
    split
    · refine safea_step fun s5 hrely5 hinv5 _ _ => ?_
      have h5 := h4.rely hrely5
      have hpromoted5 : s5.ownership.transportPromoted = true := by
        rw [(hrely5.held h4.held).2, hown4, hpromoted]
      have hne := (hinv5.leased _ (hinv5.promoted hpromoted5)).1
      refine ⟨allowed_demote hinv5 h5.held hpromoted5, ?_⟩
      exact hrest thread mine fresh f4 _ (h5.lease hne rfl rfl rfl rfl)
    · refine safea_bind fun s5 hrely5 => ?_
      exact hrest thread mine fresh f4 s5 (h4.rely hrely5)

end Pokrov.Linux.Service
