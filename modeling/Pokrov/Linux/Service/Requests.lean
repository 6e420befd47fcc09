import Pokrov.Linux.Service.Scenario
import Pokrov.Linux.Service.Threads

/-!
# Every task of the daemon keeps the ownership

What the threads do outside `mu`. A request that waits for the lock has nothing
but the call that it has begun; a cancellation has a pointer to the call of
another thread, which keeps its identity and stays done. From the rules for the
tasks follows the invariant of every reachable state.
-/

namespace Pokrov.Linux.Service

open Effects Outline

variable {P : Payloads}

/-! ## Taking the lock -/

/-- A fact about calls that no step takes back. -/
def Lasting (K : Shared → Prop) : Prop := ∀ thread s s', K s → Rely thread s s' → K s'

theorem lasting_true : Lasting fun _ => True := fun _ _ _ _ _ => trivial

/-- What holds inside the lock is got from the invariant and given back to it. -/
theorem safea_locked {α : Type} {m : Locked α} {thread : Nat} {mine mine' : Option (Nat × String)}
    {fresh fresh' : Bool} {K : Shared → Prop} {R : α → Shared → Prop} {s : Shared}
    (hK : Lasting K) (hR : ∀ a, Lasting (R a))
    (hm : ∀ f s, Inside thread mine fresh f s → K s →
      (outline P).safea thread m (fun a f' s' => Inside thread mine' fresh' f' s' ∧ R a s') f s)
    (hs : Begun thread mine fresh s) (hk : K s) :
    (outline P).safea thread (locked m) (fun a _ s' => Begun thread mine' fresh' s' ∧ R a s')
      () s := by
  refine safea_step fun s1 hrely hinv fields ⟨hfree, hfields⟩ => ?_
  refine ⟨allowed_lock hinv hfree, ?_⟩
  have hother : Rely (thread + 1) s1 { s1 with mu := some thread } :=
    .of_mu (Nat.succ_ne_self thread) (.inl hfree)
  have hb1 : Begun thread mine fresh s1 := hs.rely hrely
  have hinside : Inside thread mine fresh fields { s1 with mu := some thread } :=
    ⟨rfl, fun hne => hfields ▸ hinv.transaction hfree hne, hb1⟩
  have hk1 : K { s1 with mu := some thread } := hK _ _ _ (hK _ _ _ hk hrely) hother
  refine safea_bind ((outline P).safe_bind ((outline P).safe_mono (hm fields _ hinside hk1) ?_))
  rintro ⟨a, fields'⟩ s2 ⟨hinside2, hr2⟩ s3 hrely3
  refine safea_step fun s4 hrely4 hinv4 _ _ => ?_
  have hinside4 := (hinside2.rely hrely3).rely hrely4
  refine ⟨allowed_unlock hinv4 hinside4.held hinside4.transaction, fun s5 hrely5 => ?_⟩
  have hother4 : Rely (thread + 1) s4 { s4 with mu := none, fields := fields' } :=
    .of_mu (Nat.succ_ne_self thread) (.inr hinside4.held)
  have hb4 : Begun thread mine' fresh' { s4 with mu := none, fields := fields' } := hinside4.begun
  exact ⟨hb4.rely hrely5,
    hR a _ _ _ (hR a _ _ _ (hR a _ _ _ (hR a _ _ _ hr2 hrely3) hrely4) hother4) hrely5⟩

/-- A program that depends on no call and decides nothing. -/
theorem Keeps.locked {α : Type} {m : Locked α} {thread : Nat} {mine : Option (Nat × String)}
    {fresh : Bool} {s : Shared} (hm : Keeps P m) (hs : Begun thread mine fresh s) :
    (outline P).safea thread (locked m) (fun _ _ s' => Begun thread mine fresh s') () s := by
  refine safea_mono (safea_locked (R := fun _ _ => True) lasting_true (fun _ => lasting_true)
    (fun f s h _ => safea_mono (hm thread mine fresh f s h) ?_) hs trivial) fun _ _ _ h => h.1
  exact fun _ _ _ h' => ⟨h', trivial⟩

/-! ## Programs that have begun no call -/

/-- The program is safe wherever it starts. -/
def Safe (P : Payloads) {α : Type} (m : Unlocked α) : Prop :=
  ∀ thread s, (outline P).safea thread m (fun _ _ _ => True) () s

theorem begun_none (thread : Nat) (fresh : Bool) (s : Shared) : Begun thread none fresh s := nofun

namespace Safe

variable {α β : Type}

theorem calm {m : Unlocked α} (h : Calm P m) : Safe P m := fun thread s =>
  h thread (fun _ _ => True) (fun _ _ _ _ _ => trivial) () s trivial

theorem pure (a : α) : Safe P (pure a) := calm (.pure a)

theorem call {c : DaemonCall} (hc : benign c = true) : Safe P (call c) := calm (.call hc)

theorem locked {m : Locked α} (hm : Keeps P m) : Safe P (locked m) := fun thread s =>
  safea_mono (hm.locked (begun_none thread false s)) fun _ _ _ _ => trivial

theorem bind {m : Unlocked α} {n : α → Unlocked β} (hm : Safe P m) (hn : ∀ a, Safe P (n a)) :
    Safe P (m >>= n) := fun thread s =>
  safea_seq (hm thread s) fun a _ s' _ => hn a thread s'

theorem ite {b : Prop} [Decidable b] {m n : Unlocked α} (hm : Safe P m) (hn : Safe P n) :
    Safe P (if b then m else n) := by
  split
  · exact hm
  · exact hn

end Safe

theorem safe_promoteTransportLease (peer : Peer) (request : Request) :
    Safe P (promoteTransportLease P peer request) := by
  unfold promoteTransportLease
  cases P.promotion request.payload with
  | none => exact .pure _
  | some target =>
    dsimp only
    split
    · exact .pure _
    rename_i hvalid
    simp only [not_or, not_not] at hvalid
    refine .locked (keeps_promoteLocked peer request ?_ ?_)
    · exact ne_empty_of_matchesClass (by decide) hvalid.1
    · exact ne_empty_of_isTransportLeaseRef hvalid.2.2

theorem safe_revokeTransportLease (peer : Peer) (request : Request) :
    Safe P (revokeTransportLease P peer request) := by
  unfold revokeTransportLease
  cases P.revocation request.payload with
  | none => exact .pure _
  | some target =>
    dsimp only
    cases target.terminateActive with
    | none => exact .pure _
    | some terminateActive => exact .ite (.pure _) (.locked (keeps_revokeLocked _ _ _ _))

theorem safe_clockSnapshot (request : Request) : Safe P (clockSnapshot P request) := by
  refine .ite (.pure _) (.bind (.call rfl) fun now => ?_)
  cases now with
  | none => exact .pure _
  | some now => exact .pure _

theorem safe_readNetworkContext (request : Request) : Safe P (readNetworkContext request) := by
  refine .bind (.call rfl) fun ref => ?_
  cases ref with
  | none => exact .pure _
  | some ref => exact .pure _

theorem safe_watchCore (core : Nat) : Safe P (watchCore core) := by
  refine .bind (.call rfl) fun _ => .locked (.bind .get fun f => .ite (.pure _) ?_)
  exact keeps_settleExitedCore core

theorem safe_watchBoundPeer (call : Nat) (peer : Peer) (requestID networkRef : String) :
    Safe P (watchBoundPeer call peer requestID networkRef) := by
  have hupholds : ∀ {α : Type} {m : Unlocked α}, Safe P m →
      (outline P).Upholds (fun _ _ _ => True) m := fun hm thread _ s _ => hm thread s
  refine fun thread s => upholds_watchBoundPeer (fun hm => hupholds (.calm hm.quiet.calm))
    (fun _ => hupholds (.locked (.calm (.connectMu rfl))))
    (fun _ => hupholds (.locked (keeps_stopWatched peer requestID _))) thread () s trivial

/-! ## A bound connect -/

section Connect

variable {thread : Nat} {mine : Option (Nat × String)} {fresh : Bool} {s : Shared}

theorem Calm.begun {α : Type} {m : Unlocked α} (hm : Calm P m) (h : Begun thread mine fresh s) :
    (outline P).safea thread m (fun _ _ s' => Begun thread mine fresh s') () s :=
  hm thread (fun _ s => Begun thread mine fresh s) (fun _ _ _ h' hrely => h'.rely hrely) () s h

theorem Begun.used (h : Begun thread mine true s) : Begun thread mine false s :=
  fun call requestID hm => ⟨(h call requestID hm).1, nofun⟩

theorem safea_handleAuthorized {context : Option Nat} {peer : Peer} {request : Request}
    {expected : Option ExpectedIdentity}
    (hbound : expected ≠ none → ∃ call, mine = some (call, request.requestID))
    (h : Begun thread mine true s) :
    (outline P).safea thread (handleAuthorized P context peer request expected)
      (fun _ _ s' => Begun thread mine false s') () s := by
  unfold handleAuthorized
  refine safea_seq ((refusing_cancelledConnect context request).looks.calm.begun h) ?_
  intro r _ s h
  cases r with
  | some response => exact (Calm.pure _).begun h.used
  | none =>
    refine safea_seq ((quiet_authorize peer).calm.begun h) fun authorized _ s h => ?_
    refine safea_ite (fun _ => ?_) fun _ => ?_
    · refine safea_seq ((refusing_cancelledConnect context request).looks.calm.begun h) ?_
      intro r _ s h
      cases r with
      | some response => exact (Calm.pure _).begun h.used
      | none =>
        refine safea_seq ((Keeps.pure ()).locked h.used) fun _ _ s h => ?_
        exact (Calm.pure _).begun h
    · refine safea_mono (safea_locked (R := fun _ _ => True) lasting_true
        (fun _ => lasting_true) (fun f s hinside _ => ?_) h trivial) fun _ _ _ h' => h'.1
      exact safea_mono (safea_handleLocked hbound hinside) fun _ _ _ h' => ⟨h', trivial⟩

/-- The thread gives up its call, whatever has become of it. -/
theorem safea_finishBoundConnect {call : Nat} {requestID : String}
    (h : Begun thread (some (call, requestID)) false s) :
    (outline P).safea thread (finishBoundConnect call requestID) (fun _ _ _ => True) () s := by
  refine safea_seq ((Calm.call rfl).begun h) fun _ _ s h => ?_
  have hfinish : ∀ f s, Inside thread (some (call, requestID)) false f s → True →
      (outline P).safea thread (connectMu (.finish call requestID))
        (fun _ f' s' => Inside thread none false f' s' ∧ True) f s := ?_
  · exact safea_mono (safea_locked lasting_true (fun _ => lasting_true) hfinish h trivial)
      fun _ _ _ _ => trivial
  rintro f s hinside - s1 hrely hinv r s2 ⟨-, rfl⟩
  have h1 := hinside.rely hrely
  have hallowed := allowed_finish hinv h1.held (h1.begun call requestID rfl).1
  refine ⟨hallowed.1, hallowed.2, fun s3 hrely3 => ⟨Inside.rely ⟨?_, ?_, nofun⟩ hrely3, trivial⟩⟩
  · exact h1.held
  · exact h1.transaction

theorem safe_connectWithIdentity (peer : Peer) (request : Request) :
    Safe P (connectWithIdentity P peer request) := by
  unfold connectWithIdentity
  cases P.expectedIdentity request.payload with
  | none => exact .pure _
  | some identity =>
    intro thread s
    have hnamed : request.requestID ≠ "" := ne_empty_of_matchesClass (by decide) request.valid
    refine safea_step fun s1 _ hinv admission hadmission => ⟨allowed_begin hinv hnamed, ?_⟩
    cases admission with
    | refused unowned => exact Safe.pure _ thread _
    | begun call =>
      have hbegun : Begun thread (some (call, request.requestID)) true
          (s1.effect thread (.connectMu
            (.beginBoundConnect peer request.requestID identity.networkContextRef))) := by
        rintro _ _ ⟨⟩
        obtain ⟨hmine, hfresh⟩ := mine_begin hinv hadmission.symm
        exact ⟨hmine, fun _ => hfresh⟩
      refine safea_bind (Q := fun _ _ _ => True) ?_
      refine safea_mono (safea_seq
        ((refusing_changedNetwork (some call) request (some identity) (.pure _)).looks.calm.begun hbegun)
        ?_) (Q := fun _ _ s => Begun thread (some (call, request.requestID)) false s) ?_
      · intro r _ s h
        cases r with
        | some response => exact (Calm.pure _).begun h.used
        | none => exact safea_handleAuthorized (fun _ => ⟨call, rfl⟩) h
      · intro response _ s h
        refine safea_seq (safea_finishBoundConnect h) fun _ _ s _ => ?_
        exact Safe.pure _ thread s

end Connect

/-! ## Cancelling a connect -/

/-- The pointer is to a call of this peer and this name. -/
def Named (call : Nat) (peer : Peer) (requestID : String) (s : Shared) : Prop :=
  ∃ c, s.At call c ∧ c.requestID = requestID ∧ c.peer = peer

/-- The same for a call that is done. -/
def NamedDone (call : Nat) (peer : Peer) (requestID : String) (s : Shared) : Prop :=
  ∃ c, s.At call c ∧ c.requestID = requestID ∧ c.peer = peer ∧ c.done = true

theorem lasting_named (call : Nat) (peer : Peer) (requestID : String) :
    Lasting (Named call peer requestID) := by
  rintro thread s s' ⟨c, hc, hr, hp⟩ hrely
  obtain ⟨c', hc', hb⟩ := hrely.calls call c hc
  exact ⟨c', hc', hb.requestID.trans hr, hb.peer.trans hp⟩

theorem lasting_namedDone (call : Nat) (peer : Peer) (requestID : String) :
    Lasting (NamedDone call peer requestID) := by
  rintro thread s s' ⟨c, hc, hr, hp, hd⟩ hrely
  obtain ⟨c', hc', hb⟩ := hrely.calls call c hc
  exact ⟨c', hc', hb.requestID.trans hr, hb.peer.trans hp, hb.done hd⟩

/-- A response that settles a cancellation of a peer is true. -/
def Sound (peer : Peer) (response : Response) (s : Shared) : Prop :=
  ∀ requestID, response.connectCancellation = some ⟨requestID, true⟩ → Finished peer requestID s

theorem lasting_sound (peer : Peer) (response : Response) : Lasting (Sound peer response) :=
  fun _ _ _ h hrely requestID hr => (h requestID hr).rely hrely

variable {peer : Peer} {call : Nat}

theorem sound_of_ne {response : Response} {s : Shared}
    (h : ∀ requestID, response.connectCancellation ≠ some ⟨requestID, true⟩) :
    Sound peer response s :=
  fun requestID hr => absurd hr (h requestID)

theorem sound_failure (peer : Peer) (request : Request) (errorCode messageCode : String)
    (s : Shared) : Sound peer (.failure request errorCode messageCode) s :=
  sound_of_ne nofun

theorem sound_unsettled (peer : Peer) (request : Request) (connectRequestID : String)
    (s : Shared) : Sound peer (connectCancellationResponse request connectRequestID false) s :=
  sound_of_ne nofun

/-- The receipt is read off the call itself. -/
theorem safea_settleCancelled {thread : Nat} {request : Request} {connectRequestID : String}
    {f : Fields} {s : Shared} (h : Inside thread none false f s)
    (hk : NamedDone call peer connectRequestID s) :
    (outline P).safea thread (settleCancelled peer request connectRequestID call)
      (fun r f' s' => Inside thread none false f' s' ∧ Sound peer r s') f s := by
  have hstopped : ∀ ownership : Ownership, Keeps P (do
      if ¬ (ownership.boundConnectRequestID = connectRequestID ∧
          ownership.boundConnectPeer = peer) then return true
      if ¬ (← stop) then return false
      modify fun f => { f with lastStop := "requested" }
      return true) := by
    refine fun ownership => .ite (.pure _) (.bind keeps_stop fun _ => .ite (.pure _) ?_)
    exact .bind (.modify fun _ h => h) fun _ => .pure _
  have hK := lasting_namedDone call peer connectRequestID
  refine safea_seq (safea_and hK (Keeps.call rfl thread none false f s h) hk) ?_
  rintro ownership f s ⟨h, hk⟩
  refine safea_seq (safea_and hK (hstopped ownership thread none false f s h) hk) ?_
  rintro stopped f s ⟨h, hk⟩
  refine safea_ite (fun _ => ?_) fun _ => ?_
  · refine safea_bind fun s1 hrely s2 hrely2 => ⟨?_, sound_failure peer request _ _ s2⟩
    have h2 := (h.rely hrely).rely hrely2
    exact ⟨h2.held, h2.transaction, h2.begun⟩
  · refine safea_benign rfl fun s1 hrely hinv c hc s2 hrely2 => ?_
    have hc : c = s1.calls[call]? := hc
    refine ⟨Inside.rely (h.rely hrely) hrely2, lasting_sound peer _ _ _ _ ?_ hrely2⟩
    intro requestID hr
    obtain ⟨rfl, hstopped⟩ : connectRequestID = requestID ∧
        (c.map (·.stopped)).getD false = true := by
      simpa [connectCancellationResponse] using hr
    obtain ⟨c', hc', hname, hpeer, hdone⟩ := hK _ _ _ hk hrely
    rw [hc, hc'] at hstopped
    exact ⟨call, c', hc', hname, hpeer, hdone, hstopped⟩

/-- Only a peer that has issued the request finds its call. -/
theorem named_cancelConnect {s : Shared} {requestID : String}
    (h : (s.cancelConnect peer requestID).1 = .found call) : Named call peer requestID s := by
  unfold Shared.cancelConnect at h
  split at h
  · cases h
  rename_i current c hcurrent
  split at h
  · cases h
  rename_i hname
  split at h
  · cases h
  rename_i hpeer
  cases h
  exact ⟨c, (Shared.currentCall_eq_some.mp hcurrent).2, not_not.mp hname, not_not.mp hpeer⟩

theorem NamedDone.of_isDone {requestID : String} {s : Shared} (h : Named call peer requestID s)
    (hdone : s.isDone call = true) : NamedDone call peer requestID s := by
  obtain ⟨c, hc, hname, hpeer⟩ := h
  refine ⟨c, hc, hname, hpeer, ?_⟩
  simpa [Shared.isDone, hc] using hdone

theorem safea_cancelConnect (thread : Nat) (peer : Peer) (request : Request) (s : Shared) :
    (outline P).safea thread (cancelConnect P peer request) (fun r _ s' => Sound peer r s') () s := by
  unfold cancelConnect
  split
  · rename_i connectRequestID _
    refine safea_ite (fun _ s1 _ => sound_failure peer request _ _ s1) fun _ => ?_
    refine safea_benign rfl fun s1 _ hinv lookup hlookup => ?_
    cases lookup with
    | unknown => exact fun s2 _ => sound_unsettled peer request _ s2
    | denied => exact fun s2 _ => sound_failure peer request _ _ s2
    | found call =>
      have hsame : s1.Same (s1.effect thread (.connectMu (.cancelConnect peer connectRequestID))) :=
        same_effect thread rfl
      have hnamed := lasting_named call peer connectRequestID thread s1 _
        (named_cancelConnect hlookup.symm) (.of_same hsame thread)
      refine safea_benign rfl fun s2 hrely2 _ finished hfinished => ?_
      refine safea_ite (fun _ s3 _ => sound_unsettled peer request _ s3) fun htrue => ?_
      have hdone : NamedDone call peer connectRequestID s2 :=
        .of_isDone (lasting_named _ _ _ _ _ _ hnamed hrely2) (hfinished (by simpa using htrue))
      refine safea_mono (safea_locked (lasting_namedDone call peer connectRequestID)
        (lasting_sound peer) (fun f s h hk => safea_settleCancelled h hk)
        (begun_none thread false _) hdone) fun _ _ _ h => h.2
  · exact fun s1 _ => sound_failure peer request _ _ s1

/-! ## Tasks -/

theorem safe_handle {request : Request} (h : request.action ≠ .cancelConnect) :
    Safe P (handle P peer request) := by
  have hauthorized : Safe P (handleAuthorized P none peer request none) := fun thread s =>
    safea_mono (safea_handleAuthorized (fun h => absurd rfl h) (begun_none thread true s))
      fun _ _ _ _ => trivial
  unfold handle
  split
  · exact absurd ‹_› h
  · exact safe_promoteTransportLease peer request
  · exact safe_revokeTransportLease peer request
  · exact safe_clockSnapshot request
  · exact safe_readNetworkContext request
  · exact .locked (keeps_status request)
  · exact .locked (keeps_initializeHost request)
  · exact .pure _
  · exact safe_connectWithIdentity peer request
  all_goals exact hauthorized

theorem safea_handle (thread : Nat) (peer : Peer) (request : Request) (s : Shared) :
    (outline P).safea thread (handle P peer request)
      (fun r _ s' => request.action = .cancelConnect → Sound peer r s') () s := by
  by_cases haction : request.action = .cancelConnect
  · have hcancel : handle P peer request = cancelConnect P peer request := by
      rw [handle, haction]
    rw [hcancel]
    exact safea_mono (safea_cancelConnect thread peer request s) fun _ _ _ h _ => h
  · exact safea_mono (safe_handle haction thread s) fun _ _ _ _ h => absurd h haction

/-- Only a request leaves a response. -/
theorem post_of_no_response (thread : Nat) (task : Task) (s : Shared) :
    (outline P).post thread ⟨task, none⟩ s := by
  rintro peer requestID ⟨request, response, -, -, hresponse, -⟩
  cases hresponse

theorem safea_silent {α : Type} {m : Unlocked α} {thread : Nat} {s : Shared} (task : Task)
    (hm : Safe P m) :
    (outline P).safea thread (do
      let _ ← m
      return (.inr ⟨task, none⟩ : Task ⊕ Reply))
      (fun x _ s' => (outline P).ending thread x s') () s :=
  safea_seq (hm thread s) fun _ _ _ _ s' _ => post_of_no_response thread task s'

theorem safea_runTask (thread : Nat) (task : Task) (s : Shared) :
    (outline P).safea thread (runTask P task)
      (fun x _ s' => (outline P).ending thread x s') () s := by
  cases task with
  | request peer request =>
    refine safea_seq (safea_handle thread peer request s) ?_
    rintro response _ s1 hsound s2 hrely peer' requestID
      ⟨request', response', htask, haction, hresponse, hsettled⟩
    cases htask
    cases hresponse
    exact (hsound haction requestID hsettled).rely hrely
  | watchBoundPeer call peer requestID networkRef =>
    refine safea_seq
      (safe_watchBoundPeer call peer requestID networkRef thread s) fun again _ s _ => ?_
    refine safea_ite (fun _ s1 _ => trivial) fun _ s1 _ => ?_
    exact post_of_no_response thread _ s1
  | watchCore core => exact safea_silent _ (safe_watchCore core)
  | cancelBoundNetwork => exact safea_silent _ (.calm (.connectMu rfl))
  | recover => exact safea_silent _ (.locked keeps_recover)
  | close => exact safea_silent _ (.locked keeps_close)

theorem same_starts {s s' : Shared} {task : Task} (h : s.Starts task s') : s.Same s' := by
  cases h with
  | spawned _ => exact ⟨rfl, rfl, rfl, rfl, rfl, rfl, fun _ c h => ⟨c, h, .refl c⟩⟩
  | _ => exact .refl s

theorem ending_rely {thread : Nat} {x : Task ⊕ Reply} {s s' : Shared}
    (h : (outline P).ending thread x s) (hrely : Rely thread s s') :
    (outline P).ending thread x s' := by
  cases x with
  | inl task => trivial
  | inr reply => exact fun peer requestID hsettles => (h peer requestID hsettles).rely hrely

theorem valid_outline : (outline P).Valid where
  start := fun hinv h =>
    ⟨hinv.same (same_starts h), fun j => .of_same (same_starts h) j, fun _ => trivial⟩
  body := fun {thread task s} _ _ => (outline P).safe_bind <|
    (outline P).safe_mono (safea_runTask thread task s) fun _ _ h _ hrely => ending_rely h hrely

theorem good_of_reachable {p : Pool Daemon Shared Task Reply} (h : Reachable P p) :
    (outline P).Good p := by
  obtain ⟨profilesExist, hrun⟩ := h
  have hnew : (outline P).Good ⟨.new profilesExist, []⟩ := ⟨inv_new profilesExist, nofun⟩
  exact (Good.run valid_outline hnew hrun).1

/-! ## Ownership -/

/-- Between two marks of a lease its request has been released. -/
theorem released_between {s : Shared} (hinv : Inv s) {before between after : List Mark}
    {mark : Mark} {requestID requestID' : String}
    (hmark : mark = .promoted requestID ∨ mark = .revoked requestID)
    (hhistory : s.history =
      before ++ mark :: (between ++ .promoted requestID' :: after)) :
    Mark.released requestID ∈ between := by
  have hlease : leaseOf (before ++ [mark]) = some requestID := by
    rw [leaseOf_append]
    rcases hmark with rfl | rfl
    · rfl
    · exact hinv.revocations before requestID _ hhistory
  have hsplit : ∀ front other later, between = front ++ .promoted other :: later →
      front.foldl leaseStep (some requestID) = none := by
    intro front other later hbetween
    have h := hinv.promotions (before ++ [mark] ++ front) other
      (later ++ .promoted requestID' :: after) (by simp [hhistory, hbetween])
    rwa [leaseOf, List.foldl_append, ← leaseOf, hlease] at h
  refine released_mem rfl hsplit ?_
  have h := hinv.promotions (before ++ [mark] ++ between) requestID' after (by simp [hhistory])
  rwa [leaseOf, List.foldl_append, ← leaseOf, hlease] at h

/-- **Ownership.** In every state that the threads of the daemon can reach, an
owned runtime has a transaction and the current call is its owner's and is not
stopped; a promoted runtime is owned and has a lease; and between a promotion or
a terminating revocation and a later promotion the owner has been released. While
a thread is inside `mu`, the transaction is in its hands. -/
theorem owner_has_runtime (P : Payloads) (p : Pool Daemon Shared Task Reply)
    (h : Reachable P p) :
    (p.shared.ownership.boundConnectRequestID ≠ "" →
      (p.shared.mu = none → p.shared.fields.transaction ≠ none) ∧
      ∃ call c, p.shared.boundConnectCall = some call ∧ p.shared.calls[call]? = some c ∧
        c.requestID = p.shared.ownership.boundConnectRequestID ∧ c.stopped = false) ∧
    (p.shared.ownership.transportPromoted = true →
      p.shared.ownership.boundConnectRequestID ≠ "" ∧
      p.shared.ownership.transportLeaseRef ≠ "") ∧
    ∀ (before between after : List Mark) mark requestID requestID',
      p.shared.history = before ++ mark :: (between ++ .promoted requestID' :: after) →
      mark = .promoted requestID ∨ mark = .revoked requestID →
      Mark.released requestID ∈ between := by
  have hinv : Inv p.shared := (good_of_reachable h).1
  refine ⟨fun hne => ⟨fun hfree => hinv.transaction hfree hne, hinv.owner hne⟩, ?_, ?_⟩
  · intro hpromoted
    obtain ⟨hne, -, href⟩ := hinv.leased _ (hinv.promoted hpromoted)
    exact ⟨hne, href⟩
  · exact fun before between after mark requestID requestID' hhistory hmark =>
      released_between hinv hmark hhistory

/-- A bound connect that is then promoted. -/
def promotedSchedule : List (Move Task Bool) :=
  [.start (.request samplePeer stageRequest), .go 0 100 true,
    .start (.request samplePeer (connectRequest sampleConnectRef (by decide))), .go 1 100 true,
    .start (.request samplePeer promoteRequest), .go 2 100 true]

theorem promotedSchedule_owned :
    (played samplePayloads promotedSchedule).shared.ownership.transportPromoted = true ∧
      (played samplePayloads promotedSchedule).shared.fields.transaction ≠ none ∧
      (played samplePayloads promotedSchedule).shared.ownership.transportLeaseRef ≠ "" := by
  obtain ⟨howner, hpromoted, -⟩ := owner_has_runtime samplePayloads
    (played samplePayloads promotedSchedule) (reachable_played _ _)
  obtain ⟨h, hfree⟩ : (played samplePayloads promotedSchedule).shared.ownership.transportPromoted =
      true ∧ (played samplePayloads promotedSchedule).shared.mu = none := by
    decide +kernel
  obtain ⟨hne, href⟩ := hpromoted h
  exact ⟨h, (howner hne).1 hfree, href⟩

end Pokrov.Linux.Service
