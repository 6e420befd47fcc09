import Pokrov.Linux.Service.Handle

/-!
# Who owns the Linux runtime

The invariant of the state that the threads of the daemon share, and what each
of them may rely on while the others run. A call is current from its admission
until it is done and stopped, and only its own thread makes it done; so a thread
that has begun a call finds it in place when it comes to own the runtime, however
long it has waited for `mu`.
-/

namespace Pokrov.Linux.Service

open Effects

/-! ## The lease of an ownership -/

/-- The request whose lease was promoted and has not been released. -/
def leaseStep (lease : Option String) : Mark → Option String
  | .promoted requestID => some requestID
  | .released requestID => if lease = some requestID then none else lease
  | .owned _ => lease
  | .revoked _ => lease

def leaseOf (marks : List Mark) : Option String := marks.foldl leaseStep none

@[simp] theorem leaseOf_append (marks : List Mark) (mark : Mark) :
    leaseOf (marks ++ [mark]) = leaseStep (leaseOf marks) mark := by
  simp [leaseOf]

/-- A lease ends by the release of its request, where a promotion needs that
there is none. -/
theorem released_mem {marks : List Mark} {requestID : String} {lease : Option String}
    (hlease : lease = some requestID)
    (hpromotions : ∀ (before : List Mark) other later, marks = before ++ .promoted other :: later →
      before.foldl leaseStep lease = none)
    (hend : marks.foldl leaseStep lease = none) : Mark.released requestID ∈ marks := by
  induction marks generalizing lease with
  | nil => exact absurd (hlease.symm.trans hend) nofun
  | cons mark marks ih =>
    -- a mark that leaves the lease alone leaves the rest to the induction
    have kept : leaseStep lease mark = lease → Mark.released requestID ∈ mark :: marks := by
      intro hsame
      rw [List.foldl_cons, hsame] at hend
      refine List.mem_cons_of_mem _ (ih hlease (fun before other later hmarks => ?_) hend)
      have h := hpromotions (mark :: before) other later (congrArg (mark :: ·) hmarks)
      rwa [List.foldl_cons, hsame] at h
    cases mark with
    | owned other => exact kept rfl
    | revoked other => exact kept rfl
    | promoted other =>
      exact absurd (hlease.symm.trans (hpromotions [] other marks rfl)) nofun
    | released other =>
      by_cases hsame : lease = some other
      · cases hlease.symm.trans hsame
        exact List.mem_cons_self
      · exact kept (if_neg hsame)

/-! ## The invariant -/

/-- A pointer to a call. -/
abbrev Shared.At (s : Shared) (call : Nat) (c : BoundConnectCall) : Prop :=
  s.calls[call]? = some c

structure Inv (s : Shared) : Prop where
  current : ∀ call, s.boundConnectCall = some call → call < s.calls.length
  /-- Only the current call may be at work or own the runtime. -/
  retired : ∀ call c, s.At call c → s.boundConnectCall ≠ some call →
    c.done = true ∧ c.stopped = true
  named : ∀ call c, s.At call c → c.requestID ≠ ""
  cancelled : ∀ call c, s.At call c → ∀ peer ∈ c.cancelledBy, peer = c.peer
  owner : s.ownership.boundConnectRequestID ≠ "" → ∃ call c, s.boundConnectCall = some call ∧ s.At call c ∧ c.requestID = s.ownership.boundConnectRequestID ∧ c.stopped = false
  transaction : s.mu = none → s.ownership.boundConnectRequestID ≠ "" →
    s.fields.transaction ≠ none
  promoted : s.ownership.transportPromoted = true →
    leaseOf s.history = some s.ownership.boundConnectRequestID
  leased : ∀ requestID, leaseOf s.history = some requestID → requestID ≠ "" ∧
    s.ownership.boundConnectRequestID = requestID ∧ s.ownership.transportLeaseRef ≠ ""
  unowned : s.ownership.boundConnectRequestID = "" → s.ownership.transportLeaseRef = ""
  promotions : ∀ (marks : List Mark) requestID later, s.history = marks ++ .promoted requestID :: later →
    leaseOf marks = none
  revocations : ∀ (marks : List Mark) requestID later, s.history = marks ++ .revoked requestID :: later →
    leaseOf marks = some requestID

theorem inv_new (profilesExist : Bool) : Inv (.new profilesExist) where
  current := nofun
  retired := nofun
  named := nofun
  cancelled := nofun
  owner := fun h => absurd rfl h
  transaction := fun _ h => absurd rfl h
  promoted := nofun
  leased := nofun
  unowned := fun _ => rfl
  promotions := fun marks _ _ h => absurd h (by cases marks <;> nofun)
  revocations := fun marks _ _ h => absurd h (by cases marks <;> nofun)

/-! ## What a thread may rely on -/

/-- The call that a thread has begun and not finished. -/
def Mine (thread call : Nat) (requestID : String) (s : Shared) : Prop :=
  s.boundConnectCall = some call ∧ ∃ c, s.At call c ∧ c.thread = thread ∧
    c.requestID = requestID ∧ c.done = false

/-- Nobody owns the runtime, and nothing has stopped the call. -/
def Fresh (call : Nat) (s : Shared) : Prop :=
  s.ownership.boundConnectRequestID = "" ∧ ∃ c, s.At call c ∧ c.stopped = false

/-- What becomes of a call: it never gets another identity, and stays done, and
stopped once it is done. -/
structure BoundConnectCall.Becomes (c c' : BoundConnectCall) : Prop where
  requestID : c'.requestID = c.requestID
  peer : c'.peer = c.peer
  thread : c'.thread = c.thread
  done : c.done = true → c'.done = true
  stopped : c.done = true → c.stopped = true → c'.stopped = true

theorem BoundConnectCall.Becomes.refl (c : BoundConnectCall) : c.Becomes c :=
  ⟨rfl, rfl, rfl, id, fun _ => id⟩

theorem BoundConnectCall.Becomes.trans {c1 c2 c3 : BoundConnectCall} (h1 : c1.Becomes c2)
    (h2 : c2.Becomes c3) : c1.Becomes c3 :=
  ⟨h2.requestID.trans h1.requestID, h2.peer.trans h1.peer, h2.thread.trans h1.thread,
    fun h => h2.done (h1.done h), fun hd hs => h2.stopped (h1.done hd) (h1.stopped hd hs)⟩

def ownedMarks (requestID : String) (s : Shared) : List Mark :=
  s.history.filter (· = .owned requestID)

/-- All calls of a request in the later state were done in the earlier. -/
def AllDone (requestID : String) (s s' : Shared) : Prop :=
  ∀ call c', s'.At call c' → c'.requestID = requestID →
    ∃ c, s.At call c ∧ c.done = true

structure Rely (thread : Nat) (s s' : Shared) : Prop where
  held : s.mu = some thread → s'.mu = some thread ∧ s'.ownership = s.ownership
  calls : ∀ call c, s.At call c → ∃ c', s'.At call c' ∧ c.Becomes c'
  mine : ∀ call requestID, Mine thread call requestID s → Mine thread call requestID s'
  fresh : ∀ call requestID, Mine thread call requestID s → Fresh call s → Fresh call s'
  owned : ∀ requestID, AllDone requestID s s' → ownedMarks requestID s' = ownedMarks requestID s

theorem Rely.refl (thread : Nat) (s : Shared) : Rely thread s s :=
  ⟨fun h => ⟨h, rfl⟩, fun _ c h => ⟨c, h, .refl c⟩, fun _ _ h => h, fun _ _ _ h => h,
    fun _ _ => rfl⟩

theorem Rely.trans {thread : Nat} {s1 s2 s3 : Shared} (h1 : Rely thread s1 s2)
    (h2 : Rely thread s2 s3) : Rely thread s1 s3 where
  held := fun h =>
    ⟨(h2.held (h1.held h).1).1, ((h2.held (h1.held h).1).2).trans (h1.held h).2⟩
  calls := by
    intro call c h
    obtain ⟨c2, hc2, hb1⟩ := h1.calls call c h
    obtain ⟨c3, hc3, hb2⟩ := h2.calls call c2 hc2
    exact ⟨c3, hc3, hb1.trans hb2⟩
  mine := fun call requestID h => h2.mine call requestID (h1.mine call requestID h)
  fresh := fun call requestID hm hf =>
    h2.fresh call requestID (h1.mine call requestID hm) (h1.fresh call requestID hm hf)
  owned := by
    intro requestID hdone
    -- the calls of the request are all there from the start, and done
    have hdone1 : AllDone requestID s1 s2 := by
      intro call c2 hc2 hr
      obtain ⟨c3, hc3, hb⟩ := h2.calls call c2 hc2
      exact hdone call c3 hc3 (hb.requestID.trans hr)
    have hdone2 : AllDone requestID s2 s3 := by
      intro call c3 hc3 hr
      obtain ⟨c1, hc1, hd⟩ := hdone call c3 hc3 hr
      obtain ⟨c2, hc2, hb⟩ := h1.calls call c1 hc1
      exact ⟨c2, hc2, hb.done hd⟩
    exact (h2.owned requestID hdone2).trans (h1.owned requestID hdone1)

/-! ## Steps that ownership does not depend on -/

/-- A step that keeps the invariant and what the other threads rely on. -/
def Allowed (thread : Nat) (s s' : Shared) : Prop := Inv s' ∧ ∀ j, j ≠ thread → Rely j s s'

structure BoundConnectCall.Same (c c' : BoundConnectCall) : Prop where
  requestID : c'.requestID = c.requestID
  peer : c'.peer = c.peer
  thread : c'.thread = c.thread
  done : c'.done = c.done
  stopped : c'.stopped = c.stopped
  cancelledBy : ∀ peer ∈ c'.cancelledBy, peer ∈ c.cancelledBy ∨ peer = c.peer

theorem BoundConnectCall.Same.refl (c : BoundConnectCall) : c.Same c :=
  ⟨rfl, rfl, rfl, rfl, rfl, fun _ h => .inl h⟩

theorem BoundConnectCall.Same.becomes {c c' : BoundConnectCall} (h : c.Same c') : c.Becomes c' :=
  ⟨h.requestID, h.peer, h.thread, fun hd => h.done.trans hd, fun _ hs => h.stopped.trans hs⟩

structure Shared.Same (s s' : Shared) : Prop where
  mu : s'.mu = s.mu
  fields : s'.fields = s.fields
  ownership : s'.ownership = s.ownership
  boundConnectCall : s'.boundConnectCall = s.boundConnectCall
  history : s'.history = s.history
  length : s'.calls.length = s.calls.length
  calls : ∀ call c, s.At call c → ∃ c', s'.At call c' ∧ c.Same c'

namespace Shared

theorem Same.refl (s : Shared) : s.Same s :=
  ⟨rfl, rfl, rfl, rfl, rfl, rfl, fun _ c h => ⟨c, h, .refl c⟩⟩

variable {call : Nat} {s : Shared}

/-- The calls are matched both ways. -/
theorem Same.back {s s' : Shared} (h : s.Same s') {c' : BoundConnectCall} (hc' : s'.At call c') :
    ∃ c, s.At call c ∧ c.Same c' := by
  have hlt : call < s.calls.length := h.length ▸ (List.getElem?_eq_some_iff.mp hc').1
  obtain ⟨c'', hc'', hsame⟩ := h.calls call s.calls[call] (List.getElem?_eq_getElem hlt)
  cases hc'.symm.trans hc''
  exact ⟨_, List.getElem?_eq_getElem hlt, hsame⟩

theorem at_update (call : Nat) (f : BoundConnectCall → BoundConnectCall) {other : Nat}
    {c : BoundConnectCall} (h : s.At other c) :
    (s.update call f).At other (if call = other then f c else c) := by
  show (s.calls.modify call f)[other]? = _
  rw [List.getElem?_modify, h]
  rfl

theorem same_update {f : BoundConnectCall → BoundConnectCall}
    (hf : ∀ c : BoundConnectCall, s.At call c → c.Same (f c)) : s.Same (s.update call f) := by
  refine ⟨rfl, rfl, rfl, rfl, rfl, List.length_modify .., fun other c h => ⟨_, at_update call f h, ?_⟩⟩
  split
  · rename_i hsame
    exact hf c (hsame ▸ h)
  · exact .refl c

theorem currentCall_eq_some {c : BoundConnectCall} :
    s.currentCall = some (call, c) ↔ s.boundConnectCall = some call ∧ s.At call c := by
  unfold currentCall
  cases s.boundConnectCall with
  | none => simp
  | some other =>
    simp only [Option.bind_some, Option.map_eq_some_iff, Prod.mk.injEq, Option.some.injEq]
    constructor
    · rintro ⟨c', hc', rfl, rfl⟩
      exact ⟨rfl, hc'⟩
    · rintro ⟨rfl, hc⟩
      exact ⟨c, hc, rfl, rfl⟩

end Shared

variable {requestID : String} {call : Nat} {thread : Nat} {s : Shared} {c : BoundConnectCall}
  {peer : Peer}

theorem Mine.same {thread call : Nat} {s s' : Shared} (h : Mine thread call requestID s)
    (hsame : s.Same s') : Mine thread call requestID s' := by
  obtain ⟨hcurrent, c, hc, ht, hr, hd⟩ := h
  obtain ⟨c', hc', hs⟩ := hsame.calls call c hc
  exact ⟨hsame.boundConnectCall.trans hcurrent, c', hc', hs.thread.trans ht,
    hs.requestID.trans hr, hs.done.trans hd⟩

theorem Fresh.same {s s' : Shared} (h : Fresh call s) (hsame : s.Same s') : Fresh call s' := by
  obtain ⟨hnone, c, hc, hs⟩ := h
  obtain ⟨c', hc', hsc⟩ := hsame.calls call c hc
  refine ⟨?_, c', hc', hsc.stopped.trans hs⟩
  rw [hsame.ownership]
  exact hnone

theorem Rely.of_same {s s' : Shared} (h : s.Same s') (thread : Nat) : Rely thread s s' where
  held := fun hmu => ⟨h.mu.trans hmu, h.ownership⟩
  calls := by
    intro call c hc
    obtain ⟨c', hc', hs⟩ := h.calls call c hc
    exact ⟨c', hc', hs.becomes⟩
  mine := fun _ _ hm => hm.same h
  fresh := fun _ _ _ hf => hf.same h
  owned := fun requestID _ => by rw [ownedMarks, ownedMarks, h.history]

theorem Inv.same {s s' : Shared} (hinv : Inv s) (h : s.Same s') : Inv s' where
  current := fun call hcall => by
    rw [h.length]
    exact hinv.current call (h.boundConnectCall ▸ hcall)
  retired := fun call c' hc' hne => by
    obtain ⟨c, hc, hs⟩ := h.back hc'
    rw [hs.done, hs.stopped]
    exact hinv.retired call c hc (h.boundConnectCall ▸ hne)
  named := fun call c' hc' => by
    obtain ⟨c, hc, hs⟩ := h.back hc'
    rw [hs.requestID]
    exact hinv.named call c hc
  cancelled := fun call c' hc' peer hpeer => by
    obtain ⟨c, hc, hs⟩ := h.back hc'
    rw [hs.peer]
    exact (hs.cancelledBy peer hpeer).elim (hinv.cancelled call c hc peer) id
  owner := fun hne => by
    rw [h.ownership] at hne ⊢
    obtain ⟨call, c, hcurrent, hc, hr, hstop⟩ := hinv.owner hne
    obtain ⟨c', hc', hs⟩ := h.calls call c hc
    exact ⟨call, c', h.boundConnectCall.trans hcurrent, hc', hs.requestID.trans hr,
      hs.stopped.trans hstop⟩
  transaction := by
    rw [h.mu, h.ownership, h.fields]
    exact hinv.transaction
  promoted := by
    rw [h.ownership, h.history]
    exact hinv.promoted
  leased := by
    rw [h.ownership, h.history]
    exact hinv.leased
  unowned := by
    rw [h.ownership]
    exact hinv.unowned
  promotions := by
    rw [h.history]
    exact hinv.promotions
  revocations := by
    rw [h.history]
    exact hinv.revocations

theorem Allowed.of_same {s s' : Shared} (hinv : Inv s) (h : s.Same s') : Allowed thread s s' :=
  ⟨hinv.same h, fun j _ => .of_same h j⟩

/-- The sections that only read, cancel, or note that a peer is lost. -/
def Section.benign : Section → Bool
  | .beginBoundConnect _ _ _ => false
  | .finish _ _ => false
  | .releaseBoundConnect => false
  | _ => true

def benign : DaemonCall → Bool
  | .lock => false
  | .unlock _ => false
  | .own _ _ => false
  | .promote _ => false
  | .demote => false
  | .connectMu sec => sec.benign
  | _ => true

theorem same_cancel (s : Shared) (call : Nat) : s.Same (s.cancel call) :=
  Shared.same_update fun _ _ => ⟨rfl, rfl, rfl, rfl, rfl, fun _ h => .inl h⟩

theorem same_section {sec : Section} (thread : Nat) (h : sec.benign = true) :
    s.Same (sec.run thread s).2 := by
  cases sec with
  | beginBoundConnect => cases h
  | finish => cases h
  | releaseBoundConnect => cases h
  | cancelBoundNetwork =>
    show s.Same s.cancelBoundNetwork
    unfold Shared.cancelBoundNetwork
    split
    · split
      · exact same_cancel s _
      · exact .refl s
    · exact .refl s
  | losePeer call =>
    simp only [Section.run]
    split
    · exact Shared.same_update fun _ _ => ⟨rfl, rfl, rfl, rfl, rfl, fun _ h => .inl h⟩
    · exact .refl s
  | cancelWatched call peer requestID networkChanged =>
    show s.Same (s.cancelWatched call peer requestID networkChanged).2
    unfold Shared.cancelWatched
    dsimp only
    split
    · exact .refl s
    split
    · exact .refl s
    · exact same_cancel s call
  | cancelConnect peer requestID =>
    show s.Same (s.cancelConnect peer requestID).2
    unfold Shared.cancelConnect
    split
    · exact .refl s
    rename_i call c hcurrent
    split
    · exact .refl s
    split
    · exact .refl s
    rename_i hpeer
    have hc := (Shared.currentCall_eq_some.mp hcurrent).2
    refine Shared.same_update fun c' hc' => ⟨rfl, rfl, rfl, rfl, rfl, fun other h => ?_⟩
    cases hc.symm.trans hc'
    rcases List.mem_append.mp h with h | h
    · exact .inl h
    · exact .inr ((List.mem_singleton.mp h).trans (not_not.mp hpeer).symm)
  | isCurrent call => exact .refl s
  | boundConnectCall => exact .refl s
  | read call => exact .refl s

theorem same_effect {c : DaemonCall} (thread : Nat) (h : benign c = true) :
    s.Same (s.effect thread c) := by
  cases c with
  | lock => cases h
  | unlock => cases h
  | own => cases h
  | promote => cases h
  | demote => cases h
  | connectMu sec => exact same_section thread h
  | cancel call => exact same_cancel s call
  | _ => exact ⟨rfl, rfl, rfl, rfl, rfl, rfl, fun _ c h => ⟨c, h, .refl c⟩⟩

/-! ## Steps that it depends on -/

/-- `mu` and the fields under it have no part in what others rely on, unless
they hold it. -/
theorem Rely.of_mu {thread j : Nat} {mu : Option Nat} {fields : Fields} (hj : j ≠ thread)
    (hmu : s.mu = none ∨ s.mu = some thread) : Rely j s { s with mu, fields } where
  held := fun h => by
    rcases hmu with hmu | hmu
    · exact absurd (hmu.symm.trans h) nofun
    · exact absurd (Option.some.inj (hmu.symm.trans h)) (Ne.symm hj)
  calls := fun _ c h => ⟨c, h, .refl c⟩
  mine := fun _ _ h => h
  fresh := fun _ _ _ h => h
  owned := fun _ _ => rfl

theorem allowed_lock (hinv : Inv s) (hmu : s.mu = none) :
    Allowed thread s { s with mu := some thread } :=
  ⟨{ hinv with transaction := nofun }, fun _ hj => .of_mu hj (.inl hmu)⟩

theorem allowed_unlock {fields : Fields} (hinv : Inv s) (hmu : s.mu = some thread)
    (h : s.ownership.boundConnectRequestID ≠ "" → fields.transaction ≠ none) :
    Allowed thread s { s with mu := none, fields } :=
  ⟨{ hinv with transaction := fun _ => h }, fun _ hj => .of_mu hj (.inr hmu)⟩

/-- A refusal is for want of a call that is done and stopped. -/
theorem retired_of_refusal (h : s.refusal requestID = none)
    (hcurrent : s.boundConnectCall = some call) (hc : s.At call c) :
    c.done = true ∧ c.stopped = true := by
  rw [Shared.refusal, Shared.currentCall_eq_some.mpr ⟨hcurrent, hc⟩] at h
  dsimp only at h
  split at h
  · cases h
  rename_i hstopped
  split at h
  · rename_i hdone
    exact ⟨hdone, by simpa using (not_or.mp hstopped).2⟩
  · cases h

/-- A new call replaces one that is done and stopped, and then nobody owns the
runtime. -/
theorem unowned_of_refusal (hinv : Inv s) (h : s.refusal requestID = none) :
    s.ownership.boundConnectRequestID = "" := by
  by_contra hne
  obtain ⟨call, c, hcurrent, hc, -, hstopped⟩ := hinv.owner hne
  rw [(retired_of_refusal h hcurrent hc).2] at hstopped
  cases hstopped

theorem at_append {new : BoundConnectCall} :
    (s.calls ++ [new])[call]? = some c ↔ s.At call c ∨ (call = s.calls.length ∧ c = new) := by
  rcases Nat.lt_trichotomy call s.calls.length with hlt | rfl | hgt
  · rw [List.getElem?_append_left hlt]
    simp [hlt.ne]
  · simp [Shared.At, eq_comm]
  · rw [List.getElem?_eq_none (by simp; omega), Shared.At, List.getElem?_eq_none (by omega)]
    simp [hgt.ne']

theorem allowed_begin {requestID networkRef : String} (hinv : Inv s) (hnamed : requestID ≠ "") :
    Allowed thread s (s.beginBoundConnect thread peer requestID networkRef).2 := by
  unfold Shared.beginBoundConnect
  split
  · exact .of_same hinv (.refl s)
  rename_i hrefusal
  have hnone := unowned_of_refusal hinv hrefusal
  have hretired : ∀ call c, s.At call c → c.done = true ∧ c.stopped = true := by
    intro call c hc
    by_cases hcurrent : s.boundConnectCall = some call
    · exact retired_of_refusal hrefusal hcurrent hc
    · exact hinv.retired call c hc hcurrent
  constructor
  · refine { hinv with
      current := ?_, retired := ?_, named := ?_, cancelled := ?_, owner := ?_ }
    · rintro call ⟨⟩
      simp
    · intro call c hc hne
      rcases at_append.mp hc with hc | ⟨rfl, -⟩
      · exact hretired call c hc
      · exact absurd rfl hne
    · intro call c hc
      rcases at_append.mp hc with hc | ⟨-, rfl⟩
      · exact hinv.named call c hc
      · exact hnamed
    · intro call c hc other hother
      rcases at_append.mp hc with hc | ⟨-, rfl⟩
      · exact hinv.cancelled call c hc other hother
      · cases hother
    · exact fun hne => absurd hnone hne
  · intro j hj
    -- nobody is at work on a call, so nothing is replaced
    have hnot : ∀ call other, ¬ Mine j call other s := by
      rintro call other ⟨-, c, hc, -, -, hdone⟩
      rw [(hretired call c hc).1] at hdone
      cases hdone
    exact ⟨fun h => ⟨h, rfl⟩, fun call c hc => ⟨c, at_append.mpr (.inl hc), .refl c⟩,
      fun call other h => absurd h (hnot call other),
      fun call other h => absurd h (hnot call other), fun _ _ => rfl⟩

/-- The thread that has begun a call has it, and nobody owns the runtime. -/
theorem mine_begin {thread call : Nat} {requestID networkRef : String} (hinv : Inv s)
    (h : (s.beginBoundConnect thread peer requestID networkRef).1 = .begun call) :
    Mine thread call requestID (s.beginBoundConnect thread peer requestID networkRef).2 ∧
      Fresh call (s.beginBoundConnect thread peer requestID networkRef).2 := by
  unfold Shared.beginBoundConnect at h ⊢
  split
  · rename_i unowned hrefusal
    rw [hrefusal] at h
    cases h
  · rename_i hrefusal
    rw [hrefusal] at h
    cases h
    have hnone := unowned_of_refusal hinv hrefusal
    refine ⟨⟨rfl, _, at_append.mpr (.inr ⟨rfl, rfl⟩), rfl, rfl, rfl⟩, hnone, _,
      at_append.mpr (.inr ⟨rfl, rfl⟩), rfl⟩

/-- What has been decided about the current call of a thread leaves the other
calls alone. -/
theorem back_update {f : BoundConnectCall → BoundConnectCall} {other : Nat} {c' : BoundConnectCall}
    (h : (s.update call f).At other c') :
    ∃ c, s.At other c ∧ c' = if call = other then f c else c := by
  have hlt : other < s.calls.length := by
    have := (List.getElem?_eq_some_iff.mp h).1
    rwa [Shared.update, List.length_modify] at this
  have hat := List.getElem?_eq_getElem hlt
  exact ⟨_, hat, Option.some.inj (h.symm.trans (Shared.at_update call f hat))⟩

theorem at_update_ne {call other : Nat} (f : BoundConnectCall → BoundConnectCall)
    (hne : call ≠ other) (h : s.At other c) : (s.update call f).At other c := by
  have hat := Shared.at_update call f h
  rwa [if_neg hne] at hat

/-- The thread finishes its own call. -/
theorem allowed_finish {thread call : Nat} (hinv : Inv s) (hmu : s.mu = some thread)
    (hmine : Mine thread call requestID s) : Allowed thread s (s.update call fun c =>
      { c with stopped := s.ownership.boundConnectRequestID ≠ requestID, done := true }) := by
  obtain ⟨hcurrent, c, hc, hthread, hrequest, hdone⟩ := hmine
  constructor
  · refine { hinv with
      current := ?_, retired := ?_, named := ?_, cancelled := ?_, owner := ?_ }
    · intro other hother
      rw [Shared.update, List.length_modify]
      exact hinv.current other hother
    · intro other c' hc' hne
      obtain ⟨c0, hc0, rfl⟩ := back_update hc'
      have hother : call ≠ other := by
        rintro rfl
        exact hne hcurrent
      rw [if_neg hother]
      exact hinv.retired other c0 hc0 hne
    · intro other c' hc'
      obtain ⟨c0, hc0, rfl⟩ := back_update hc'
      have := hinv.named other c0 hc0
      split <;> exact this
    · intro other c' hc'
      obtain ⟨c0, hc0, rfl⟩ := back_update hc'
      have := hinv.cancelled other c0 hc0
      split <;> exact this
    · intro hne
      obtain ⟨owner, c0, howner, hc0, hr, hstopped⟩ := hinv.owner hne
      cases hcurrent.symm.trans howner
      cases hc.symm.trans hc0
      refine ⟨call, _, hcurrent, Shared.at_update _ _ hc, ?_, ?_⟩
      · rw [if_pos rfl]
        exact hr
      · rw [if_pos rfl]
        simp [← hr, hrequest]
  · intro j hj
    have hother : ∀ other requestID', Mine j other requestID' s → call ≠ other := by
      rintro other requestID' ⟨-, c', hc', ht, -⟩ rfl
      cases hc.symm.trans hc'
      exact hj (ht.symm.trans hthread)
    refine ⟨fun h => absurd (Option.some.inj (hmu.symm.trans h)) (Ne.symm hj), ?_, ?_, ?_,
      fun _ _ => rfl⟩
    · intro other c' hc'
      refine ⟨_, Shared.at_update _ _ hc', ?_⟩
      split
      · rename_i hsame
        subst hsame
        cases hc.symm.trans hc'
        exact ⟨rfl, rfl, rfl, fun _ => rfl, fun hd => absurd (hdone.symm.trans hd) nofun⟩
      · exact .refl c'
    · intro other requestID' hm
      have hne := hother other requestID' hm
      obtain ⟨hcurrent', c', hc', ht, hr, hd⟩ := hm
      exact ⟨hcurrent', c', at_update_ne _ hne hc', ht, hr, hd⟩
    · intro other requestID' hm hf
      have hne := hother other requestID' hm
      obtain ⟨hnone, c', hc', hs⟩ := hf
      exact ⟨hnone, c', at_update_ne _ hne hc', hs⟩

/-- What a release makes of a call: it stops the current call of the owner. -/
def Released (s : Shared) (call : Nat) (c c' : BoundConnectCall) : Prop :=
  c' = c ∨ (c' = { c with stopped := true } ∧ s.boundConnectCall = some call ∧
    c.requestID = s.ownership.boundConnectRequestID)

theorem at_release (hc : s.At call c) :
    ∃ c', s.releaseBoundConnect.At call c' ∧ Released s call c c' := by
  unfold Shared.releaseBoundConnect
  dsimp only
  split
  · rename_i current owner hcurrent
    split
    · rename_i hrequest
      obtain ⟨hbound, howner⟩ := Shared.currentCall_eq_some.mp hcurrent
      refine ⟨_, Shared.at_update current _ hc, ?_⟩
      split
      · rename_i hsame
        subst hsame
        cases howner.symm.trans hc
        exact .inr ⟨rfl, hbound, hrequest⟩
      · exact .inl rfl
    · exact ⟨c, hc, .inl rfl⟩
  · exact ⟨c, hc, .inl rfl⟩

theorem length_release (s : Shared) : s.releaseBoundConnect.calls.length = s.calls.length := by
  unfold Shared.releaseBoundConnect
  dsimp only
  split
  · split
    · exact List.length_modify ..
    · rfl
  · rfl

theorem back_release {c' : BoundConnectCall} (h : s.releaseBoundConnect.At call c') :
    ∃ c, s.At call c ∧ Released s call c c' := by
  have hlt : call < s.calls.length := length_release s ▸ (List.getElem?_eq_some_iff.mp h).1
  have hat := List.getElem?_eq_getElem hlt
  obtain ⟨c'', hc'', hreleased⟩ := at_release hat
  cases h.symm.trans hc''
  exact ⟨_, hat, hreleased⟩

theorem release_fields (s : Shared) :
    s.releaseBoundConnect.mu = s.mu ∧ s.releaseBoundConnect.fields = s.fields ∧
      s.releaseBoundConnect.ownership = {} ∧
      s.releaseBoundConnect.boundConnectCall = s.boundConnectCall ∧
      s.releaseBoundConnect.history =
        s.history ++ [.released s.ownership.boundConnectRequestID] := by
  unfold Shared.releaseBoundConnect
  dsimp only
  split
  · split <;> exact ⟨rfl, rfl, rfl, rfl, rfl⟩
  · exact ⟨rfl, rfl, rfl, rfl, rfl⟩

/-- A mark in a longer history is in the shorter or is the new one. -/
theorem split_append {history before later : List Mark} {mark other : Mark}
    (h : history ++ [mark] = before ++ other :: later) :
    (∃ later', history = before ++ other :: later') ∨ (before = history ∧ other = mark) := by
  rcases List.eq_nil_or_concat later with rfl | ⟨later', last, rfl⟩
  · obtain ⟨rfl, hlast⟩ := List.append_inj' h rfl
    exact .inr ⟨rfl, (List.cons.inj hlast).1.symm⟩
  · refine .inl ⟨later', ?_⟩
    have h' : history ++ [mark] = (before ++ other :: later') ++ [last] := by
      rw [h]
      simp
    exact (List.append_inj' h' rfl).1

/-- Marks other than promotions and revocations add nothing to the histories of
leases. -/
theorem Inv.history_append (hinv : Inv s) (mark : Mark)
    (hp : ∀ requestID, mark = .promoted requestID → leaseOf s.history = none)
    (hr : ∀ requestID, mark = .revoked requestID → leaseOf s.history = some requestID) :
    (∀ (marks : List Mark) requestID later, s.history ++ [mark] = marks ++ .promoted requestID :: later →
      leaseOf marks = none) ∧
    ∀ (marks : List Mark) requestID later, s.history ++ [mark] = marks ++ .revoked requestID :: later →
      leaseOf marks = some requestID := by
  constructor
  · intro marks requestID later h
    rcases split_append h with ⟨later', h'⟩ | ⟨rfl, hmark⟩
    · exact hinv.promotions marks requestID later' h'
    · exact hp requestID hmark.symm
  · intro marks requestID later h
    rcases split_append h with ⟨later', h'⟩ | ⟨rfl, hmark⟩
    · exact hinv.revocations marks requestID later' h'
    · exact hr requestID hmark.symm

theorem Mine.release {thread call : Nat} (h : Mine thread call requestID s) :
    Mine thread call requestID s.releaseBoundConnect := by
  obtain ⟨hcurrent, c, hc, ht, hr, hd⟩ := h
  obtain ⟨c', hc', hreleased⟩ := at_release hc
  refine ⟨(release_fields s).2.2.2.1.trans hcurrent, c', hc', ?_⟩
  rcases hreleased with rfl | ⟨rfl, -, -⟩
  · exact ⟨ht, hr, hd⟩
  · exact ⟨ht, hr, hd⟩

/-- Where nobody owns the runtime, a release stops nothing. -/
theorem Fresh.release (h : Fresh call s) (hinv : Inv s) : Fresh call s.releaseBoundConnect := by
  obtain ⟨hnone, c, hc, hs⟩ := h
  obtain ⟨c', hc', hreleased⟩ := at_release hc
  refine ⟨?_, c', hc', ?_⟩
  · rw [(release_fields s).2.2.1]
  · rcases hreleased with rfl | ⟨-, -, hr⟩
    · exact hs
    · exact absurd (hr.trans hnone) (hinv.named call c hc)

theorem ownedMarks_append {history : List Mark} {mark : Mark} (h : mark ≠ .owned requestID) :
    (history ++ [mark]).filter (· = .owned requestID) =
      history.filter (· = .owned requestID) := by
  simp [List.filter_append, h]

/-- The thread that holds `mu` releases the owner. -/
theorem allowed_release (hinv : Inv s) (hmu : s.mu = some thread) :
    Allowed thread s s.releaseBoundConnect := by
  obtain ⟨hmu', hfields, hown, hcurrent, hhistory⟩ := release_fields s
  have hlease : leaseOf s.releaseBoundConnect.history = none := by
    rw [hhistory, leaseOf_append, leaseStep]
    split
    · rfl
    · rename_i hne
      cases hleased : leaseOf s.history with
      | none => rfl
      | some requestID =>
        rw [hleased, (hinv.leased requestID hleased).2.1] at hne
        exact absurd rfl hne
  obtain ⟨hpromotions, hrevocations⟩ := hinv.history_append
    (.released s.ownership.boundConnectRequestID) nofun nofun
  constructor
  · constructor
    · intro call hcall
      rw [length_release]
      exact hinv.current call (hcurrent ▸ hcall)
    · intro call c' hc' hne
      obtain ⟨c, hc, hreleased⟩ := back_release hc'
      have h := hinv.retired call c hc (hcurrent ▸ hne)
      rcases hreleased with rfl | ⟨rfl, -, -⟩
      · exact h
      · exact ⟨h.1, rfl⟩
    · intro call c' hc'
      obtain ⟨c, hc, hreleased⟩ := back_release hc'
      have h := hinv.named call c hc
      rcases hreleased with rfl | ⟨rfl, -, -⟩ <;> exact h
    · intro call c' hc'
      obtain ⟨c, hc, hreleased⟩ := back_release hc'
      have h := hinv.cancelled call c hc
      rcases hreleased with rfl | ⟨rfl, -, -⟩ <;> exact h
    · rw [hown]
      exact fun h => absurd rfl h
    · rw [hown]
      exact fun _ h => absurd rfl h
    · rw [hown]
      exact nofun
    · rw [hlease]
      exact nofun
    · rw [hown]
      exact fun _ => rfl
    · rw [hhistory]
      exact hpromotions
    · rw [hhistory]
      exact hrevocations
  · intro j hj
    constructor
    · exact fun h => absurd (Option.some.inj (hmu.symm.trans h)) (Ne.symm hj)
    · intro call c hc
      obtain ⟨c', hc', hreleased⟩ := at_release hc
      refine ⟨c', hc', ?_⟩
      rcases hreleased with rfl | ⟨rfl, -, -⟩
      · exact .refl c'
      · exact ⟨rfl, rfl, rfl, id, fun _ _ => rfl⟩
    · exact fun call requestID h => h.release
    · exact fun call requestID _ hfresh => hfresh.release hinv
    · intro requestID _
      rw [ownedMarks, ownedMarks, hhistory]
      exact ownedMarks_append nofun

/-- Assignments to the ownership by the thread that holds `mu` leave the calls
alone. -/
theorem Rely.of_ownership {s s' : Shared} {thread j : Nat} (hj : j ≠ thread)
    (hmu : s.mu = some thread) (hcalls : s'.calls = s.calls)
    (hcurrent : s'.boundConnectCall = s.boundConnectCall)
    (hfresh : ∀ call requestID, Mine j call requestID s → Fresh call s →
      s'.ownership.boundConnectRequestID = "")
    (howned : ∀ requestID, AllDone requestID s s' →
      ownedMarks requestID s' = ownedMarks requestID s) : Rely j s s' where
  held := fun h => absurd (Option.some.inj (hmu.symm.trans h)) (Ne.symm hj)
  calls := fun call c hc => ⟨c, by rwa [Shared.At, hcalls], .refl c⟩
  mine := by
    rintro call requestID ⟨hbound, c, hc, h⟩
    exact ⟨hcurrent.trans hbound, c, by rwa [Shared.At, hcalls], h⟩
  fresh := by
    intro call requestID hmine hf
    obtain ⟨-, c, hc, hs⟩ := id hf
    exact ⟨hfresh call requestID hmine hf, c, by rwa [Shared.At, hcalls], hs⟩
  owned := howned

/-- A thread makes its own call the owner. -/
theorem allowed_own {thread call : Nat} (hinv : Inv s) (hmu : s.mu = some thread)
    (hmine : Mine thread call requestID s) (hfresh : Fresh call s) :
    Allowed thread s (s.own requestID peer) := by
  obtain ⟨hbound, c, hc, hthread, hrequest, hdone⟩ := hmine
  obtain ⟨hnone, c', hc', hstopped⟩ := hfresh
  cases hc.symm.trans hc'
  have hlease : leaseOf s.history = none := by
    cases hleased : leaseOf s.history with
    | none => rfl
    | some other =>
      obtain ⟨-, -, href⟩ := hinv.leased other hleased
      exact absurd (hinv.unowned hnone) href
  have hlease' : leaseOf (s.own requestID peer).history = none := by
    show leaseOf (s.history ++ [.owned requestID]) = none
    rw [leaseOf_append]
    exact hlease
  obtain ⟨hpromotions, hrevocations⟩ := hinv.history_append (.owned requestID) nofun nofun
  constructor
  · refine { hinv with
      owner := fun _ => ⟨call, c, hbound, hc, hrequest, hstopped⟩
      transaction := fun h => absurd (hmu.symm.trans h) nofun
      promoted := nofun
      leased := fun other h => absurd (hlease'.symm.trans h) nofun
      unowned := fun h => absurd (hrequest.trans h) (hinv.named call c hc)
      promotions := hpromotions
      revocations := hrevocations }
  · intro j hj
    refine .of_ownership hj hmu rfl rfl ?_ ?_
    · rintro other requestID' ⟨hbound', c', hc', ht, -⟩ -
      cases hbound.symm.trans hbound'
      cases hc.symm.trans hc'
      exact absurd (ht.symm.trans hthread) hj
    · intro other hall
      by_cases hsame : other = requestID
      · subst hsame
        obtain ⟨c', hc', hd⟩ := hall call c hc hrequest
        cases hc.symm.trans hc'
        exact absurd (hdone.symm.trans hd) nofun
      · exact ownedMarks_append fun h => hsame (Mark.owned.inj h).symm

/-- Assignments that leave the owner are allowed when they keep the lease in
step. -/
theorem allowed_lease {s s' : Shared} {mark : Mark} (hinv : Inv s) (hmu : s.mu = some thread)
    (hmu' : s'.mu = s.mu) (hcalls : s'.calls = s.calls)
    (hcurrent : s'.boundConnectCall = s.boundConnectCall)
    (hsame : s'.ownership.boundConnectRequestID = s.ownership.boundConnectRequestID)
    (hhistory : s'.history = s.history ++ [mark]) (hmark : ∀ requestID, mark ≠ .owned requestID)
    (hp : ∀ requestID, mark = .promoted requestID → leaseOf s.history = none)
    (hr : ∀ requestID, mark = .revoked requestID → leaseOf s.history = some requestID)
    (hlease : leaseOf s'.history = some s.ownership.boundConnectRequestID)
    (hne : s.ownership.boundConnectRequestID ≠ "") (href : s'.ownership.transportLeaseRef ≠ "") :
    Allowed thread s s' := by
  obtain ⟨hpromotions, hrevocations⟩ := hinv.history_append mark hp hr
  constructor
  · constructor
    · rw [hcalls, hcurrent]
      exact hinv.current
    · unfold Shared.At
      rw [hcalls, hcurrent]
      exact hinv.retired
    · unfold Shared.At
      rw [hcalls]
      exact hinv.named
    · unfold Shared.At
      rw [hcalls]
      exact hinv.cancelled
    · unfold Shared.At
      rw [hcalls, hcurrent, hsame]
      exact hinv.owner
    · intro h
      exact absurd (hmu.symm.trans (hmu'.symm.trans h)) nofun
    · rw [hlease, hsame]
      exact fun _ => rfl
    · intro requestID h
      cases hlease.symm.trans h
      exact ⟨hne, hsame, href⟩
    · rw [hsame]
      exact fun h => absurd h hne
    · rw [hhistory]
      exact hpromotions
    · rw [hhistory]
      exact hrevocations
  · intro j hj
    refine .of_ownership hj hmu hcalls hcurrent ?_ ?_
    · rintro call requestID - ⟨hnone, -⟩
      exact absurd hnone hne
    · intro requestID _
      rw [ownedMarks, ownedMarks, hhistory]
      exact ownedMarks_append (hmark requestID)

theorem allowed_promote {leaseRef : String} (hinv : Inv s) (hmu : s.mu = some thread)
    (hne : s.ownership.boundConnectRequestID ≠ "") (hunleased : s.ownership.transportLeaseRef = "")
    (href : leaseRef ≠ "") : Allowed thread s (s.promote leaseRef) := by
  have hnone : leaseOf s.history = none := by
    cases hleased : leaseOf s.history with
    | none => rfl
    | some other => exact absurd hunleased (hinv.leased other hleased).2.2
  refine allowed_lease hinv hmu rfl rfl rfl rfl rfl nofun (fun _ _ => hnone) nofun ?_ hne href
  exact leaseOf_append ..

theorem allowed_demote (hinv : Inv s) (hmu : s.mu = some thread)
    (hpromoted : s.ownership.transportPromoted = true) : Allowed thread s s.demote := by
  have hlease := hinv.promoted hpromoted
  obtain ⟨hne, -, href⟩ := hinv.leased _ hlease
  refine allowed_lease hinv hmu rfl rfl rfl rfl rfl nofun nofun ?_ ?_ hne href
  · rintro requestID ⟨⟩
    exact hlease
  · exact (leaseOf_append ..).trans hlease

end Pokrov.Linux.Service
