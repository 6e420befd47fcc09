import Pokrov.Linux.Service.Requests
import Pokrov.Linux.Service.SessionKeeping

/-!
# No run shows another session's health

How a connect comes to a session with a health of its own, the requests and
watchers around the lock, and from them what every snapshot of every run shows.
-/

namespace Pokrov.Linux.Service

open Effects Outline

variable {P : Payloads} {α β : Type} {task : Task} {request : Request}

/-! ## Connecting -/

variable {p : Fields → Account → Prop}

/-- A check leaves a refusal, or nothing. -/
theorem Leads.checks {m : Locked (Option Response)} (hm : Declines plain m) :
    Leads P task m p fun r f a =>
      (∀ response, r = some response → response.Refuses) ∧ p f a :=
  .yields (R := fun _ (r : Option Response) => ∀ response, r = some response → response.Refuses) hm

/-- A refusal is answered, and otherwise the program goes on. -/
theorem Leads.refusing {m : Locked (Option Response)} (hm : Declines plain m)
    {n : Option Response → Locked Response} (hp : ∀ f a, p f a → Vouched f a)
    (hsome : ∀ response, n (some response) = (Pure.pure response : Locked Response))
    (hnone : Leads P task (n none) p fun r f a => Vouched f a ∧ Attests r f a) :
    Leads P task (m >>= n) p fun r f a => Vouched f a ∧ Attests r f a := by
  refine .bind (.checks hm) fun r => ?_
  rcases r with _ | response
  · exact hnone.mono (fun _ _ h => h.2) fun _ _ _ h => h
  · rw [hsome]
    exact .pure fun f a h => ⟨hp f a h.2, .of_none (h.1 response rfl).2⟩

variable (context : Option Nat)

theorem speaks_prepareFailure (request : Request) (error : PrepareError) :
    Speaks P task (prepareFailure context request error) := by
  refine .refusing (declines_cancelledConnect context request) (fun _ _ => id) (fun _ => rfl) ?_
  cases error with
  | deadline => exact Speaks.failure _ _
  | identityMismatch => exact Speaks.failure _ _
  | other => exact speaks_runtimeFailure request

theorem speaks_executeFailure (request : Request) (core : Nat) (restored : Bool) :
    Leads P task (executeFailure context request core restored) (fun f _ => f.transaction ≠ none)
      fun r f a => Vouched f a ∧ Attests r f a := by
  refine .bind (q := fun _ f _ => f.transaction ≠ none ∧ f.phase = .configStaged)
    (.modify fun f a h => ⟨h, rfl⟩) fun _ => ?_
  refine .ite (fun _ => (speaks_runtimeFailure request).mono ?_ fun _ _ _ h => h) fun _ => ?_
  · rintro f a ⟨htransaction, hphase⟩
    exact .of_hidden (.of_some htransaction) (.inl (by simp [hphase]))
  refine .bind (q := fun _ => Cleared) (leads_clearRuntime fun f a h => ?_) fun _ => ?_
  · exact ⟨rfl, rfl, rfl, by simp [h.2]⟩
  have hcleared : ∀ (f : Fields) (a : Account) (reason : String), Cleared f a →
      Vouched { f with lastFailure := reason } a := fun f a reason h =>
    Cleared.vouched ⟨h.transaction, h.core, h.owner, h.phase⟩
  refine .bind (.checks (declines_cancelledConnect context request)) fun r => ?_
  rcases r with _ | response
  · refine .bind (.still rfl) fun expired => .ite (fun _ => ?_) fun _ => ?_
    · refine .bind (q := fun _ => Vouched) (.modify fun f a h => ?_) fun _ => Speaks.failure _ _
      exact hcleared f a _ h.2
    · exact (speaks_runtimeFailure request).mono (fun _ _ h => h.2.vouched) fun _ _ _ h => h
  · refine .bind (q := fun _ f a => Vouched f a ∧ response.Refuses) (.modify fun f a h => ?_) fun _ =>
      .pure fun f a h => ⟨h.1, .of_none h.2.2⟩
    exact ⟨⟨(hcleared f a "" h.2).running, (hcleared f a "" h.2).owed⟩, h.1 response rfl⟩

theorem speaks_stopConnected (request : Request) (networkChanged : Bool) :
    Leads P task (stopConnected context request networkChanged) Stoppable
      fun r f a => Vouched f a ∧ Attests r f a := by
  refine .bind leads_stop fun stopped => .ite (fun _ => speaks_runtimeFailure request) fun _ => ?_
  refine .bind (q := fun _ => Vouched) ?_ fun _ => ?_
  · exact Sustains.modify fun f => ⟨rfl, rfl, rfl, rfl, .inl rfl⟩
  refine .ite (fun _ => ?_) fun _ => .bind (.still rfl) fun cause => ?_
  · refine .bind (q := fun _ => Vouched) ?_ fun _ => Speaks.failure _ _
    exact Sustains.modify fun f => ⟨rfl, rfl, rfl, rfl, .inr (by simp)⟩
  · rcases cause with _ | cause
    · exact Speaks.failure _ _
    · exact .pure fun f a h => ⟨h, .of_none (refuses_cancelledConnectResponse request cause).2⟩

/-- The task of an unbound connect. -/
def Task.Unbound (task : Task) : Prop :=
  ∃ peer request, task = .request peer request ∧ request.action = .connect

/-- A live session that vouches for a health. -/
def UpWith (health : Health) (f : Fields) (a : Account) : Prop :=
  ∃ s, Up f a s ∧ (health.green = true → s.Vouches health a.owner)

/-- The health of a session that has come up is the one that its probe has reported,
or none at all. -/
theorem speaks_finishConnect (expected : Option ExpectedIdentity) (result : HostResult)
    (transaction core : Nat) (hunbound : expected = none → task.Unbound) :
    Leads P task (finishConnect context request expected result core)
      (fun f a => Up f a { task := some task, core, transaction })
      fun r f a => Vouched f a ∧ Attests r f a := by
  refine .bind (q := fun _ f a => f.phase = .running ∧ f.lastFailure = "" ∧
    Up f a { task := some task, core, transaction }) (.modify fun f a h => ⟨rfl, rfl, h⟩) fun _ => ?_
  refine .bind (q := fun health f a => f.phase = .running ∧ f.lastFailure = "" ∧ UpWith health f a)
    ?_ fun health => ?_
  · cases expected with
    | none =>
      obtain ⟨peer, request', htask, haction⟩ := hunbound rfl
      refine .bind (q := fun probed f a => f.phase = .running ∧ f.lastFailure = "" ∧
        Up f a { task := some task, core, transaction, probed }) (.called rfl ?_) fun probed => ?_
      · rintro _ _ f a probed - - ⟨hphase, hfailure, hsession, hrest⟩
        refine ⟨hphase, hfailure, ?_, hrest⟩
        show (a.probed core probed).session = _
        simp [Account.probed, hsession]
      · refine .pure fun f a ⟨hphase, hfailure, hup⟩ => ⟨hphase, hfailure, _, hup, fun hgreen => ?_⟩
        refine .inl ⟨⟨peer, request', congrArg some htask, haction⟩, ?_⟩
        cases probed with
        | none => cases hgreen
        | some health => rfl
    | some identity =>
      refine .pure fun f a ⟨hphase, hfailure, hup⟩ => ⟨hphase, hfailure, _, hup, fun hgreen => ?_⟩
      cases hgreen
  refine .bind (.looks (plain_lateRefusal context expected)) fun refusal => ?_
  rcases refusal with _ | networkChanged
  · refine .bind (q := fun _ => Vouched) (.modify ?_) fun _ => .bind (.still rfl) fun _ =>
      speaks_snapshot result fun _ shown h => ⟨shown, rfl, h⟩
    rintro f a ⟨-, -, s, hup, hvouches⟩
    refine ⟨fun _ _ => ⟨s, hup.same rfl rfl, ?_⟩, .of_some (by simp [hup.2.1])⟩
    intro health' hsome hgreen
    cases hsome
    exact hvouches hgreen
  · refine (speaks_stopConnected context request networkChanged).mono ?_ fun _ _ _ h => h
    rintro f a ⟨-, -, s, hup, -⟩ hnone
    exact absurd (hup.2.1.symm.trans hnone) (Option.some_ne_none _)

theorem speaks_startConnect (peer : Peer) (expected : Option ExpectedIdentity) (result : HostResult)
    (transaction core : Nat) (hunbound : expected = none → task.Unbound) :
    Leads P task (startConnect context peer request expected result transaction core) p
      fun r f a => Vouched f a ∧ Attests r f a := by
  let begun : Fields → Account → Prop := fun f _ =>
    f.transaction = some transaction ∧ f.core = some core
  refine .bind (q := fun _ => begun) (.modify fun f a _ => ⟨rfl, rfl⟩) fun _ => ?_
  refine .bind (q := fun _ => begun) ?_ fun _ => ?_
  · cases expected with
    | none => exact .pure fun _ _ h => h
    | some identity => exact .called rfl fun _ _ f a _ _ _ h => h
  refine .bind (q := fun execution f a => begun f a ∧ (execution = .active →
    a.session = some { task := some task, core, transaction })) (.called rfl ?_) fun execution => ?_
  · rintro _ _ f a execution - - h
    refine ⟨h, ?_⟩
    rintro rfl
    rfl
  cases execution with
  | active =>
    refine (speaks_finishConnect context expected result transaction core hunbound).mono ?_
      fun _ _ _ h => h
    exact fun f a h => ⟨h.2 rfl, h.1.1, h.1.2⟩
  | restored =>
    refine (speaks_executeFailure context request core true).mono ?_ fun _ _ _ h => h
    exact fun f a h => by simp [h.1.1]
  | dirty =>
    refine (speaks_executeFailure context request core false).mono ?_ fun _ _ _ h => h
    exact fun f a h => by simp [h.1.1]

theorem speaks_prepareConnect (peer : Peer) (expected : Option ExpectedIdentity)
    (result : HostResult) (hunbound : expected = none → task.Unbound) :
    Speaks P task (prepareConnect context peer request expected result) := by
  refine .bind (.still rfl) fun exist => .ite (fun _ => Speaks.failure _ _) fun _ => ?_
  refine .bind (.looks (plain_newTransaction request)) fun transaction => ?_
  cases transaction with
  | none => exact speaks_runtimeFailure request
  | some transaction =>
    refine .bind (.still rfl) fun prepared => ?_
    cases prepared with
    | error error => exact speaks_prepareFailure context request error
    | ok core =>
      refine .refusing (declines_changedNetwork _ _ _ (.call rfl)) (fun _ _ => id)
        (fun _ => rfl) ?_
      exact speaks_startConnect context peer expected result transaction core hunbound

theorem speaks_connect (peer : Peer) (expected : Option ExpectedIdentity)
    (hunbound : expected = none → task.Unbound) :
    Speaks P task (connect context peer request expected) := by
  refine .bind (.still rfl) fun result => ?_
  refine .refusing (declines_refuseConnect context request expected result) (fun _ _ => id)
    (fun _ => rfl) ?_
  refine .bind (q := fun _ => Vouched) ?_ fun recovered => ?_
  · refine .bind (q := fun _ => Vouched) (.get fun _ _ h => h) fun f0 => ?_
    exact .ite (fun _ => Sustains.pure _) fun _ => .bind sustains_recoverPending fun _ => Sustains.pure _
  refine .ite (fun _ => speaks_runtimeFailure request) fun _ => ?_
  refine .bind (q := fun _ => Vouched) (.get fun _ _ h => h) fun f0 => ?_
  refine .ite (fun _ => .ite (fun _ => ?_) fun _ => speaks_runtimeFailure request) fun _ => ?_
  · exact speaks_snapshot result fun _ shown h => ⟨shown, rfl, h⟩
  · exact speaks_prepareConnect context peer expected result hunbound

/-- Without an expected identity a connect is unbound. -/
def Entitled (task : Task) (request : Request) (expected : Option ExpectedIdentity) : Prop :=
  expected = none → request.action = .connect ∨ request.action = .connectWithIdentity →
    task.Unbound

theorem speaks_handleLocked (peer : Peer) (request : Request) (expected : Option ExpectedIdentity)
    (hentitled : Entitled task request expected) :
    Speaks P task (handleLocked P context peer request expected) := by
  refine .bind (q := fun _ => Vouched) (.get fun _ _ h => h) fun f0 => ?_
  refine .ite (fun _ => speaks_runtimeFailure request) fun _ => ?_
  refine .refusing (declines_cancelledConnect context request) (fun _ _ => id) (fun _ => rfl) ?_
  dsimp only
  split
  case h_1 | h_2 => exact speaks_stageProfile
  case h_3 => exact speaks_invalidateProfile
  case h_4 h => exact speaks_connect context peer expected fun hnone => hentitled hnone (.inl h)
  case h_5 h => exact speaks_connect context peer expected fun hnone => hentitled hnone (.inr h)
  case h_6 => exact speaks_disconnect
  case h_7 => exact Speaks.failure _ _

/-! ## Around the lock -/

/-- The thread runs this task, and may not have given back the lock. -/
def Waiting (thread : Nat) (task : Task) (fresh : Prop) (r : Register) : Prop :=
  r.tasks[thread]? = some task ∧ (fresh → ¬ r.Left thread)

section Waiting

variable {thread : Nat} {fresh : Prop} {x : Shared × Register}

theorem Waiting.aside {x x' : Shared × Register} (h : Waiting thread task fresh x.2)
    (hrely : Aside thread x x') : Waiting thread task fresh x'.2 :=
  ⟨getElem?_started hrely.tasks h.1, fun hfresh hleft => h.2 hfresh (hrely.left hleft)⟩

theorem Waiting.used {r : Register} (h : Waiting thread task fresh r) :
    Waiting thread task False r :=
  ⟨h.1, False.elim⟩

theorem Attested.aside {j : Nat} {response : Response} {x x' : Shared × Register}
    (h : Attested thread response x.2) (hrely : Aside j x x') : Attested thread response x'.2 := by
  rcases h with h | ⟨handed, hthread, ⟨before, after, hhanded, hfirst⟩, hattests⟩
  · exact .inl h
  · obtain ⟨later, hlater⟩ := hrely.later
    refine .inr ⟨handed, hthread, ⟨before, after ++ later, ?_, hfirst⟩, hattests⟩
    rw [← hlater, hhanded]
    simp

theorem still_step {x' : Shared × Register} {e : Event Daemon} (hc : still e.call = true)
    (hinv : RegisterInv x) (h : (registered P).exec thread x e x') :
    RegisterInv x' ∧ ∀ j, Aside j x x' := by
  obtain ⟨⟨-, hshared⟩, -, hregister⟩ := h
  have hsame : x'.2 = x.2 := by
    rw [hregister]
    show Register.called thread e x.2 = x.2
    simp [Register.called, step_still _ _ e.answer hc, handedBy_inside _ _ (inside_of_still hc)]
  obtain ⟨hmu, hfields⟩ := effect_fields thread x.1 (inside_of_still hc)
  have howner : (x.2.account.step x.2.tasks[thread]? e.call e.answer).owner =
      (x.1.effect thread e.call).ownership.boundConnectRequestID := owner_step _ _ hinv.owner
  rw [step_still _ _ _ hc, ← hshared] at howner
  rw [← hshared] at hmu hfields
  refine ⟨⟨by rw [hsame]; exact howner, ?_, by rw [hsame]; exact hinv.counted⟩,
    fun j => ⟨fun h => ⟨hmu.trans h, by rw [hsame]⟩, ?_, ?_, ?_⟩⟩
  · rw [hmu, hfields, hsame]
    exact hinv.vouched
  · exact hsame.symm ▸ List.prefix_rfl
  · exact hsame.symm ▸ id
  · exact hsame.symm ▸ List.prefix_rfl

/-- A program that makes only still calls waits on. -/
theorem safea_waiting {m : Unlocked α} {R : α → Prop}
    (hm : (m ()).Yields (still · = true) fun y => R y.1) (hx : Waiting thread task fresh x.2) :
    (sessionOutline P).safea thread m (fun v _ x' => R v ∧ Waiting thread task fresh x'.2) () x := by
  refine (sessionOutline P).safe_of_yields (K := fun x => Waiting thread task fresh x.2)
    (fun x1 x2 e hc hinv h hexec => ?_) (fun x1 x2 hrely h => h.aside hrely) hm hx
  obtain ⟨hinv2, hrely⟩ := still_step hc hinv hexec
  exact ⟨hinv2, fun j _ => hrely j, h.aside (hrely thread)⟩

theorem safea_plain {m : Unlocked α} (hm : Plain m) (hx : Waiting thread task fresh x.2) :
    (sessionOutline P).safea thread m (fun _ _ x' => Waiting thread task fresh x'.2) () x :=
  safea_mono (safea_waiting (R := fun _ => True)
    ((hm ()).mono (fun _ => still_of_plain) fun _ _ => trivial) hx) fun _ _ _ h => h.2

theorem safea_still {c : DaemonCall} (hc : still c = true) (hx : Waiting thread task fresh x.2) :
    (sessionOutline P).safea thread (call c : Unlocked c.Answer)
      (fun _ _ x' => Waiting thread task fresh x'.2) () x :=
  safea_mono (safea_waiting (R := fun _ => True) ⟨hc, fun _ => trivial⟩ hx) fun _ _ _ h => h.2

theorem safea_registered {σ : Type} {c : DaemonCall} {k : c.Answer → Act Daemon σ α}
    {Q : α → σ → Shared × Register → Prop} {f : σ}
    (h : ∀ x1, Aside thread x x1 → RegisterInv x1 → ∀ r x2, (registered P).exec thread x1 ⟨c, r⟩ x2 →
      RegisterInv x2 ∧ (∀ j, j ≠ thread → Aside j x1 x2) ∧
        (sessionOutline P).safea thread (k r) Q f x2) :
    (sessionOutline P).safea thread (call c >>= k) Q f x :=
  h

/-- What holds under the lock is got from the invariant and given back to it, and
what is attested there is attested by what is handed back. -/
theorem safea_account_locked {m : Locked α} {R : α → Fields → Account → Prop}
    (hm : Leads P task m Vouched fun v f a => Vouched f a ∧ R v f a)
    (hx : Waiting thread task fresh x.2) :
    (sessionOutline P).safea thread (locked m) (fun v _ x' => Waiting thread task False x'.2 ∧
      (fresh → ∃ handed, handed.thread = thread ∧ x'.2.FirstLeft handed ∧
        R v handed.fields handed.account)) () x := by
  refine safea_registered ?_
  rintro x1 hrely hinv fields x2 ⟨⟨⟨hfree, hfields⟩, hshared⟩, -, hregister⟩
  have hx1 := hx.aside hrely
  have hsame : x2.2 = x1.2 := by
    rw [hregister]
    show Register.called thread ⟨.lock, fields⟩ x1.2 = x1.2
    simp [Register.called, Account.step, Register.handedBy]
  have hmu : x2.1.mu = some thread := by
    rw [hshared]
    rfl
  have howner : x2.2.account.owner = x2.1.ownership.boundConnectRequestID := by
    rw [hsame, hshared]
    exact hinv.owner
  have hx2 : Holding thread task fresh x2 := ⟨hmu, hsame ▸ hx1.1, hsame ▸ hx1.2⟩
  have hvouched : Vouched fields x2.2.account := by
    rw [hfields, hsame]
    exact hinv.vouched hfree
  refine ⟨⟨howner, fun h => absurd (hmu.symm.trans h) (Option.some_ne_none _),
    hsame.symm ▸ hinv.counted⟩, fun j _ => ⟨fun h => ?_, ?_, ?_, ?_⟩, ?_⟩
  · exact absurd (hfree.symm.trans h) (Option.some_ne_none j).symm
  · exact hsame.symm ▸ List.prefix_rfl
  · exact hsame.symm ▸ id
  · exact hsame.symm ▸ List.prefix_rfl
  refine safea_bind ((sessionOutline P).safe_bind ((sessionOutline P).safe_mono
    (hm thread fresh fields x2 hx2 hvouched) ?_))
  rintro ⟨v, fields'⟩ x3 ⟨hx3, hvouched3, hr3⟩ x4 hrely4
  refine safea_registered ?_
  rintro x5 hrely5 hinv5 _ x6 ⟨⟨-, hshared6⟩, -, hregister6⟩
  have hx5 := (hx3.aside hrely4).aside hrely5
  have haccount : x5.2.account = x3.2.account :=
    (hrely5.held (hx3.aside hrely4).held).2.trans (hrely4.held hx3.held).2
  have haccount6 : x6.2.account = x5.2.account := by
    rw [hregister6]
    rfl
  have hhanded : x6.2.handed = x5.2.handed ++ [⟨thread, fields', x5.2.account⟩] := by
    rw [hregister6]
    rfl
  have htasks : x6.2.tasks = x5.2.tasks := by
    rw [hregister6]
    rfl
  have hleft : ∀ h ∈ x6.2.handed, h ∈ x5.2.handed ∨ h = ⟨thread, fields', x5.2.account⟩ := by
    intro h hmem
    rw [hhanded] at hmem
    simpa using hmem
  refine ⟨⟨?_, fun _ => ?_, fun h hmem => ?_⟩, fun j hj => ⟨fun h => ?_, ?_, fun h => ?_, ?_⟩, ?_⟩
  · rw [haccount6, hshared6]
    exact hinv5.owner
  · rw [haccount6, haccount, hshared6]
    exact hvouched3
  · rw [htasks]
    rcases hleft h hmem with hmem | rfl
    · exact hinv5.counted h hmem
    · exact (List.getElem?_eq_some_iff.mp hx5.task).1
  · exact absurd (Option.some.inj (h.symm.trans hx5.held)) hj
  · exact htasks.symm ▸ List.prefix_rfl
  · obtain ⟨handed, hmem, hthread⟩ := h
    rcases hleft handed hmem with hmem | rfl
    · exact ⟨handed, hmem, hthread⟩
    · exact absurd hthread.symm hj
  · exact hhanded.symm ▸ List.prefix_append _ _
  · intro x7 hrely7
    refine ⟨⟨getElem?_started hrely7.tasks (htasks ▸ hx5.task), False.elim⟩, fun hfresh => ?_⟩
    obtain ⟨later, hlater⟩ := hrely7.later
    refine ⟨⟨thread, fields', x5.2.account⟩, rfl, ⟨x5.2.handed, later, ?_, ?_⟩, ?_⟩
    · rw [← hlater, hhanded]
      simp
    · exact fun h hmem hthread => hx5.fresh hfresh ⟨h, hmem, hthread⟩
    · show R v fields' x5.2.account
      rwa [haccount]

end Waiting

/-! ## Requests -/

/-- The program of a request answers what is attested. -/
def Replies (P : Payloads) (task : Task) (m : Unlocked Response) : Prop :=
  ∀ thread x, Waiting thread task True x.2 → (sessionOutline P).safea thread m
    (fun r _ x' => Waiting thread task False x'.2 ∧ Attested thread r x'.2) () x

namespace Replies

variable {m : Unlocked Response}

theorem pure {response : Response} (h : response.snapshot = none) :
    Replies P task (pure response) :=
  fun _ _ hx _ hrely => ⟨(hx.aside hrely).used, .inl h⟩

theorem failure (errorCode messageCode : String) :
    Replies P task (Pure.pure (.failure request errorCode messageCode)) :=
  pure rfl

theorem looks {m : Unlocked α} {n : α → Unlocked Response} (hm : Plain m)
    (hn : ∀ v, Replies P task (n v)) : Replies P task (m >>= n) :=
  fun thread _ hx => safea_seq (safea_plain hm hx)
    fun v _ x' hx' => hn v thread x' hx'

theorem refusing {m : Unlocked (Option Response)} {n : Option Response → Unlocked Response}
    (hm : Declines plain m) (hsome : ∀ response, n (some response) = Pure.pure response)
    (hnone : Replies P task (n none)) : Replies P task (m >>= n) := by
  intro thread x hx
  refine safea_seq (safea_waiting (R := fun r => ∀ response, r = some response →
    response.Refuses) ((hm ()).mono (fun _ => still_of_plain) fun _ h => h.2) hx) ?_
  rintro r _ x' ⟨hr, hx'⟩
  rcases r with _ | response
  · exact hnone thread x' hx'
  · rw [hsome]
    exact Replies.pure (hr response rfl).2 thread x' hx'

theorem ite {b : Prop} [Decidable b] {n : Unlocked Response} (hm : b → Replies P task m)
    (hn : ¬ b → Replies P task n) : Replies P task (if b then m else n) := by
  by_cases hb : b
  · rw [if_pos hb]
    exact hm hb
  · rw [if_neg hb]
    exact hn hb

theorem locked {m : Locked Response} (hm : Speaks P task m) : Replies P task (locked m) := by
  intro thread x hx
  refine safea_mono (safea_account_locked hm hx) fun r _ x' h => ⟨h.1, ?_⟩
  exact .inr (h.2 trivial)

end Replies

section Requests

variable {peer : Peer}

theorem replies_cancelConnect : Replies P task (cancelConnect P peer request) := by
  unfold cancelConnect
  split
  · refine .ite (fun _ => .failure _ _) fun _ => .looks (.connectMu rfl) fun lookup => ?_
    cases lookup with
    | unknown => exact .pure rfl
    | denied => exact .failure _ _
    | found call =>
      refine .looks (.call rfl) fun finished => .ite (fun _ => .pure rfl) fun _ => ?_
      exact .locked (speaks_settleCancelled peer _ call)
  · exact .failure _ _

theorem replies_promoteTransportLease :
    Replies P task (promoteTransportLease P peer request) := by
  unfold promoteTransportLease
  cases P.promotion request.payload with
  | none => exact .failure _ _
  | some target =>
    refine .ite (fun _ => .failure _ _) fun hvalid => .locked (speaks_promoteLocked peer ?_)
    obtain ⟨href, -⟩ := not_or.mp hvalid
    have hlow : 0 < 32 := by decide
    exact ne_empty_of_matchesClass hlow (not_not.mp href)

theorem replies_revokeTransportLease :
    Replies P task (revokeTransportLease P peer request) := by
  unfold revokeTransportLease
  cases P.revocation request.payload with
  | none => exact .failure _ _
  | some target =>
    dsimp only
    cases target.terminateActive with
    | none => exact .failure _ _
    | some terminateActive =>
      exact .ite (fun _ => .failure _ _) fun _ =>
        .locked (speaks_revokeLocked peer target terminateActive)

theorem replies_handleAuthorized {context : Option Nat} {expected : Option ExpectedIdentity}
    (hentitled : Entitled task request expected) :
    Replies P task (handleAuthorized P context peer request expected) := by
  refine .refusing (declines_cancelledConnect context request) (fun _ => rfl) ?_
  refine .looks (plain_authorize peer) fun authorized => .ite (fun _ => ?_) fun _ => ?_
  · refine .refusing (declines_cancelledConnect context request) (fun _ => rfl) ?_
    intro thread x hx
    refine safea_seq (safea_account_locked (R := fun _ _ _ => True)
      (.pure fun _ _ h => ⟨h, trivial⟩) hx) fun _ _ x' h => ?_
    exact fun x'' hrely => ⟨h.1.aside hrely, .inl rfl⟩
  · exact .locked (speaks_handleLocked context peer request expected hentitled)

/-- What is attested stays so while the call is given up. -/
theorem safea_finishBoundConnect_account {thread call' : Nat} {requestID : String}
    {response : Response} {x : Shared × Register} (hx : Waiting thread task False x.2)
    (hattested : Attested thread response x.2) :
    (sessionOutline P).safea thread (finishBoundConnect call' requestID)
      (fun _ _ x' => Waiting thread task False x'.2 ∧ Attested thread response x'.2) () x := by
  refine safea_and (K := fun (x : Shared × Register) => Attested thread response x.2)
    (fun _ _ _ h hrely => h.aside hrely) ?_ hattested
  refine safea_seq (safea_still rfl hx) fun _ _ x' hx' => ?_
  exact safea_mono (safea_account_locked (R := fun _ _ _ => True)
    ((Leads.still rfl).mono (fun _ _ => id) fun _ _ _ h => ⟨h, trivial⟩) hx') fun _ _ _ h => h.1

theorem replies_connectWithIdentity : Replies P task (connectWithIdentity P peer request) := by
  unfold connectWithIdentity
  cases P.expectedIdentity request.payload with
  | none => exact .failure _ _
  | some identity =>
    intro thread x hx
    refine safea_seq (safea_still (c := .connectMu _) rfl hx) ?_
    intro admission _ x' hx'
    cases admission with
    | refused unowned => exact Replies.pure rfl thread x' hx'
    | begun call' =>
      have hauthorized : Replies P task
          (handleAuthorized P (some call') peer request (some identity)) :=
        replies_handleAuthorized fun hnone => absurd hnone (Option.some_ne_none _)
      refine safea_seq ((Replies.refusing
        (declines_changedNetwork _ _ _ (.pure _)) (fun _ => rfl) hauthorized) thread x' hx') ?_
      rintro response _ x'' ⟨hx'', hattested⟩
      refine safea_seq (safea_finishBoundConnect_account hx'' hattested) ?_
      rintro _ _ x3 ⟨hx3, hattested3⟩ x4 hrely
      exact ⟨hx3.aside hrely, hattested3.aside hrely⟩

theorem replies_handle (peer : Peer) (request : Request) :
    Replies P (.request peer request) (handle P peer request) := by
  -- a connect that names no identity is the unbound one
  have hentitled : request.action ≠ .connectWithIdentity →
      Entitled (.request peer request) request none := fun hbound _ haction =>
    ⟨peer, request, rfl, haction.resolve_right hbound⟩
  unfold handle
  split
  case h_1 => exact replies_cancelConnect
  case h_2 => exact replies_promoteTransportLease
  case h_3 => exact replies_revokeTransportLease
  case h_4 =>
    refine .ite (fun _ => .failure _ _) fun _ => .looks (.call rfl) fun now => ?_
    cases now with
    | none => exact .failure _ _
    | some now => exact .pure rfl
  case h_5 =>
    refine .looks (.call rfl) fun ref => ?_
    cases ref with
    | none => exact .failure _ _
    | some ref => exact .pure rfl
  case h_6 => exact .locked speaks_status
  case h_7 => exact .locked speaks_initializeHost
  case h_8 => exact .pure rfl
  case h_9 => exact replies_connectWithIdentity
  case h_10 h | h_11 h | h_12 h | h_13 h | h_14 h =>
    exact replies_handleAuthorized (hentitled (by simp [h]))

end Requests

/-! ## Watchers -/

/-- The program goes on whatever it finds. -/
abbrev Roams (P : Payloads) (task : Task) (m : Unlocked α) : Prop :=
  (sessionOutline P).Upholds (fun thread _ x => Waiting thread task False x.2) m

namespace Roams

variable {m : Unlocked α}

theorem looks (hm : Plain m) : Roams P task m := fun _ _ _ hx => safea_plain hm hx

theorem locked {m : Locked α} (hm : Sustains P task m) : Roams P task (locked m) :=
  fun _ _ _ hx => safea_mono (safea_account_locked (R := fun _ _ _ => True)
    (hm.mono (fun _ _ => id) fun _ _ _ h => ⟨h, trivial⟩) hx) fun _ _ _ h => h.1

end Roams

theorem roams_watchCore (core : Nat) : Roams P task (watchCore core) := by
  refine .bind (Roams.looks (.call rfl)) fun _ => Roams.locked ?_
  refine .bind (q := fun _ => Vouched) (.get fun _ _ h => h) fun f0 => ?_
  exact .ite (fun _ => Sustains.pure _) fun _ => sustains_settleExitedCore core

theorem roams_watchBoundPeer (call' : Nat) (peer : Peer) (requestID networkRef : String) :
    Roams P task (watchBoundPeer call' peer requestID networkRef) :=
  upholds_watchBoundPeer Roams.looks (fun _ => Roams.locked (.still rfl))
    fun networkChanged => Roams.locked (sustains_stopWatched peer requestID networkChanged)

/-! ## Every run -/

/-- A watcher leaves no response. -/
theorem safea_roaming {thread : Nat} {x : Shared × Register} {m : Unlocked α} (hm : Roams P task m)
    (hx : Waiting thread task False x.2) :
    (sessionOutline P).safea thread (do
      let _ ← m
      return (.inr ⟨task, none⟩ : Task ⊕ Reply))
      (fun r _ x' => (sessionOutline P).ending thread r x') () x := by
  refine safea_seq (hm thread () x hx) fun _ _ _ _ _ _ _ _ _ h => ?_
  cases h

theorem safea_runTask_account {thread : Nat} {x : Shared × Register} (hx : Enters thread task x.2) :
    (sessionOutline P).safea thread (runTask P task)
      (fun r _ x' => (sessionOutline P).ending thread r x') () x := by
  have hwaiting : Waiting thread task False x.2 := ⟨hx.1, False.elim⟩
  cases task with
  | request peer request =>
    have hfresh : Waiting thread (.request peer request) True x.2 :=
      ⟨hx.1, fun _ => hx.2 peer request rfl⟩
    refine safea_seq (replies_handle peer request thread x hfresh) ?_
    rintro response _ x' ⟨-, hattested⟩ x'' hrely peer' request' response' heq
    cases heq
    exact hattested.aside hrely
  | watchBoundPeer call' peer requestID networkRef =>
    refine safea_seq (roams_watchBoundPeer call' peer requestID networkRef thread () x
      hwaiting) fun again _ x' hx' => ?_
    refine safea_ite (fun _ x'' hrely => ⟨(hx'.aside hrely).1, fun _ _ h => nomatch h⟩)
      fun _ x'' _ => ?_
    exact fun _ _ _ h => nomatch h
  | watchCore core => exact safea_roaming (roams_watchCore core) hwaiting
  | cancelBoundNetwork => exact safea_roaming (.looks (.connectMu rfl)) hwaiting
  | recover => exact safea_roaming (.locked sustains_recover) hwaiting
  | close => exact safea_roaming (.locked sustains_close) hwaiting

theorem ending_session_aside {thread : Nat} {r : Task ⊕ Reply} {x x' : Shared × Register}
    (h : (sessionOutline P).ending thread r x) (hrely : Aside thread x x') :
    (sessionOutline P).ending thread r x' := by
  rcases r with task | reply
  · exact ⟨getElem?_started hrely.tasks h.1, fun peer request htask hleft =>
      h.2 peer request htask (hrely.left hleft)⟩
  · exact fun peer request response hreply => (h peer request response hreply).aside hrely

theorem numbered_sessionOutline : (sessionOutline P).Numbered fun x => x.2.tasks.length where
  start := by
    rintro x x' task hinv ⟨hstarts, hregister⟩
    have hsame := same_starts hstarts
    have haccount : x'.2.account = x.2.account := by
      rw [hregister]
      rfl
    have hhanded : x'.2.handed = x.2.handed := by
      rw [hregister]
      rfl
    have htasks : x'.2.tasks = x.2.tasks ++ [task] := by
      rw [hregister]
      rfl
    have hleft : ∀ j, x'.2.Left j → x.2.Left j := by
      intro j
      unfold Register.Left
      rw [hhanded]
      exact id
    have hlast : ¬ x.2.Left x.2.tasks.length := by
      rintro ⟨handed, hmem, hthread⟩
      exact absurd (hthread ▸ hinv.counted handed hmem) (Nat.lt_irrefl _)
    refine ⟨⟨?_, ?_, fun handed hmem => ?_⟩, fun j => ⟨fun h => ⟨hsame.mu.trans h, haccount⟩, ?_, hleft j, ?_⟩,
      ⟨?_, fun _ _ _ h => hlast (hleft _ h)⟩, ?_⟩
    · rw [haccount, hsame.ownership]
      exact hinv.owner
    · rw [hsame.mu, hsame.fields, haccount]
      exact hinv.vouched
    · rw [htasks, List.length_append]
      exact Nat.lt_add_right _ (hinv.counted handed (hhanded ▸ hmem))
    · exact htasks.symm ▸ List.prefix_append _ _
    · exact hhanded.symm ▸ List.prefix_rfl
    · rw [htasks]
      simp
    · simp [htasks]
  exec := by
    rintro thread x x' e ⟨-, -, hregister⟩
    show x'.2.tasks.length = x.2.tasks.length
    rw [hregister]
    rfl
  body := fun {thread task x} _ henters => (sessionOutline P).safe_bind <|
    (sessionOutline P).safe_mono (safea_runTask_account henters) fun _ _ h _ hrely =>
      ending_session_aside h hrely

theorem good_of_registered {p : Pool Daemon (Shared × Register) Task Reply} (h : Registered P p) :
    (sessionOutline P).Good p := by
  obtain ⟨profilesExist, hrun⟩ := h
  have hnew : (sessionOutline P).Good ⟨(.new profilesExist, {}), []⟩ := by
    refine ⟨⟨rfl, fun _ => .of_hidden (fun _ => ⟨rfl, rfl⟩) (.inl ?_), fun h hmem => ?_⟩,
      fun i program hi => ?_⟩
    · cases profilesExist <;> simp [Shared.new]
    · cases hmem
    · cases hi
  exact (Good.run_numbered numbered_sessionOutline hnew rfl hrun).1

/-- **Its own health.** Whatever the Core, the transactions and the storage answer
and however the threads interleave, a snapshot shows no health but that of the live
session: what its own probe has reported if an unbound connect has started it, or
the one of the current owner whose lease was promoted on it and not revoked since. -/
theorem own_health (P : Payloads) (p : Pool Daemon (Shared × Register) Task Reply)
    (h : Registered P p) : OwnHealth p := by
  have hgood := good_of_registered h
  refine ⟨fun i peer request response shown hanswer hshown hgreen => ?_, hgood.1.owner⟩
  have hattested : Attested i response p.shared.2 :=
    hgood.answered (Pool.answer_eq_some hanswer) _ _ _ rfl
  rcases hattested with hnone | ⟨handed, hthread, hfirst, hattests⟩
  · exact absurd (hnone.symm.trans hshown) (Option.some_ne_none _).symm
  · obtain ⟨hphase, hrunning, s, health, ⟨hsession, htransaction, hcore⟩, hegress, hdns, hvouches⟩ :=
      hattests shown hshown hgreen
    exact ⟨hphase, handed, s, health, hthread, hfirst, hrunning, hsession, htransaction, hcore,
      hegress, hdns, hvouches⟩

def registeredPlayer (P : Payloads) : Player (registered P) Bool :=
  (player P).watched registerWatch (fun _ _ _ => true) fun _ _ _ _ => trivial

def registeredPlayed : Pool Daemon (Shared × Register) Task Reply :=
  (registeredPlayer samplePayloads).play ⟨(.new true, {}), []⟩ promotedSchedule

/-- What the snapshot of a promotion shows, its lease stands for. -/
theorem registeredPlayed_ownHealth :
    OwnHealth registeredPlayed ∧ ((registeredPlayed.answer 2).bind (·.response)).bind
      (fun response => response.snapshot.bind (·.coreEgressValidated)) = some true := by
  have h := own_health samplePayloads registeredPlayed
    ⟨true, (registeredPlayer samplePayloads).run_play _ _⟩
  exact ⟨h, by decide +kernel⟩

end Pokrov.Linux.Service
