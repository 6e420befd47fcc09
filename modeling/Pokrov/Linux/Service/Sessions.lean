import Pokrov.Linux.Service.Phase

/-!
# Whose health a snapshot shows

The health record of the daemon outlives the session that it was taken of. An
account of the calls says which session is live, what its own probe has reported
and whose lease has been promoted on it; whenever the lock is free, a health that
the next snapshot would show is vouched for by the live session.
-/

namespace Pokrov.Linux.Service

open Effects Outline

/-! ## The account -/

/-- A transaction that has been executed and not been restored or recovered. -/
structure Session where
  /-- The task that has executed it. -/
  task : Option Task
  core : Nat
  transaction : Nat
  /-- What its own probe has reported. -/
  probed : Option Health := none
  /-- The owner whose lease has been promoted, until a revocation is attempted. -/
  lease : Option String := none

structure Account where
  owner : String := ""
  session : Option Session := none

namespace Account

def executed (task : Option Task) (transaction core : Nat) (a : Account) : Execution → Account
  | .active => { a with session := some { task, core, transaction } }
  | .restored => { a with session := none }
  | .dirty => { a with session := none }

/-- A recovery that finds nothing leaves the session alone. -/
def recovered (a : Account) : Except RecoverError Bool → Account
  | .ok false => a
  | .ok true => { a with session := none }
  | .error _ => { a with session := none }

def probed (core : Nat) (health : Option Health) (a : Account) : Account :=
  { a with session := a.session.map fun s =>
      if s.core = core then { s with probed := health } else s }

def leased (lease : Option String) (a : Account) : Account :=
  { a with session := a.session.map fun s => { s with lease } }

/-- What a call of a task does to the account. -/
def step (task : Option Task) (a : Account) : (c : DaemonCall) → c.Answer → Account
  | .own requestID _, _ => { a with owner := requestID }
  | .connectMu .releaseBoundConnect, _ => { a with owner := "" }
  | .execute transaction core, execution => a.executed task transaction core execution
  | .restore _, _ => { a with session := none }
  | .recoverSystem, outcome => a.recovered outcome
  | .coreProbe core, health => a.probed core health
  | .promote _, _ => a.leased (some a.owner)
  | .revokeATSLease _ _ _ _, _ => a.leased none
  | _, _ => a

end Account

/-- A thread has given back the lock, with these fields. -/
structure Handed where
  thread : Nat
  fields : Fields
  account : Account

/-- What is written down of a run. -/
structure Register where
  /-- The tasks of the threads. -/
  tasks : List Task := []
  account : Account := {}
  handed : List Handed := []

namespace Register

def started (task : Task) (r : Register) : Register := { r with tasks := r.tasks ++ [task] }

def handedBy (thread : Nat) (account : Account) : DaemonCall → List Handed
  | .unlock fields => [⟨thread, fields, account⟩]
  | _ => []

def called (thread : Nat) (e : Event Daemon) (r : Register) : Register :=
  { r with
    account := r.account.step r.tasks[thread]? e.call e.answer
    handed := r.handed ++ handedBy thread r.account e.call }

/-- The thread has given back the lock. -/
def Left (thread : Nat) (r : Register) : Prop := ∃ h ∈ r.handed, h.thread = thread

/-- What the thread has given back the lock with for the first time. -/
def FirstLeft (handed : Handed) (r : Register) : Prop :=
  ∃ before after, r.handed = before ++ handed :: after ∧ ∀ h ∈ before, h.thread ≠ handed.thread

end Register

def registerWatch : Watch Daemon Task Register where
  started := Register.started
  called := Register.called
  allows := fun _ _ _ => True

variable (P : Payloads)

/-- The daemon, with a register. -/
def registered : System Daemon (Shared × Register) Task Reply := (daemon P).watched registerWatch

def Registered (p : Pool Daemon (Shared × Register) Task Reply) : Prop :=
  ∃ profilesExist, (registered P).Run ⟨(.new profilesExist, {}), []⟩ p

variable {P}

/-- Every run of the daemon can be registered. -/
theorem Reachable.registered {p : Pool Daemon Shared Task Reply} (h : Reachable P p) :
    ∃ register, Registered P (p.noted register) := by
  obtain ⟨profilesExist, hrun⟩ := h
  have hfree : ∀ i e r, registerWatch.allows i e r := fun _ _ _ => trivial
  obtain ⟨register, hrun'⟩ := hrun.noted hfree {}
  exact ⟨register, profilesExist, hrun'⟩

/-! ## A health that is vouched for -/

/-- The session was started by an unbound connect. -/
def Session.Unbound (s : Session) : Prop :=
  ∃ peer request, s.task = some (.request peer request) ∧ request.action = .connect

/-- The session stands for a health: its own probe has reported it, or the lease of
the owner is promoted. -/
def Session.Vouches (s : Session) (health : Health) (owner : String) : Prop :=
  s.Unbound ∧ s.probed = some health ∨ s.lease = some owner ∧ owner ≠ ""

/-- What a daemon that shows no other session's health guarantees. -/
structure OwnHealth (p : Pool Daemon (Shared × Register) Task Reply) : Prop where
  /-- A snapshot that shows a health is taken while the runtime runs under a live
  transaction, which vouches for what it shows. -/
  shown : ∀ i peer request response shown,
    p.answer i = some ⟨.request peer request, some response⟩ →
    response.snapshot = some shown →
    shown.coreEgressValidated = some true ∨ shown.dnsReady = some true →
    shown.phase = .running ∧ ∃ handed session health, handed.thread = i ∧
      p.shared.2.FirstLeft handed ∧ handed.fields.phase = .running ∧
      handed.account.session = some session ∧
      handed.fields.transaction = some session.transaction ∧
      handed.fields.core = some session.core ∧
      shown.coreEgressValidated = some health.egressValidated ∧
      shown.dnsReady = some health.dnsReady ∧
      session.Vouches health handed.account.owner
  /-- The owner of the account is the one of the runtime. -/
  owner : p.shared.2.account.owner = p.shared.1.ownership.boundConnectRequestID

/-! ## The outline -/

/-- A session is live and the fields point to it. -/
def Up (f : Fields) (a : Account) (s : Session) : Prop :=
  a.session = some s ∧ f.transaction = some s.transaction ∧ f.core = some s.core

def Health.green (health : Health) : Bool := health.dnsReady || health.egressValidated

/-- Without a transaction there is neither a Core nor an owner. -/
def Owed (f : Fields) (a : Account) : Prop :=
  f.transaction = none → f.core = none ∧ a.owner = ""

/-- What the fields promise about the account. -/
structure Vouched (f : Fields) (a : Account) : Prop where
  running : f.phase = .running → f.lastFailure = "" → ∃ s, Up f a s ∧
    ∀ health, f.health = some health → health.green = true → s.Vouches health a.owner
  owed : Owed f a

structure RegisterInv (x : Shared × Register) : Prop where
  owner : x.2.account.owner = x.1.ownership.boundConnectRequestID
  vouched : x.1.mu = none → Vouched x.1.fields x.2.account
  /-- Only a thread that has started gives the lock back. -/
  counted : ∀ h ∈ x.2.handed, h.thread < x.2.tasks.length

/-- What the others leave alone. -/
structure Aside (thread : Nat) (x x' : Shared × Register) : Prop where
  held : x.1.mu = some thread → x'.1.mu = some thread ∧ x'.2.account = x.2.account
  tasks : x.2.tasks <+: x'.2.tasks
  left : x'.2.Left thread → x.2.Left thread
  later : x.2.handed <+: x'.2.handed

theorem Aside.refl (thread : Nat) (x : Shared × Register) : Aside thread x x :=
  ⟨fun h => ⟨h, rfl⟩, List.prefix_rfl, id, List.prefix_rfl⟩

variable {thread : Nat} {c : DaemonCall}

theorem Aside.trans {x x' x'' : Shared × Register} (h : Aside thread x x')
    (h' : Aside thread x' x'') : Aside thread x x'' where
  held := fun hmu => by
    obtain ⟨hmu', haccount⟩ := h.held hmu
    obtain ⟨hmu'', haccount'⟩ := h'.held hmu'
    exact ⟨hmu'', haccount'.trans haccount⟩
  tasks := h.tasks.trans h'.tasks
  left := fun hleft => h.left (h'.left hleft)
  later := h.later.trans h'.later

/-- What a response shows, fields and a live session stand for. -/
def Attests (response : Response) (f : Fields) (a : Account) : Prop :=
  ∀ shown, response.snapshot = some shown →
    shown.coreEgressValidated = some true ∨ shown.dnsReady = some true →
    shown.phase = .running ∧ f.phase = .running ∧ ∃ s health, Up f a s ∧
      shown.coreEgressValidated = some health.egressValidated ∧
      shown.dnsReady = some health.dnsReady ∧ s.Vouches health a.owner

/-- The response was attested when the thread first gave back the lock. -/
def Attested (thread : Nat) (response : Response) (r : Register) : Prop :=
  response.snapshot = none ∨ ∃ handed, handed.thread = thread ∧ r.FirstLeft handed ∧
    Attests response handed.fields handed.account

/-- What a task starts with. Only a request has to keep the lock once. -/
def Enters (thread : Nat) (task : Task) (r : Register) : Prop :=
  r.tasks[thread]? = some task ∧ ∀ peer request, task = .request peer request → ¬ r.Left thread

def sessionOutline (P : Payloads) : Outline (registered P) where
  inv := RegisterInv
  rely := Aside
  pre := fun thread task x => Enters thread task x.2
  post := fun thread reply x => ∀ peer request response,
    reply = ⟨.request peer request, some response⟩ → Attested thread response x.2
  refl := Aside.refl
  trans := Aside.trans

/-! ## Calls -/

/-- The calls that leave the lock and the account alone. -/
def still : DaemonCall → Bool
  | .lock => false
  | .unlock _ => false
  | .own _ _ => false
  | .connectMu .releaseBoundConnect => false
  | .execute _ _ => false
  | .restore _ => false
  | .recoverSystem => false
  | .coreProbe _ => false
  | .promote _ => false
  | .revokeATSLease _ _ _ _ => false
  | _ => true

theorem inside_of_still (h : still c = true) : inside c = true := by
  cases c <;> first | rfl | cases h

theorem still_of_plain (h : plain c = true) : still c = true := by
  cases c with
  | connectMu sec => cases sec <;> first | rfl | cases h
  | _ => first | rfl | cases h

theorem step_still (task : Option Task) (a : Account) (r : c.Answer) (h : still c = true) :
    a.step task c r = a := by
  cases c with
  | connectMu sec => cases sec <;> first | rfl | cases h
  | _ => first | rfl | cases h

theorem handedBy_inside (thread : Nat) (a : Account) (h : inside c = true) :
    Register.handedBy thread a c = [] := by
  cases c <;> first | rfl | cases h

theorem section_owner (thread : Nat) (s : Shared) {sec : Section}
    (h : sec ≠ .releaseBoundConnect) :
    (sec.run thread s).2.ownership = s.ownership := by
  by_cases hsec : sec.benign = true
  · exact (same_section thread hsec).ownership
  cases sec with
  | beginBoundConnect peer requestID networkRef =>
    show (s.beginBoundConnect thread peer requestID networkRef).2.ownership = s.ownership
    unfold Shared.beginBoundConnect
    split <;> rfl
  | finish call requestID => rfl
  | releaseBoundConnect => exact absurd rfl h
  | _ => exact absurd rfl hsec

/-- The account knows the owner after every call. -/
theorem owner_step {task : Option Task} {s : Shared} {a : Account} (c : DaemonCall) (r : c.Answer)
    (h : a.owner = s.ownership.boundConnectRequestID) :
    (a.step task c r).owner = (s.effect thread c).ownership.boundConnectRequestID := by
  cases c with
  | own requestID peer => rfl
  | connectMu sec =>
    by_cases hsec : sec = .releaseBoundConnect
    · subst hsec
      show "" = s.releaseBoundConnect.ownership.boundConnectRequestID
      rw [(release_fields s).2.2.1]
    · have hsame : (s.effect thread (.connectMu sec)).ownership = s.ownership :=
        section_owner thread s hsec
      rw [hsame, ← h]
      cases sec <;> first | rfl | exact absurd rfl hsec
  | execute transaction core =>
    rw [show (s.effect thread (.execute transaction core)).ownership = s.ownership from rfl, ← h]
    cases r <;> rfl
  | recoverSystem =>
    rw [show (s.effect thread .recoverSystem).ownership = s.ownership from rfl, ← h]
    rcases r with error | found
    · rfl
    · cases found <;> rfl
  | _ => exact h

/-! ## Programs that hold the lock -/

structure Holding (thread : Nat) (task : Task) (fresh : Prop) (x : Shared × Register) : Prop where
  held : x.1.mu = some thread
  task : x.2.tasks[thread]? = some task
  fresh : fresh → ¬ x.2.Left thread

theorem Holding.aside {task : Task} {fresh : Prop} {x x' : Shared × Register}
    (h : Holding thread task fresh x) (hrely : Aside thread x x') :
    Holding thread task fresh x' where
  held := (hrely.held h.held).1
  task := getElem?_started hrely.tasks h.task
  fresh := fun hfresh hleft => h.fresh hfresh (hrely.left hleft)

/-- What a call under the lock does, whatever it is. -/
theorem holding_step {task : Task} {fresh : Prop} {x x' : Shared × Register} {r : c.Answer}
    (hc : inside c = true) (hx : Holding thread task fresh x) (hinv : RegisterInv x)
    (h : (registered P).exec thread x ⟨c, r⟩ x') :
    RegisterInv x' ∧ (∀ j, j ≠ thread → Aside j x x') ∧ Holding thread task fresh x' ∧
      x'.2.account = x.2.account.step (some task) c r := by
  obtain ⟨⟨-, hshared⟩, -, hregister⟩ := h
  have hmu : x'.1.mu = some thread := by
    rw [hshared]
    exact (effect_fields thread x.1 hc).1.trans hx.held
  have hhanded : x'.2.handed = x.2.handed := by
    rw [hregister]
    show x.2.handed ++ Register.handedBy thread x.2.account c = x.2.handed
    simp [handedBy_inside thread x.2.account hc]
  have htasks : x'.2.tasks = x.2.tasks := by
    rw [hregister]
    rfl
  have haccount : x'.2.account = x.2.account.step (some task) c r := by
    rw [← hx.task, hregister]
    rfl
  have hleft : ∀ other, x'.2.Left other → x.2.Left other := by
    intro other
    unfold Register.Left
    rw [hhanded]
    exact id
  refine ⟨⟨?_, fun hfree => ?_, ?_⟩, fun j hj => ⟨fun hheld => ?_, ?_, hleft j, ?_⟩,
    ⟨hmu, htasks ▸ hx.task, fun hfresh h => hx.fresh hfresh (hleft _ h)⟩, haccount⟩
  · rw [haccount, hshared]
    exact owner_step c r hinv.owner
  · exact absurd (hmu.symm.trans hfree) (Option.some_ne_none _)
  · rw [hhanded, htasks]
    exact hinv.counted
  · exact absurd (Option.some.inj (hheld.symm.trans hx.held)) hj
  · exact htasks.symm ▸ List.prefix_rfl
  · exact hhanded.symm ▸ List.prefix_rfl

variable (P)

/-- From fields and an account like these the program comes to an answer, fields
and an account like those. -/
def Leads {α : Type} (task : Task) (m : Locked α) (pre : Fields → Account → Prop)
    (post : α → Fields → Account → Prop) : Prop :=
  ∀ thread fresh f x, Holding thread task fresh x → pre f x.2.account →
    (sessionOutline P).safea thread m
      (fun a f' x' => Holding thread task fresh x' ∧ post a f' x'.2.account) f x

variable {P}

section Leads

variable {α β : Type} {task : Task} {m : Locked α} {p p' : Fields → Account → Prop}
  {q q' : α → Fields → Account → Prop}

/-- What a program that does not call ends in. -/
theorem Leads.ret {g : Fields → α × Fields} (h : ∀ f a, p f a → q (g f).1 (g f).2 a) :
    Leads P task (fun f => .ret (g f)) p q := by
  intro thread fresh f x hx hpre x' hrely
  refine ⟨hx.aside hrely, ?_⟩
  rw [(hrely.held hx.held).2]
  exact h f _ hpre

theorem Leads.pure {v : α} (h : ∀ f a, p f a → q v f a) : Leads P task (pure v) p q :=
  .ret h

theorem Leads.get {q : Fields → Fields → Account → Prop} (h : ∀ f a, p f a → q f f a) :
    Leads P task MonadState.get p q :=
  .ret h

theorem Leads.modify {g : Fields → Fields} {q : Unit → Fields → Account → Prop}
    (h : ∀ f a, p f a → q () (g f) a) :
    Leads P task (MonadStateOf.modifyGet fun f => ((), g f)) p q :=
  .ret h

theorem Leads.mono (hm : Leads P task m p q) (hpre : ∀ f a, p' f a → p f a)
    (hpost : ∀ v f a, q v f a → q' v f a) : Leads P task m p' q' :=
  fun thread fresh f x hx h => safea_mono (hm thread fresh f x hx (hpre f _ h))
    fun v f' _ h' => ⟨h'.1, hpost v f' _ h'.2⟩

theorem Leads.bind {n : α → Locked β} {q' : β → Fields → Account → Prop}
    (hm : Leads P task m p q) (hn : ∀ v, Leads P task (n v) (q v) q') :
    Leads P task (m >>= n) p q' :=
  fun thread fresh f x hx h => safea_seq (hm thread fresh f x hx h)
    fun v f' x' h' => hn v thread fresh f' x' h'.1 h'.2

theorem Leads.ite {b : Prop} [Decidable b] {n : Locked α} (hm : b → Leads P task m p q)
    (hn : ¬ b → Leads P task n p q) : Leads P task (if b then m else n) p q := by
  by_cases hb : b
  · rw [if_pos hb]
    exact hm hb
  · rw [if_neg hb]
    exact hn hb

/-- A call under the lock moves the account by a step. -/
theorem Leads.called {c : DaemonCall} {q : c.Answer → Fields → Account → Prop}
    (hc : inside c = true)
    (h : ∀ thread (s : Shared) f a r, a.owner = s.ownership.boundConnectRequestID →
      s.allows thread ⟨c, r⟩ → p f a → q r f (a.step (some task) c r)) :
    Leads P task (call c) p q := by
  intro thread fresh f x hx hpre x1 hrely hinv r x2 hexec
  have hx1 := hx.aside hrely
  obtain ⟨hinv2, hothers, hx2, haccount⟩ := holding_step hc hx1 hinv hexec
  refine ⟨hinv2, hothers, fun x3 hrely3 => ⟨hx2.aside hrely3, ?_⟩⟩
  rw [(hrely3.held hx2.held).2, haccount]
  exact h thread x1.1 f _ r hinv.owner hexec.1.1 ((hrely.held hx.held).2.symm ▸ hpre)

theorem Leads.still {c : DaemonCall} (hc : still c = true) :
    Leads P task (call c) p fun _ => p :=
  .called (inside_of_still hc) fun _ _ f a r _ _ h => by rwa [step_still (some task) a r hc]

/-- The ownership that is read is the one of the account. -/
theorem Leads.ownership : Leads P task (call .ownership) p fun ownership f a =>
    ownership.boundConnectRequestID = a.owner ∧ p f a :=
  .called rfl fun _ _ f a ownership howner hread h => by
    have hread : ownership = _ := hread
    exact ⟨by rw [hread]; exact howner.symm, h⟩

/-- A program that only looks, with what it finds. -/
theorem Leads.yields {R : Fields → α → Prop}
    (hm : ∀ f, (m f).Yields (plain · = true) fun y => y.2 = f ∧ R f y.1) :
    Leads P task m p fun v f a => R f v ∧ p f a := by
  intro thread fresh f x hx hpre
  have hstep : ∀ x1 x2 e, plain e.call = true → RegisterInv x1 →
      Holding thread task fresh x1 ∧ p f x1.2.account → (registered P).exec thread x1 e x2 →
      RegisterInv x2 ∧ (∀ j, j ≠ thread → Aside j x1 x2) ∧
        (Holding thread task fresh x2 ∧ p f x2.2.account) := by
    rintro x1 x2 ⟨c, r⟩ hplain hinv ⟨hx1, hpre1⟩ hexec
    have hstill := still_of_plain hplain
    obtain ⟨hinv2, hothers, hx2, haccount⟩ :=
      holding_step (inside_of_still hstill) hx1 hinv hexec
    refine ⟨hinv2, hothers, hx2, ?_⟩
    rwa [haccount, step_still (some task) _ r hstill]
  have hrely : ∀ x1 x2, Aside thread x1 x2 →
      Holding thread task fresh x1 ∧ p f x1.2.account →
      Holding thread task fresh x2 ∧ p f x2.2.account := by
    rintro x1 x2 hrely ⟨hx1, hpre1⟩
    refine ⟨hx1.aside hrely, ?_⟩
    rwa [(hrely.held hx1.held).2]
  refine (sessionOutline P).safe_mono
    ((sessionOutline P).safe_of_yields hstep hrely (hm f) ⟨hx, hpre⟩) ?_
  rintro ⟨v, f'⟩ x' ⟨⟨rfl, hv⟩, hx', hpre'⟩
  exact ⟨hx', hv, hpre'⟩

theorem Leads.looks (hm : Plain m) : Leads P task m p fun _ => p :=
  .mono (.yields (R := fun _ _ => True) fun f => (hm f).mono (fun _ => id) fun _ h => ⟨h, trivial⟩)
    (fun _ _ => id) fun _ _ _ h => h.2

end Leads

end Pokrov.Linux.Service
