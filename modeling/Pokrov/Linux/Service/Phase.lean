import Mathlib.Data.List.Induction
import Pokrov.Lib.Watch
import Pokrov.Linux.Service.Reading
import Pokrov.Linux.Service.Scenario

/-!
# The phase of a live tunnel

A watch on the daemon notes when a tunnel comes up, when it is stopped, cannot be
stopped or is recovered, and when a thread hands the lock back. A thread that
holds `mu` has the phase in its own hands; whenever the lock is free, the phase
that the next thread finds is the one of the tunnel. `initialize` is the exception:
it writes `artifact_missing` over a live tunnel when the host probe is not ready,
where a status only shows it.
-/

namespace Pokrov.Linux.Service

open Effects Outline

/-! ## What the watch notes -/

inductive TunnelMark
  /-- A transaction is active. -/
  | up (transaction : Nat)
  /-- A transaction is stopped, cannot be stopped, or is recovered. -/
  | down
  /-- A thread hands the lock back. -/
  | left (thread : Nat)

def tunnelStep (tunnel : Option Nat) : TunnelMark → Option Nat
  | .up transaction => tunnel <|> some transaction
  | .down => none
  | .left _ => tunnel

/-- The transaction that has been up since the last stop. -/
def tunnelOf (marks : List TunnelMark) : Option Nat := marks.foldl tunnelStep none

@[simp] theorem tunnelOf_append (marks : List TunnelMark) (mark : TunnelMark) :
    tunnelOf (marks ++ [mark]) = tunnelStep (tunnelOf marks) mark := by
  simp [tunnelOf]

/-- A tunnel stays up until it goes down. -/
theorem tunnelOf_eq_some {before after : List TunnelMark} {transaction : Nat}
    (h : tunnelOf before = some transaction) (hdown : TunnelMark.down ∉ after) :
    tunnelOf (before ++ after) = some transaction := by
  induction after using List.reverseRecOn with
  | nil => simpa using h
  | append_singleton after mark ih =>
    simp only [List.mem_append, List.mem_singleton, not_or] at hdown
    rw [← List.append_assoc, tunnelOf_append, ih hdown.1]
    cases mark with
    | down => exact absurd rfl hdown.2
    | up other => rfl
    | left thread => rfl

structure Notes where
  /-- The tasks of the threads. -/
  tasks : List Task := []
  marks : List TunnelMark := []

namespace Notes

def tunnel (n : Notes) : Option Nat := tunnelOf n.marks

def started (task : Task) (n : Notes) : Notes := { n with tasks := n.tasks ++ [task] }

def executionMarks (transaction : Nat) : Execution → List TunnelMark
  | .active => [.up transaction]
  | .restored => []
  | .dirty => []

/-- A recovery that finds nothing leaves the tunnel alone. -/
def recoveryMarks : Except RecoverError Bool → List TunnelMark
  | .ok found => if found then [.down] else []
  | .error _ => [.down]

/-- The marks that a call leaves. -/
def marksOf (thread : Nat) : (c : DaemonCall) → c.Answer → List TunnelMark
  | .execute transaction _, execution => executionMarks transaction execution
  | .restore _, _ => [.down]
  | .recoverSystem, outcome => recoveryMarks outcome
  | .unlock _, _ => [.left thread]
  | _, _ => []

def called (thread : Nat) (e : Event Daemon) (n : Notes) : Notes :=
  { n with marks := n.marks ++ marksOf thread e.call e.answer }

/-- The thread runs an `initialize` request. -/
def Initializes (thread : Nat) (n : Notes) : Prop :=
  ∃ peer request, n.tasks[thread]? = some (.request peer request) ∧
    request.action = .initializeHost

/-- The host probe of an `initialize` that meets a live tunnel finds the host ready. -/
def Ready (thread : Nat) : Event Daemon → Notes → Prop
  | ⟨.probe, result⟩, n => n.Initializes thread → n.tunnel ≠ none → result.hostReady = true
  | _, _ => True

end Notes

def openWatch : Watch Daemon Task Notes where
  started := Notes.started
  called := Notes.called
  allows := fun _ _ _ => True

variable (P : Payloads)

/-- The daemon, watched. -/
def noted : System Daemon (Shared × Notes) Task Reply := (daemon P).watched openWatch

/-- The daemon where no `initialize` meets a live tunnel with a host that is not
ready. -/
def steady : System Daemon (Shared × Notes) Task Reply :=
  (daemon P).watched { openWatch with allows := Notes.Ready }

def Noted (p : Pool Daemon (Shared × Notes) Task Reply) : Prop :=
  ∃ profilesExist, (noted P).Run ⟨(.new profilesExist, {}), []⟩ p

def Steady (p : Pool Daemon (Shared × Notes) Task Reply) : Prop :=
  ∃ profilesExist, (steady P).Run ⟨(.new profilesExist, {}), []⟩ p

variable {P}

/-- Every run of the daemon can be noted. -/
theorem Reachable.noted {p : Pool Daemon Shared Task Reply} (h : Reachable P p) :
    ∃ notes, Noted P (p.noted notes) := by
  obtain ⟨profilesExist, hrun⟩ := h
  have hfree : ∀ i e r, openWatch.allows i e r := fun _ _ _ => trivial
  obtain ⟨notes, hrun'⟩ := hrun.noted hfree {}
  exact ⟨notes, profilesExist, hrun'⟩

/-! ## A truthful phase -/

/-- The thread hands the lock back for the first time after these marks. -/
def LeftAt (thread : Nat) (before marks : List TunnelMark) : Prop :=
  TunnelMark.left thread ∉ before ∧ ∃ after, marks = before ++ .left thread :: after

/-- What a daemon with a truthful phase guarantees. -/
structure Truthful (p : Pool Daemon (Shared × Notes) Task Reply) : Prop where
  /-- A connect that answers success leaves a tunnel behind, and until that is
  stopped, cannot be stopped or is recovered, the phase is `running`. -/
  connected : ∀ i peer request response,
    p.answer i = some ⟨.request peer request, some response⟩ → request.isConnect = true →
    response.ok = true → ∃ before after transaction,
      TunnelMark.left i ∉ before ∧ p.shared.2.marks = before ++ .left i :: after ∧
      tunnelOf before = some transaction ∧
      (TunnelMark.down ∉ after → p.shared.1.mu = none →
        p.shared.1.fields.phase = .running ∧ p.shared.1.fields.transaction = some transaction)
  running : p.shared.1.mu = none → ∀ transaction, p.shared.2.tunnel = some transaction →
    p.shared.1.fields.phase = .running ∧ p.shared.1.fields.transaction = some transaction
  /-- A snapshot that a ready host takes of a live tunnel says that it runs. -/
  shown : ∀ i peer request response shown,
    p.answer i = some ⟨.request peer request, some response⟩ →
    response.snapshot = some shown → shown.supportsLiveConnect = true →
    ∃ before, LeftAt i before p.shared.2.marks ∧
      (tunnelOf before ≠ none → shown.phase = .running ∧ shown.connectionPending = false)
  /-- No promotion and no revocation is refused because of the phase. -/
  leases : p.shared.1.mu = none → p.shared.2.tunnel ≠ none → ∀ peer ownership current,
    (∀ target, promotable peer target p.shared.1.fields ownership current =
      promotable peer target { p.shared.1.fields with phase := .running } ownership current) ∧
    ∀ target, revocable peer target p.shared.1.fields ownership current =
      revocable peer target { p.shared.1.fields with phase := .running } ownership current

/-! ## The outline -/

/-- The fields that a thread finds say whether a tunnel is up. -/
structure Phased (f : Fields) (tunnel : Option Nat) : Prop where
  up : ∀ transaction, tunnel = some transaction →
    f.phase = .running ∧ f.transaction = some transaction ∧ f.recoveryRequired = false
  down : f.phase = .running → f.lastFailure = "" → f.transaction ≠ none → tunnel = f.transaction

structure PhaseInv (x : Shared × Notes) : Prop where
  phased : x.1.mu = none → Phased x.1.fields x.2.tunnel
  /-- Only a thread that has started hands the lock back. -/
  counted : ∀ thread, TunnelMark.left thread ∈ x.2.marks → thread < x.2.tasks.length

/-- What the others leave alone. -/
structure Undisturbed (thread : Nat) (x x' : Shared × Notes) : Prop where
  held : x.1.mu = some thread → x'.1.mu = some thread ∧ x'.2.tunnel = x.2.tunnel
  tasks : x.2.tasks <+: x'.2.tasks
  marks : TunnelMark.left thread ∈ x'.2.marks → TunnelMark.left thread ∈ x.2.marks
  later : x.2.marks <+: x'.2.marks

theorem Undisturbed.refl (thread : Nat) (x : Shared × Notes) : Undisturbed thread x x :=
  ⟨fun h => ⟨h, rfl⟩, List.prefix_rfl, id, List.prefix_rfl⟩

variable {thread : Nat} {c : DaemonCall}

theorem Undisturbed.trans {x x' x'' : Shared × Notes} (h : Undisturbed thread x x')
    (h' : Undisturbed thread x' x'') : Undisturbed thread x x'' where
  held := fun hmu => by
    obtain ⟨hmu', htunnel⟩ := h.held hmu
    obtain ⟨hmu'', htunnel'⟩ := h'.held hmu'
    exact ⟨hmu'', htunnel'.trans htunnel⟩
  tasks := h.tasks.trans h'.tasks
  marks := fun hleft => h.marks (h'.marks hleft)
  later := h.later.trans h'.later

/-- A response is honest about a tunnel. -/
structure Honest (request : Request) (response : Response) (tunnel : Option Nat) : Prop where
  shown : ∀ shown, response.snapshot = some shown → shown.supportsLiveConnect = true →
    tunnel ≠ none → shown.phase = .running ∧ shown.connectionPending = false
  connected : request.isConnect = true → response.ok = true → tunnel ≠ none

/-- The response is honest about the tunnel that was there when the thread first
handed the lock back. -/
structure Decided (thread : Nat) (request : Request) (response : Response) (n : Notes) :
    Prop where
  shown : ∀ shown, response.snapshot = some shown → shown.supportsLiveConnect = true →
    ∃ before, LeftAt thread before n.marks ∧
      (tunnelOf before ≠ none → shown.phase = .running ∧ shown.connectionPending = false)
  connected : request.isConnect = true → response.ok = true →
    ∃ before transaction, LeftAt thread before n.marks ∧ tunnelOf before = some transaction

/-- What a task starts with. Only a request has to keep the lock once. -/
def Begins (thread : Nat) (task : Task) (n : Notes) : Prop :=
  n.tasks[thread]? = some task ∧
    ∀ peer request, task = .request peer request → TunnelMark.left thread ∉ n.marks

def phaseOutline (P : Payloads) : Outline (steady P) where
  inv := PhaseInv
  rely := Undisturbed
  pre := fun thread task x => Begins thread task x.2
  post := fun thread reply x => ∀ peer request response,
    reply = ⟨.request peer request, some response⟩ → Decided thread request response x.2
  refl := Undisturbed.refl
  trans := Undisturbed.trans

/-! ## Calls -/

/-- The calls that a thread makes while it holds the lock. -/
def inside : DaemonCall → Bool
  | .lock => false
  | .unlock _ => false
  | _ => true

/-- The calls that leave the lock and the tunnel alone. -/
def silent : DaemonCall → Bool
  | .execute _ _ => false
  | .restore _ => false
  | .recoverSystem => false
  | c => inside c

theorem inside_of_silent (h : silent c = true) : inside c = true := by
  cases c <;> first | rfl | cases h

theorem silent_of_quiet (h : quiet c = true) : silent c = true := by
  cases c <;> first | rfl | cases h

theorem section_fields (thread : Nat) (s : Shared) (sec : Section) :
    (sec.run thread s).2.mu = s.mu ∧ (sec.run thread s).2.fields = s.fields := by
  by_cases hsec : sec.benign = true
  · have hsame := same_section (s := s) thread hsec
    exact ⟨hsame.mu, hsame.fields⟩
  cases sec with
  | beginBoundConnect peer requestID networkRef =>
    show (s.beginBoundConnect thread peer requestID networkRef).2.mu = s.mu ∧
      (s.beginBoundConnect thread peer requestID networkRef).2.fields = s.fields
    unfold Shared.beginBoundConnect
    split <;> exact ⟨rfl, rfl⟩
  | finish call requestID => exact ⟨rfl, rfl⟩
  | releaseBoundConnect => exact ⟨(release_fields s).1, (release_fields s).2.1⟩
  | _ => exact absurd rfl hsec

theorem effect_fields (thread : Nat) (s : Shared) (h : inside c = true) :
    (s.effect thread c).mu = s.mu ∧ (s.effect thread c).fields = s.fields := by
  cases c with
  | lock => cases h
  | unlock => cases h
  | connectMu sec => exact section_fields thread s sec
  | _ => exact ⟨rfl, rfl⟩

theorem marksOf_silent (thread : Nat) (r : c.Answer) (h : silent c = true) :
    Notes.marksOf thread c r = [] := by
  cases c <;> first | rfl | cases h

theorem marksOf_inside (thread other : Nat) (r : c.Answer) (h : inside c = true) :
    TunnelMark.left other ∉ Notes.marksOf thread c r := by
  cases c with
  | lock => cases h
  | unlock => cases h
  | execute transaction core =>
    show TunnelMark.left other ∉ Notes.executionMarks transaction r
    cases r <;> simp [Notes.executionMarks]
  | recoverSystem =>
    show TunnelMark.left other ∉ Notes.recoveryMarks r
    rcases r with error | found
    · simp [Notes.recoveryMarks]
    · cases found <;> simp [Notes.recoveryMarks]
  | restore => simp [Notes.marksOf]
  | _ => simp [Notes.marksOf]

/-! ## Programs that hold the lock -/

theorem getElem?_started {tasks tasks' : List Task} {task : Task} (h : tasks <+: tasks')
    (htask : tasks[thread]? = some task) : tasks'[thread]? = some task := by
  obtain ⟨later, rfl⟩ := h
  rw [List.getElem?_append_left (List.getElem?_eq_some_iff.mp htask).1]
  exact htask

structure Within (thread : Nat) (task : Task) (fresh : Prop) (x : Shared × Notes) : Prop where
  held : x.1.mu = some thread
  task : x.2.tasks[thread]? = some task
  fresh : fresh → TunnelMark.left thread ∉ x.2.marks

theorem Within.rely {task : Task} {fresh : Prop} {x x' : Shared × Notes}
    (h : Within thread task fresh x) (hrely : Undisturbed thread x x') :
    Within thread task fresh x' where
  held := (hrely.held h.held).1
  task := getElem?_started hrely.tasks h.task
  fresh := fun hfresh hleft => h.fresh hfresh (hrely.marks hleft)

theorem tunnel_called (n : Notes) (thread : Nat) (e : Event Daemon) :
    (n.called thread e).tunnel = (Notes.marksOf thread e.call e.answer).foldl tunnelStep n.tunnel := by
  simp [Notes.tunnel, Notes.called, tunnelOf]

theorem tunnel_silent (n : Notes) (r : c.Answer) (hc : silent c = true) :
    (n.called thread ⟨c, r⟩).tunnel = n.tunnel := by
  rw [tunnel_called, marksOf_silent thread r hc]
  rfl

/-- What a call under the lock does, whatever it is. -/
theorem inside_step {task : Task} {fresh : Prop} {x x' : Shared × Notes} {r : c.Answer}
    (hc : inside c = true) (hx : Within thread task fresh x) (hinv : PhaseInv x)
    (h : (steady P).exec thread x ⟨c, r⟩ x') :
    PhaseInv x' ∧ (∀ j, j ≠ thread → Undisturbed j x x') ∧ Within thread task fresh x' := by
  obtain ⟨⟨-, hshared⟩, -, hnotes⟩ := h
  have hmu : x'.1.mu = some thread := by
    rw [hshared]
    exact (effect_fields thread x.1 hc).1.trans hx.held
  have hmarks : x'.2.marks = x.2.marks ++ Notes.marksOf thread c r := congrArg Notes.marks hnotes
  have htasks : x'.2.tasks = x.2.tasks := by
    rw [hnotes]
    rfl
  have hleft : ∀ other, TunnelMark.left other ∈ x'.2.marks →
      TunnelMark.left other ∈ x.2.marks := by
    intro other hmem
    rw [hmarks, List.mem_append] at hmem
    exact hmem.resolve_right (marksOf_inside thread other r hc)
  refine ⟨⟨fun hfree => ?_, fun other hmem => ?_⟩, fun j hj => ⟨fun hheld => ?_, ?_, hleft j, ?_⟩,
    hmu, htasks ▸ hx.task, fun hfresh hmem => hx.fresh hfresh (hleft _ hmem)⟩
  · exact absurd (hmu.symm.trans hfree) nofun
  · rw [htasks]
    exact hinv.counted other (hleft other hmem)
  · exact absurd (Option.some.inj (hheld.symm.trans hx.held)) hj
  · exact htasks.symm ▸ List.prefix_rfl
  · exact hmarks.symm ▸ List.prefix_append _ _

variable (P)

/-- From fields and a tunnel like these the program comes to an answer, fields and
a tunnel like those. -/
def Carries {α : Type} (task : Task) (m : Locked α) (pre : Fields → Option Nat → Prop)
    (post : α → Fields → Option Nat → Prop) : Prop :=
  ∀ thread fresh f x, Within thread task fresh x → pre f x.2.tunnel →
    (phaseOutline P).safea thread m
      (fun a f' x' => Within thread task fresh x' ∧ post a f' x'.2.tunnel) f x

variable {P}

section Carries

variable {α β : Type} {task : Task} {m : Locked α} {p p' : Fields → Option Nat → Prop}
  {q q' : α → Fields → Option Nat → Prop}

/-- What a program that does not call ends in. -/
theorem Carries.ret {g : Fields → α × Fields} (h : ∀ f t, p f t → q (g f).1 (g f).2 t) :
    Carries P task (fun f => .ret (g f)) p q := by
  intro thread fresh f x hx hpre x' hrely
  obtain ⟨-, htunnel⟩ := hrely.held hx.held
  refine ⟨hx.rely hrely, ?_⟩
  rw [htunnel]
  exact h f _ hpre

theorem Carries.pure {a : α} (h : ∀ f t, p f t → q a f t) :
    Carries P task (pure a) p q :=
  .ret h

theorem Carries.get {q : Fields → Fields → Option Nat → Prop}
    (h : ∀ f t, p f t → q f f t) : Carries P task MonadState.get p q :=
  .ret h

theorem Carries.modify {g : Fields → Fields} {q : Unit → Fields → Option Nat → Prop}
    (h : ∀ f t, p f t → q () (g f) t) :
    Carries P task (MonadStateOf.modifyGet fun f => ((), g f)) p q :=
  .ret h

theorem Carries.mono (hm : Carries P task m p q) (hpre : ∀ f t, p' f t → p f t)
    (hpost : ∀ a f t, q a f t → q' a f t) : Carries P task m p' q' :=
  fun thread fresh f x hx h => safea_mono (hm thread fresh f x hx (hpre f _ h))
    fun a f' _ h' => ⟨h'.1, hpost a f' _ h'.2⟩

theorem Carries.bind {n : α → Locked β} {q' : β → Fields → Option Nat → Prop}
    (hm : Carries P task m p q) (hn : ∀ a, Carries P task (n a) (q a) q') :
    Carries P task (m >>= n) p q' :=
  fun thread fresh f x hx h => safea_seq (hm thread fresh f x hx h)
    fun a f' x' h' => hn a thread fresh f' x' h'.1 h'.2

theorem Carries.ite {b : Prop} [Decidable b] {n : Locked α} (hm : b → Carries P task m p q)
    (hn : ¬ b → Carries P task n p q) : Carries P task (if b then m else n) p q := by
  by_cases hb : b
  · rw [if_pos hb]
    exact hm hb
  · rw [if_neg hb]
    exact hn hb

/-- A call under the lock moves the tunnel as its marks say. -/
theorem Carries.called {c : DaemonCall} {q : c.Answer → Fields → Option Nat → Prop}
    (hc : inside c = true)
    (h : ∀ thread (n : Notes) f r, p f n.tunnel → n.tasks[thread]? = some task →
      Notes.Ready thread ⟨c, r⟩ n → q r f (n.called thread ⟨c, r⟩).tunnel) :
    Carries P task (call c) p q := by
  intro thread fresh f x hx hpre x1 hrely hinv r x2 hexec
  obtain ⟨-, htunnel⟩ := hrely.held hx.held
  have hx1 := hx.rely hrely
  obtain ⟨hinv2, hothers, hx2⟩ := inside_step hc hx1 hinv hexec
  refine ⟨hinv2, hothers, fun x3 hrely3 => ⟨hx2.rely hrely3, ?_⟩⟩
  rw [(hrely3.held hx2.held).2, hexec.2.2]
  exact h thread x1.2 f r (htunnel ▸ hpre) hx1.task hexec.2.1

theorem Carries.silent {c : DaemonCall} (hc : silent c = true) :
    Carries P task (call c) p fun _ => p :=
  .called (inside_of_silent hc) fun thread n f r h _ _ => by rwa [tunnel_silent n r hc]

/-- A program that only looks, with what it finds. -/
theorem Carries.yields {R : Fields → α → Prop}
    (hm : ∀ f, (m f).Yields (quiet · = true) fun y => y.2 = f ∧ R f y.1) :
    Carries P task m p fun a f t => R f a ∧ p f t := by
  intro thread fresh f x hx hpre
  have hstep : ∀ x1 x2 e, quiet e.call = true → PhaseInv x1 →
      Within thread task fresh x1 ∧ p f x1.2.tunnel → (steady P).exec thread x1 e x2 →
      PhaseInv x2 ∧ (∀ j, j ≠ thread → Undisturbed j x1 x2) ∧
        (Within thread task fresh x2 ∧ p f x2.2.tunnel) := by
    rintro x1 x2 ⟨c, r⟩ hquiet hinv ⟨hx1, hpre1⟩ hexec
    obtain ⟨hinv2, hothers, hx2⟩ := inside_step (inside_of_silent (silent_of_quiet hquiet)) hx1 hinv hexec
    refine ⟨hinv2, hothers, hx2, ?_⟩
    rw [hexec.2.2]
    show p f (x1.2.called thread ⟨c, r⟩).tunnel
    rwa [tunnel_silent x1.2 r (silent_of_quiet hquiet)]
  have hrely : ∀ x1 x2, Undisturbed thread x1 x2 →
      Within thread task fresh x1 ∧ p f x1.2.tunnel →
      Within thread task fresh x2 ∧ p f x2.2.tunnel := by
    rintro x1 x2 hrely ⟨hx1, hpre1⟩
    refine ⟨hx1.rely hrely, ?_⟩
    rwa [(hrely.held hx1.held).2]
  refine (phaseOutline P).safe_mono
    ((phaseOutline P).safe_of_yields hstep hrely (hm f) ⟨hx, hpre⟩) ?_
  rintro ⟨a, f'⟩ x' ⟨⟨rfl, ha⟩, hx', hpre'⟩
  exact ⟨hx', ha, hpre'⟩

theorem Carries.looks (hm : Quiet m) : Carries P task m p fun _ => p :=
  .mono (.yields (R := fun _ _ => True) fun f => (hm f).mono (fun _ => id) fun _ h => ⟨h, trivial⟩)
    (fun _ _ => id) fun _ _ _ h => h.2

end Carries

end Pokrov.Linux.Service
