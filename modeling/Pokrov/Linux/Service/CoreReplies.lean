import Pokrov.Lib.Histories
import Pokrov.Linux.Service.CoreSession

/-!
# Replies and what they answer

A reply has no word on its command, so it is read by the right call as long as no other reply is
outstanding. A call whose read fails leaves one. The service then calls `Stop`, which reads past
that; but it goes on with its requests when `Stop` or what comes before that fails.
-/

namespace Pokrov.Linux.CoreProcess

open Histories Runs

/-- The commands of the session whose replies have not been read. -/
def CoreState.outstanding (s : CoreState) : List Nat :=
  s.child.lines.filterMap (·.answers) ++ s.child.inbox

/-- What may be noted after a history. -/
def Allowed (history : List CoreNote) : CoreNote → Prop
  | .succeeded number answers => answers = some number
  | .stopReturned =>
    Since (· = .readStopped) (· = .prepared) history ∧ Since (· = .exited) (· = .prepared) history
  | .stopFailed failure => failure = .unread ∨ failure = .running
  | _ => True

/-- The child answers with replies, and it says that it has stopped when it has. -/
def Answers (_ : CoreState) : CoreStep → Prop
  | .answer reply => ∃ response, reply = some response ∧ response.phase ≠ .stopped
  | _ => True

/-- A promotion or a revocation is written when no reply is outstanding. -/
def Settled (s : CoreState) : CoreStep → Prop
  | .call (.promote profile lease issuedAt newFlowsUntil activeFlowsUntil) _ =>
    s.permits (.promote profile lease issuedAt newFlowsUntil activeFlowsUntil) = true →
      s.outstanding = []
  | .call (.revoke profile lease terminateActive) _ =>
    s.permits (.revoke profile lease terminateActive) = true → s.outstanding = []
  | _ => True

/-- The pipe of a session. -/
structure PipeInv (s : CoreState) : Prop where
  replies : ∀ line ∈ s.child.lines,
    ∃ response, line.reply = some response ∧ (response.phase = .stopped ↔ line.answers = none)
  atMostOne : s.outstanding.length ≤ 1
  commanding : ∀ number command, s.call = some (.command number command) →
    s.outstanding = [number] ∧ (command = .start → s.startCalled = true)
  /-- `Stop` has read no line but an outstanding reply. -/
  stopping : ∀ count, s.call = some (.stop count) → count + s.outstanding.length ≤ 1
  fresh : s.startCalled = false → s.outstanding = []
  ready : s.started = true → s.expectedIdentity = none → s.probed = false → s.outstanding = []
  begun : s.started = true → s.startCalled = true
  running : s.phase = .running → s.started = true

/-- The notes of the sessions. -/
structure NoteInv (s : CoreState) : Prop where
  stopped : s.stopped = true → Since (· = .readStopped) (· = .prepared) s.history
  exited : s.child.exited = true → Since (· = .exited) (· = .prepared) s.history
  stopping : s.call = some .stopping → s.stopped = true
  allowed : ∀ before note after, s.history = before ++ note :: after → Allowed before note

variable {s : CoreState}

theorem PipeInv.prepare (h : PipeInv s) (first : Option Reply) (expected : Option ExpectedIdentity)
    (current : Bool) : PipeInv (s.prepare first expected current) := by
  unfold CoreState.prepare
  split
  · exact h
  · split
    · exact h
    · constructor <;> simp [CoreState.outstanding]

/-- A command is written when no reply is outstanding. -/
theorem PipeInv.written (h : PipeInv s) {s' : CoreState} {number : Nat} {command : Command}
    (hnone : s.outstanding = []) (hcall : s'.call = some (.command number command))
    (hchild : s'.child = { s.child with inbox := s.child.inbox ++ [number] })
    (hcalled : s'.startCalled = true) (hphase : s'.phase = s.phase) (hstarted : s'.started = s.started)
    (hexpected : s'.started = true → s'.expectedIdentity = none → s'.probed = true) : PipeInv s' := by
  have houtstanding : s'.outstanding = [number] := by
    unfold CoreState.outstanding at hnone ⊢
    rw [hchild, ← List.append_assoc, hnone]
    rfl
  constructor
  case replies =>
    rw [hchild]
    exact h.replies
  case atMostOne => simp [houtstanding]
  case commanding =>
    intro other command' hcommand
    rw [hcall] at hcommand
    cases hcommand
    exact ⟨houtstanding, fun _ => hcalled⟩
  case stopping =>
    intro count hstop
    rw [hcall] at hstop
    cases hstop
  case fresh =>
    intro hfresh
    rw [hcalled] at hfresh
    cases hfresh
  case ready =>
    intro hstart hunbound hprobed
    rw [hexpected hstart hunbound] at hprobed
    cases hprobed
  case begun => exact fun _ => hcalled
  case running =>
    intro hrunning
    rw [hstarted]
    exact h.running (hphase ▸ hrunning)

/-- A step after which no command waits and no further reply is outstanding. -/
theorem PipeInv.next (h : PipeInv s) {s' : CoreState}
    (hlines : ∀ line ∈ s'.child.lines, line ∈ s.child.lines)
    (houtstanding : s'.outstanding.Sublist s.outstanding)
    (hcommand : ∀ number command, s'.call ≠ some (.command number command))
    (hstop : ∀ count, s'.call = some (.stop count) → count + s'.outstanding.length ≤ 1)
    (hcalled : s'.startCalled = false → s.startCalled = false)
    (hstarted : s'.started = true →
      s.startCalled = true ∧ (s'.outstanding = [] ∨ s.started = true))
    (hexpected : s'.expectedIdentity = s.expectedIdentity)
    (hprobed : s'.probed = false → s.probed = false)
    (hrunning : s'.phase = .running → s'.started = true) : PipeInv s' := by
  have hnone : s.outstanding = [] → s'.outstanding = [] := fun hnil =>
    List.sublist_nil.mp (hnil ▸ houtstanding)
  constructor
  case replies => exact fun line hline => h.replies line (hlines line hline)
  case atMostOne => exact Nat.le_trans houtstanding.length_le h.atMostOne
  case commanding => exact fun number command hcall => absurd hcall (hcommand number command)
  case stopping => exact hstop
  case fresh => exact fun hfresh => hnone (h.fresh (hcalled hfresh))
  case ready =>
    intro hstart hunbound hunprobed
    rcases (hstarted hstart).2 with hnil | hbefore
    · exact hnil
    · exact hnone (h.ready hbefore (hexpected ▸ hunbound) (hprobed hunprobed))
  case begun =>
    intro hstart
    by_contra hfresh
    rw [hcalled (by simpa using hfresh)] at hstarted
    exact absurd (hstarted hstart).1 (by decide)
  case running => exact hrunning

/-- No reply is outstanding when the service makes a call. -/
theorem PipeInv.outstanding_eq_nil (h : PipeInv s) {command : Command} {written : Bool}
    (hpermits : s.permits command = true) (hsettled : Settled s (.call command written)) :
    s.outstanding = [] := by
  cases command with
  | start =>
    have hfresh : s.startCalled = false := by
      simp only [CoreState.permits, Bool.and_eq_true, Bool.not_eq_true'] at hpermits
      exact hpermits.2
    exact h.fresh hfresh
  | health =>
    simp only [CoreState.permits, Bool.and_eq_true, Bool.not_eq_true', decide_eq_true_eq,
      Option.isNone_iff_eq_none] at hpermits
    obtain ⟨⟨hrunning, hprobed⟩, hunbound⟩ := hpermits
    exact h.ready (h.running hrunning) hunbound hprobed
  | promote profile lease issuedAt newFlowsUntil activeFlowsUntil => exact hsettled hpermits
  | revoke profile lease terminateActive => exact hsettled hpermits

theorem PipeInv.callCommand (h : PipeInv s) {command : Command} {written : Bool}
    (hsettled : Settled s (.call command written)) : PipeInv (s.callCommand command written) := by
  unfold CoreState.callCommand
  split
  · exact h
  · next hgoes =>
    simp only [Bool.or_eq_true, Bool.not_eq_true', not_or, Bool.not_eq_true,
      Option.isSome_eq_false_iff, Option.isNone_iff_eq_none, Bool.not_eq_false] at hgoes
    obtain ⟨⟨-, hidle⟩, hpermits⟩ := hgoes
    have hnone := h.outstanding_eq_nil hpermits hsettled
    simp only
    have hstarted : s.started = true → s.startCalled = true ∧ (s.outstanding = [] ∨ s.started = true) :=
      fun hstart => ⟨h.begun hstart, .inr hstart⟩
    split
    · cases command with
      | start =>
        exact h.next (fun _ h => h) (List.Sublist.refl _) (by simp [CoreState.noted, hidle])
          (by simp [CoreState.noted, hidle]) nofun hstarted rfl id h.running
      | health =>
        exact h.next (fun _ h => h) (List.Sublist.refl _) (by simp [CoreState.noted, hidle])
          (by simp [CoreState.noted, hidle]) id hstarted rfl nofun h.running
      | promote profile lease issuedAt newFlowsUntil activeFlowsUntil =>
        exact h.next (fun _ h => h) (List.Sublist.refl _) (by simp [CoreState.noted, hidle])
          (by simp [CoreState.noted, hidle]) id hstarted rfl id h.running
      | revoke profile lease terminateActive =>
        exact h.next (fun _ h => h) (List.Sublist.refl _) (by simp [CoreState.noted, hidle])
          (by simp [CoreState.noted, hidle]) id hstarted rfl id h.running
    · cases command with
      | start =>
        have hfresh : s.startCalled = false := by
          simp only [CoreState.permits, Bool.and_eq_true, Bool.not_eq_true'] at hpermits
          exact hpermits.2
        refine h.written hnone rfl rfl rfl rfl rfl fun hstarted => ?_
        rw [h.begun hstarted] at hfresh
        cases hfresh
      | health =>
        have hrunning : s.phase = .running := by
          simp only [CoreState.permits, Bool.and_eq_true, decide_eq_true_eq] at hpermits
          exact hpermits.1.1
        exact h.written hnone rfl rfl (h.begun (h.running hrunning)) rfl rfl fun _ _ => rfl
      | promote profile lease issuedAt newFlowsUntil activeFlowsUntil =>
        simp only [CoreState.permits, Bool.and_eq_true, decide_eq_true_eq] at hpermits
        have hbound : s.expectedIdentity.isSome = true := hpermits.1.1.2
        have hrunning : s.phase = .running := hpermits.1.1.1.1.1.1
        refine h.written hnone rfl rfl (h.begun (h.running hrunning)) rfl rfl fun _ hunbound => ?_
        rw [show s.expectedIdentity = none from hunbound] at hbound
        cases hbound
      | revoke profile lease terminateActive =>
        simp only [CoreState.permits, Bool.and_eq_true, decide_eq_true_eq] at hpermits
        have hbound : s.expectedIdentity.isSome = true := hpermits.1.1.2
        have hrunning : s.phase = .running := hpermits.1.1.1.1.1.1
        refine h.written hnone rfl rfl (h.begun (h.running hrunning)) rfl rfl fun _ hunbound => ?_
        rw [show s.expectedIdentity = none from hunbound] at hbound
        cases hbound

/-- A step that leaves the pipe and the flags alone, and ends a call or begins `Stop`. -/
theorem PipeInv.calls (h : PipeInv s) {s' : CoreState} (hlines : s'.child.lines = s.child.lines)
    (hinbox : s'.child.inbox = s.child.inbox)
    (hcall : s'.call = none ∨ s'.call = some (.stop 0) ∨ s'.call = some .stopping)
    (hcalled : s'.startCalled = s.startCalled) (hstarted : s'.started = s.started)
    (hexpected : s'.expectedIdentity = s.expectedIdentity) (hprobed : s'.probed = s.probed)
    (hphase : s'.phase = .running → s.started = true) : PipeInv s' := by
  have houtstanding : s'.outstanding = s.outstanding := by
    unfold CoreState.outstanding
    rw [hlines, hinbox]
  refine h.next (fun line hline => hlines ▸ hline) (houtstanding ▸ List.Sublist.refl _) ?_ ?_
    (hcalled ▸ id) (fun hstart => ?_) hexpected (hprobed ▸ id) (hstarted ▸ hphase)
  · rcases hcall with hcall | hcall | hcall <;> simp [hcall]
  · intro count hstop
    rcases hcall with hcall | hcall | hcall
    · simp [hcall] at hstop
    · obtain rfl : 0 = count := by simpa [hcall] using hstop
      simpa [houtstanding] using h.atMostOne
    · simp [hcall] at hstop
  · rw [hstarted] at hstart
    exact ⟨h.begun hstart, .inr hstart⟩

theorem PipeInv.callStop (h : PipeInv s) : PipeInv s.callStop := by
  unfold CoreState.callStop
  split
  · exact h
  · split
    · exact h.calls rfl rfl (.inr (.inr rfl)) rfl rfl rfl rfl h.running
    · exact h.calls rfl rfl (.inr (.inl rfl)) rfl rfl rfl rfl h.running

theorem PipeInv.readFails (h : PipeInv s) : PipeInv s.readFails := by
  unfold CoreState.readFails
  split
  · exact h.calls rfl rfl (.inl rfl) rfl rfl rfl rfl h.running
  · exact h.calls rfl rfl (.inl rfl) rfl rfl rfl rfl h.running
  · exact h

theorem PipeInv.stopEnds (h : PipeInv s) (expired : Bool) : PipeInv (s.stopEnds expired) := by
  unfold CoreState.stopEnds
  split
  · exact h
  · split
    · exact h.calls rfl rfl (.inl rfl) rfl rfl rfl rfl h.running
    · split
      · exact h.calls rfl rfl (.inl rfl) rfl rfl rfl rfl h.running
      · exact h

theorem PipeInv.executed (h : PipeInv s) (succeeded : Bool) : PipeInv (s.executed succeeded) := by
  unfold CoreState.executed
  split
  · exact h
  · next hidle =>
    rw [not_or, Bool.not_eq_true, Option.isSome_eq_false_iff, Option.isNone_iff_eq_none] at hidle
    split
    · split
      · next hstarted =>
        exact h.calls rfl rfl (.inl hidle.2) rfl rfl rfl rfl fun _ => hstarted
      · exact h
    · exact h.calls rfl rfl (.inl hidle.2) rfl rfl rfl rfl nofun

theorem PipeInv.release (h : PipeInv s) : PipeInv s.release := by
  unfold CoreState.release
  split
  · exact h
  · next hidle =>
    rw [not_or, Bool.not_eq_true, Option.isSome_eq_false_iff, Option.isNone_iff_eq_none] at hidle
    exact h.calls rfl rfl (.inl hidle.1) rfl rfl rfl rfl nofun

/-- The child writes a line: what is outstanding stays. -/
theorem PipeInv.wrote (h : PipeInv s) {line : Line} {child : Child}
    (hline : ∃ response, line.reply = some response ∧
      (response.phase = .stopped ↔ line.answers = none))
    (hlines : child.lines = s.child.lines ++ [line])
    (hinbox : s.child.inbox = line.answers.toList ++ child.inbox) :
    PipeInv { s with child := child } := by
  have houtstanding : CoreState.outstanding { s with child := child } = s.outstanding := by
    unfold CoreState.outstanding
    rw [hlines, hinbox, List.filterMap_append]
    cases hanswers : line.answers <;> simp [hanswers]
  constructor
  case replies =>
    intro other hother
    rw [hlines] at hother
    rcases List.mem_append.mp hother with hother | hother
    · exact h.replies other hother
    · rwa [List.mem_singleton.mp hother]
  case atMostOne =>
    rw [houtstanding]
    exact h.atMostOne
  case commanding =>
    rw [houtstanding]
    exact h.commanding
  case stopping =>
    rw [houtstanding]
    exact h.stopping
  case fresh =>
    rw [houtstanding]
    exact h.fresh
  case ready =>
    rw [houtstanding]
    exact h.ready
  case begun => exact h.begun
  case running => exact h.running

theorem PipeInv.answer (h : PipeInv s) {reply : Option Reply} (hanswers : Answers s (.answer reply)) :
    PipeInv (s.answer reply) := by
  obtain ⟨response, rfl, hphase⟩ := hanswers
  unfold CoreState.answer
  split
  · next number rest hinbox =>
    split
    · exact h
    · exact h.wrote ⟨response, rfl, by simp [hphase]⟩ rfl hinbox
  · exact h

theorem PipeInv.sayStopped (h : PipeInv s) : PipeInv s.sayStopped := by
  unfold CoreState.sayStopped
  split
  · exact h
  · exact h.wrote ⟨_, rfl, by simp⟩ rfl rfl

theorem PipeInv.exit (h : PipeInv s) : PipeInv s.exit := by
  unfold CoreState.exit
  split
  · exact h
  · exact ⟨h.replies, h.atMostOne, h.commanding, h.stopping, h.fresh, h.ready, h.begun, h.running⟩

/-! ### Reads -/

/-- What remains of the pipe after a line. -/
def CoreState.rest (s : CoreState) (rest : List Line) : List Nat :=
  rest.filterMap (·.answers) ++ s.child.inbox

/-- A line that is read was the answer to the outstanding command, or it says that the child has
stopped. -/
theorem PipeInv.line_cases (h : PipeInv s) {line : Line} {rest : List Line}
    (hlines : s.child.lines = line :: rest) :
    ∃ response, line.reply = some response ∧
      ((∃ number, line.answers = some number ∧ response.phase ≠ .stopped ∧
          s.outstanding = [number] ∧ s.rest rest = []) ∨
        (line.answers = none ∧ response.phase = .stopped ∧ s.rest rest = s.outstanding)) := by
  obtain ⟨response, hreply, hphase⟩ := h.replies line (hlines ▸ List.mem_cons_self)
  refine ⟨response, hreply, ?_⟩
  have hone := h.atMostOne
  unfold CoreState.outstanding CoreState.rest at *
  rw [hlines, List.filterMap_cons] at hone ⊢
  cases hanswers : line.answers with
  | none => exact .inr ⟨rfl, hphase.mpr hanswers, by simp⟩
  | some number =>
    simp only [hanswers, List.cons_append, List.length_cons] at hone
    have hnil : rest.filterMap (·.answers) ++ s.child.inbox = [] :=
      List.eq_nil_of_length_eq_zero (by omega)
    refine .inl ⟨number, rfl, fun hstopped => ?_, by simp [hnil], hnil⟩
    rw [hphase.mp hstopped] at hanswers
    cases hanswers

theorem CoreState.take_eq (s : CoreState) (line : Line) (rest : List Line) :
    ∃ stopped history, s.take line rest =
      { s with child := { s.child with lines := rest }, stopped := stopped, history := history } := by
  unfold CoreState.take
  simp only
  split
  · split
    · exact ⟨_, _, rfl⟩
    · exact ⟨_, _, rfl⟩
  · exact ⟨_, _, rfl⟩

theorem CoreState.complete_eq (s : CoreState) (command : Command) (kept : Bool) :
    ∃ active promoted lease, s.complete command kept =
      { s with started := s.started || decide (command = .start), promotedActiveUntil := active,
               transportPromoted := promoted, transportLeaseRef := lease } := by
  unfold CoreState.complete
  cases command with
  | start => exact ⟨s.promotedActiveUntil, s.transportPromoted, s.transportLeaseRef, by simp⟩
  | health => exact ⟨s.promotedActiveUntil, s.transportPromoted, s.transportLeaseRef, by simp⟩
  | promote profile lease issuedAt newFlowsUntil activeFlowsUntil =>
    simp only
    split
    · exact ⟨some activeFlowsUntil, true, lease, by simp⟩
    · exact ⟨some activeFlowsUntil, s.transportPromoted, s.transportLeaseRef, by simp⟩
  | revoke profile lease terminateActive =>
    simp only
    split
    · exact ⟨s.promotedActiveUntil, false, s.transportLeaseRef, by simp⟩
    · exact ⟨s.promotedActiveUntil, s.transportPromoted, s.transportLeaseRef, by simp⟩

/-- A step that reads a line. -/
theorem PipeInv.took (h : PipeInv s) {line : Line} {rest : List Line}
    (hlines : s.child.lines = line :: rest) {s' : CoreState}
    (hchild : s'.child = { s.child with lines := rest })
    (hcommand : ∀ number command, s'.call ≠ some (.command number command))
    (hstop : ∀ count, s'.call = some (.stop count) → count + (s.rest rest).length ≤ 1)
    (hcalled : s'.startCalled = s.startCalled)
    (hstarted : s'.started = true → s.startCalled = true ∧ (s.rest rest = [] ∨ s.started = true))
    (hexpected : s'.expectedIdentity = s.expectedIdentity) (hprobed : s'.probed = s.probed)
    (hrunning : s'.phase = .running → s'.started = true) : PipeInv s' := by
  have houtstanding : s'.outstanding = s.rest rest := by
    unfold CoreState.outstanding CoreState.rest
    rw [hchild]
  refine h.next (fun other hother => ?_) ?_ hcommand (houtstanding ▸ hstop) (hcalled ▸ id)
    (houtstanding ▸ hstarted) hexpected (hprobed ▸ id) hrunning
  · rw [hchild] at hother
    rw [hlines]
    exact List.mem_cons_of_mem _ hother
  · obtain ⟨response, -, ⟨number, -, -, -, hnil⟩ | ⟨-, -, hsame⟩⟩ := h.line_cases hlines
    · simp [houtstanding, hnil]
    · simp [houtstanding, hsame]

/-- What a command checks is not what the child says when it has stopped. -/
theorem CoreState.accepts_phase {command : Command} {response : Reply} {current : Bool}
    (h : s.accepts command response current = true) : response.phase ≠ .stopped := by
  intro hphase
  cases command <;> simp [CoreState.accepts, hphase] at h

theorem PipeInv.deliver (h : PipeInv s) (current kept : Bool) :
    PipeInv (s.deliver current kept) := by
  have hold : s.started = true → ∀ rest, s.startCalled = true ∧ (s.rest rest = [] ∨ s.started = true) :=
    fun hstart _ => ⟨h.begun hstart, .inr hstart⟩
  unfold CoreState.deliver
  split
  · next number command line rest hcall hlines =>
    obtain ⟨response, hreply, hcases⟩ := h.line_cases hlines
    obtain ⟨stopped, history, htake⟩ := s.take_eq line rest
    simp only [hreply, htake]
    split
    · next haccepts =>
      obtain ⟨active, promoted, lease, hcomplete⟩ := CoreState.complete_eq
        { s with child := { s.child with lines := rest }, stopped := stopped, history := history }
        command kept
      rw [hcomplete]
      have hnil : s.rest rest = [] := by
        rcases hcases with ⟨-, -, -, -, hnil⟩ | ⟨-, hphase, -⟩
        · exact hnil
        · exact absurd hphase (CoreState.accepts_phase haccepts)
      refine h.took hlines rfl nofun nofun rfl (fun hstart => ?_) rfl rfl fun hrunning => ?_
      · refine ⟨?_, .inl hnil⟩
        by_cases hcommand : command = .start
        · exact (h.commanding number command hcall).2 hcommand
        · exact h.begun (by simpa [CoreState.returned, hcommand] using hstart)
      · have hstarted := h.running hrunning
        simp [CoreState.returned, hstarted]
    · exact h.took hlines rfl nofun nofun rfl (hold · rest) rfl rfl h.running
  · next count line rest hcall hlines =>
    obtain ⟨response, hreply, hcases⟩ := h.line_cases hlines
    obtain ⟨stopped, history, htake⟩ := s.take_eq line rest
    simp only [hreply, htake]
    split
    · exact h.took hlines rfl nofun nofun rfl (hold · rest) rfl rfl h.running
    · split
      · exact h.took hlines rfl nofun nofun rfl (hold · rest) rfl rfl h.running
      · next hrunning =>
        split
        · refine h.took hlines rfl nofun (fun other hother => ?_) rfl (hold · rest) rfl rfl h.running
          obtain rfl : count + 1 = other := by simpa using hother
          have hcount := h.stopping count hcall
          rcases hcases with ⟨number, -, -, hone, hnil⟩ | ⟨-, hphase, -⟩
          · rw [hone] at hcount
            rw [hnil]
            simp only [List.length_cons, List.length_nil] at hcount ⊢
            omega
          · -- the line says that the child has stopped, and then `Stop` reads no further
            simp only [CoreState.take, hreply, hphase, if_true] at htake
            cases hstopped : stopped with
            | true => simp [hstopped] at hrunning
            | false => simp [CoreState.noted, hstopped] at htake
        · exact h.took hlines rfl nofun nofun rfl (hold · rest) rfl rfl h.running
  · exact h

theorem PipeInv.after (h : PipeInv s) (step : CoreStep) (hanswers : Answers s step)
    (hsettled : Settled s step) : PipeInv (s.after step) := by
  cases step with
  | prepare first expected current => exact h.prepare first expected current
  | call command written => exact h.callCommand hsettled
  | callStop => exact h.callStop
  | deliver current kept => exact h.deliver current kept
  | readFails => exact h.readFails
  | stopEnds expired => exact h.stopEnds expired
  | executed succeeded => exact h.executed succeeded
  | release => exact h.release
  | answer reply => exact h.answer hanswers
  | sayStopped => exact h.sayStopped
  | exit => exact h.exit

/-! ## What a step notes -/

/-- A note that no session begins with. -/
theorem NoteInv.append (h : NoteInv s) {s' : CoreState} {note : CoreNote}
    (hhistory : s'.history = s.history ++ [note]) (hallowed : Allowed s.history note)
    (hprepared : note ≠ .prepared)
    (hstopped : s'.stopped = true → s.stopped = true ∨ note = .readStopped)
    (hexited : s'.child.exited = true → s.child.exited = true ∨ note = .exited)
    (hstopping : s'.call = some .stopping → s'.stopped = true) : NoteInv s' := by
  constructor
  case stopped =>
    intro hflag
    rw [hhistory, since_append_singleton]
    rcases hstopped hflag with hbefore | rfl
    · exact .inr ⟨h.stopped hbefore, hprepared⟩
    · exact .inl rfl
  case exited =>
    intro hflag
    rw [hhistory, since_append_singleton]
    rcases hexited hflag with hbefore | rfl
    · exact .inr ⟨h.exited hbefore, hprepared⟩
    · exact .inl rfl
  case stopping => exact hstopping
  case allowed =>
    intro before other after hsplit
    rw [hhistory] at hsplit
    rcases eq_of_append_singleton hsplit with ⟨rfl, rfl⟩ | ⟨rest, rfl, hrest⟩
    · rwa [← (List.append_inj' hsplit rfl).1]
    · exact h.allowed before other rest hrest

/-- A step that notes nothing. -/
theorem NoteInv.silent (h : NoteInv s) {s' : CoreState} (hhistory : s'.history = s.history)
    (hstopped : s'.stopped = s.stopped) (hexited : s'.child.exited = s.child.exited)
    (hstopping : s'.call = some .stopping → s'.stopped = true) : NoteInv s' where
  stopped := hhistory ▸ hstopped ▸ h.stopped
  exited := hhistory ▸ hexited ▸ h.exited
  stopping := hstopping
  allowed := hhistory ▸ h.allowed

theorem NoteInv.prepare (h : NoteInv s) (first : Option Reply) (expected : Option ExpectedIdentity)
    (current : Bool) : NoteInv (s.prepare first expected current) := by
  unfold CoreState.prepare
  split
  · exact h
  · split
    · exact h
    · refine ⟨nofun, nofun, nofun, fun before note after hsplit => ?_⟩
      rcases eq_of_append_singleton hsplit with ⟨rfl, rfl⟩ | ⟨rest, rfl, hrest⟩
      · trivial
      · exact h.allowed before note rest hrest

theorem NoteInv.callCommand (h : NoteInv s) (command : Command) (written : Bool) :
    NoteInv (s.callCommand command written) := by
  unfold CoreState.callCommand
  split
  · exact h
  · cases command <;> simp only <;> split <;>
      first
      | exact h.append rfl trivial (by simp) .inl .inl h.stopping
      | exact h.silent rfl rfl rfl nofun

theorem NoteInv.callStop (h : NoteInv s) : NoteInv s.callStop := by
  unfold CoreState.callStop
  split
  · exact h
  · split
    · next hstopped => exact h.silent rfl rfl rfl fun _ => hstopped
    · exact h.silent rfl rfl rfl nofun

theorem NoteInv.take (h : NoteInv s) (line : Line) (rest : List Line) :
    NoteInv (s.take line rest) := by
  unfold CoreState.take
  simp only
  split
  · split
    · exact h.append rfl trivial (by simp) (fun _ => .inr rfl) .inl fun _ => rfl
    · exact h.silent rfl rfl rfl h.stopping
  · exact h.silent rfl rfl rfl h.stopping

/-- A call that returns. -/
theorem NoteInv.returned (h : NoteInv s) {note : CoreNote} (hallowed : Allowed s.history note)
    (hprepared : note ≠ .prepared) : NoteInv (s.returned note) :=
  h.append rfl hallowed hprepared .inl .inl nofun

theorem NoteInv.readFails (h : NoteInv s) : NoteInv s.readFails := by
  unfold CoreState.readFails
  split
  · exact h.returned trivial (by simp)
  · exact h.returned (.inl rfl) (by simp)
  · exact h

theorem NoteInv.stopEnds (h : NoteInv s) (expired : Bool) : NoteInv (s.stopEnds expired) := by
  unfold CoreState.stopEnds
  split
  · exact h
  · next hcall =>
    rw [ne_eq, not_not] at hcall
    split
    · exact h.returned (.inr rfl) (by simp)
    · split
      · next hexited =>
        have hboth : Allowed s.history .stopReturned :=
          ⟨h.stopped (h.stopping hcall), h.exited hexited⟩
        exact h.append rfl hboth (by simp) .inl .inl nofun
      · exact h

theorem NoteInv.exit (h : NoteInv s) : NoteInv s.exit := by
  unfold CoreState.exit
  split
  · exact h
  · exact h.append rfl trivial (by simp) .inl (fun _ => .inr rfl) h.stopping

theorem NoteInv.deliver (h : NoteInv s) (hpipe : PipeInv s) (current kept : Bool) :
    NoteInv (s.deliver current kept) := by
  unfold CoreState.deliver
  split
  · next number command line rest hcall hlines =>
    obtain ⟨response, hreply, hcases⟩ := hpipe.line_cases hlines
    have htaken := h.take line rest
    simp only [hreply]
    split
    · next haccepts =>
      obtain ⟨active, promoted, lease, hcomplete⟩ :=
        (s.take line rest).complete_eq command kept
      rw [hcomplete]
      have hanswers : line.answers = some number := by
        rcases hcases with ⟨other, hother, -, hone, -⟩ | ⟨-, hphase, -⟩
        · rw [(hpipe.commanding number command hcall).1] at hone
          rw [hother, List.head_eq_of_cons_eq hone]
        · exact absurd hphase (CoreState.accepts_phase haccepts)
      exact htaken.append rfl hanswers (by simp) .inl .inl nofun
    · exact htaken.returned trivial (by simp)
  · next count line rest hcall hlines =>
    obtain ⟨response, hreply, hcases⟩ := hpipe.line_cases hlines
    have htaken := h.take line rest
    simp only [hreply, Option.isNone_some, Bool.false_eq_true, if_false]
    split
    · next hstopped => exact htaken.silent rfl rfl rfl fun _ => hstopped
    · next hrunning =>
      split
      · exact htaken.silent rfl rfl rfl nofun
      · next hcount =>
        -- `Stop` has read one line, and no reply is outstanding: this one says that it has stopped
        have hbound := hpipe.stopping count hcall
        rcases hcases with ⟨number, -, -, hone, -⟩ | ⟨-, hphase, -⟩
        · rw [hone] at hbound
          simp only [List.length_cons, List.length_nil] at hbound
          omega
        · simp [CoreState.take, hreply, hphase, CoreState.noted] at hrunning
  · exact h

theorem NoteInv.after (h : NoteInv s) (hpipe : PipeInv s) (step : CoreStep) :
    NoteInv (s.after step) := by
  cases step with
  | prepare first expected current => exact h.prepare first expected current
  | call command written => exact h.callCommand command written
  | callStop => exact h.callStop
  | deliver current kept => exact h.deliver hpipe current kept
  | readFails => exact h.readFails
  | stopEnds expired => exact h.stopEnds expired
  | executed succeeded =>
    show NoteInv (s.executed succeeded)
    unfold CoreState.executed
    split
    · exact h
    · split
      · split
        · exact h.silent rfl rfl rfl h.stopping
        · exact h
      · exact h.silent rfl rfl rfl h.stopping
  | release =>
    show NoteInv s.release
    unfold CoreState.release
    split
    · exact h
    · exact h.silent rfl rfl rfl h.stopping
  | answer reply =>
    show NoteInv (s.answer reply)
    unfold CoreState.answer
    split
    · split
      · exact h
      · exact h.silent rfl rfl rfl h.stopping
    · exact h
  | sayStopped =>
    show NoteInv s.sayStopped
    unfold CoreState.sayStopped
    split
    · exact h
    · exact h.silent rfl rfl rfl h.stopping
  | exit => exact h.exit

section Samples

private def samplePlan : ReplyPlan := ⟨"pokrov0", 0x504b, ["172.19.0.2"]⟩

private def digest : String := "aaaaaaaaaaaaaaaaaaaaaaaaaaaaaaaaaaaaaaaaaaaaaaaaaaaaaaaaaaaaaaaa"

private def sampleIdentity : ExpectedIdentity := ⟨digest, digest, ⟨"linux", 0, 60000⟩⟩

/-- The replies of a child to a start and to a promotion. -/
private def prepared : Option Reply :=
  some { phase := .prepared, plan := some samplePlan, coreModuleSHA256 := digest,
         profileSHA256 := digest, identitySchema := 1, deadlineSchema := 1 }

private def started : Option Reply :=
  some { phase := .started, coreModuleSHA256 := digest, profileSHA256 := digest,
         identitySchema := 1, deadlineSchema := 1, connectDeadline := some sampleIdentity.deadline }

private def promotion : Command := .promote digest "lease" "issued" "new" "active"

private def promoted : Option Reply :=
  some { phase := .promoted, profileSHA256 := digest, leaseID := "lease",
         activeFlowsUntil := "active" }

end Samples

end Pokrov.Linux.CoreProcess
