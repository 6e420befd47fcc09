import Pokrov.Lib.Histories
import Pokrov.Linux.Service.NetworkContext

/-!
# Windows of samples

What a reference that `Read` returns says about the events that were processed meanwhile, and
about those after it. An event is filtered by the interfaces and paths of the previous sample, so
the window of a sample is covered when the events that concern it are among those.
-/

namespace Pokrov.Linux.Service

open GoText Histories Runs

/-- An event changes what the sample has read: its interfaces, their objects, or the default
routes. -/
def Concerns (sample : PhysicalSample) (event : NetworkEvent) : Prop :=
  event.changes (selectedNetworkManagerPaths sample) sample.interfaces = true

instance (sample : PhysicalSample) (event : NetworkEvent) : Decidable (Concerns sample event) :=
  inferInstanceAs (Decidable (_ = true))

/-- The interface that an event is about. -/
def NetworkEvent.interface? : NetworkEvent → Option Nat
  | netlink message =>
    if isLinkMessage message.type ∧ 8 ≤ message.data.length then some message.interface else none
  | bus signal => (resolverIndex signal.path).join

/-- The object that an event is about. -/
def NetworkEvent.path? : NetworkEvent → Option String
  | netlink _ => none
  | bus signal => some signal.path

/-- The interface and the object of an event are selected, if they are of the sample. -/
def Selects (s : ContextObserver) (sample : PhysicalSample) (event : NetworkEvent) : Prop :=
  (∀ index ∈ event.interface?, index ∈ sample.interfaces →
      s.interfaces = [] ∨ index ∈ s.interfaces) ∧
    ∀ path ∈ event.path?, path ∈ selectedNetworkManagerPaths sample →
      s.nmPaths = [] ∨ path ∈ s.nmPaths

theorem interfaces_ne_nil (sample : PhysicalSample) : sample.interfaces ≠ [] := by
  simp [PhysicalSample.interfaces, sample.linked]

theorem selectedNetworkManagerPaths_ne_nil (sample : PhysicalSample) :
    selectedNetworkManagerPaths sample ≠ [] := by
  obtain ⟨link, hlink⟩ := List.exists_mem_of_ne_nil _ sample.linked
  exact List.ne_nil_of_mem (List.mem_flatMap.mpr ⟨link, hlink, List.mem_cons_self⟩)

/-- A signal that invalidates some paths and interfaces invalidates others that have its own. -/
theorem NetworkManagerSignal.invalidates_of_selected (signal : NetworkManagerSignal)
    {selected selected' : List String} {interfaces interfaces' : List Nat}
    (h : signal.invalidates selected interfaces = .ok true) (hpaths : selected ≠ [])
    (hlinks : interfaces ≠ [])
    (hinterface : ∀ index ∈ (NetworkEvent.bus signal).interface?, index ∈ interfaces →
      interfaces' = [] ∨ index ∈ interfaces')
    (hpath : signal.path ∈ selected → selected' = [] ∨ signal.path ∈ selected') :
    signal.invalidates selected' interfaces' = .ok true := by
  unfold invalidates at h ⊢
  by_cases htype : signal.type ≠ "signal"
  · simp [htype] at h
  · rw [if_neg htype] at h ⊢
    split
    · next howner => rwa [if_pos howner] at h
    · next howner =>
      rw [if_neg howner] at h
      cases hresolver : resolverIndex signal.path with
      | some parsed =>
        cases parsed with
        | none => rfl
        | some index =>
          have hmem : index ∈ interfaces := by simpa [hresolver, hlinks] using h
          have hindex := hinterface index
            (by simp [NetworkEvent.interface?, hresolver]) hmem
          simpa using hindex
      | none =>
        simp only [hresolver] at h ⊢
        cases hmanager : isManagerPath signal.path with
        | false => simp [hmanager] at h
        | true =>
          have hcontains : signal.path ∈ selected := by
            by_contra hnot
            simp [hmanager, hpaths, hnot] at h
          rcases hpath hcontains with hempty | hmem
          · simp [hempty]
          · simpa [hmanager, hpaths, hcontains, List.ne_nil_of_mem hmem, hmem] using h

variable {sample : PhysicalSample} {event : NetworkEvent} {events : List NetworkEvent}

/-- An event that concerns a sample changes what is selected, if that has its interface and its
object. -/
theorem changes_of_selects {s : ContextObserver} (hconcerns : Concerns sample event)
    (hselects : Selects s sample event) : event.changes s.nmPaths s.interfaces = true := by
  obtain ⟨hinterface, hpath⟩ := hselects
  have hlinked := interfaces_ne_nil sample
  cases event with
  | netlink message =>
    simp only [Concerns, NetworkEvent.changes, networkEventChanged] at hconcerns ⊢
    split_ifs at hconcerns ⊢ with hlink hshort hempty
    · rfl
    · rfl
    · have hmem : message.interface ∈ sample.interfaces := by simpa using hconcerns
      have hindex := hinterface message.interface
        (by simp [NetworkEvent.interface?, hlink, Nat.not_lt.mp hshort]) hmem
      simpa [hempty] using hindex
    · exact hconcerns
  | bus signal =>
    have hinvalidates : signal.invalidates (selectedNetworkManagerPaths sample) sample.interfaces =
        .ok true := by
      simp only [Concerns, NetworkEvent.changes] at hconcerns
      split at hconcerns
      · next hchanged => rw [hchanged, hconcerns]
      · cases hconcerns
    have hselected := signal.invalidates_of_selected hinvalidates
      (selectedNetworkManagerPaths_ne_nil sample) hlinked hinterface (hpath signal.path rfl)
    simp [NetworkEvent.changes, hselected]

/-! ## The invariant -/

theorem networkReference_injective : Function.Injective networkReference := by
  intro a b heq
  have hhex : Codec.hexEncode a = Codec.hexEncode b := List.append_cancel_left heq
  rw [← Codec.hexDecode_hexEncode a, hhex, Codec.hexDecode_hexEncode]

theorem networkReference_ne_nil (random : List UInt8) : networkReference random ≠ [] := by
  have hprefix : Codec.text "network_" ≠ [] := by decide
  exact fun h => hprefix (List.append_eq_nil_iff.mp h).1

/-- The bytes of a reference were drawn. -/
def ContextObserver.Named (s : ContextObserver) (reference : List UInt8) : Prop :=
  ∃ bytes ∈ s.drawn, reference = networkReference bytes

/-- The revision has moved by no more than the events of a sample, and it has moved when one of
them concerns the sample. -/
def PendingRead.Counts (read : PendingRead) (revision : UInt64) : Prop :=
  ∃ moved ≤ read.events.length, revision = read.revision + UInt64.ofNat moved ∧
    ∀ sample ∈ read.answer, ∀ event ∈ read.events, Concerns sample event → 0 < moved

structure ContextInv (s : ContextObserver) : Prop where
  current : s.reference ≠ [] → s.Named s.reference ∧ ∃ sample, s.sample = some sample ∧
    s.interfaces = sample.interfaces ∧ s.nmPaths = selectedNetworkManagerPaths sample
  returned : ∀ reference sample events, .returned reference sample events ∈ s.history →
    s.Named reference ∧ (s.reference = reference → s.sample = some sample) ∧
      ∀ event ∈ events, ¬ Concerns sample event
  /-- A reference is over when an event was processed that concerns its sample. -/
  settled : ∀ (before : List ContextNote) event after reference sample events,
    s.history = before ++ .processed event :: after → .returned reference sample events ∈ before →
      Concerns sample event →
        s.reference ≠ reference ∧ ∀ sample' events', .returned reference sample' events' ∉ after
  counts : ∀ read ∈ s.pending, s.closed = false → s.failed = false → read.Counts s.eventRevision
  short : ∀ read ∈ s.pending, read.events.length < 2 ^ 64

/-- The events that concern a sample that is being assembled are about what is selected. -/
def Covered (s : ContextObserver) : ContextStep → Prop
  | .process event => ∀ read ∈ s.pending, read.events.length + 1 < 2 ^ 64 ∧
      ∀ sample ∈ read.answer, Concerns sample event → Selects s sample event
  | _ => True

/-- Random bytes are not drawn twice. -/
def DrawsAfresh (s : ContextObserver) : ContextStep → Prop
  | .finish _ random => ∀ bytes ∈ random, bytes ∉ s.drawn
  | _ => True

theorem drawsAfresh_finish {s : ContextObserver} {cancelled : Bool} {bytes : List UInt8}
    (h : bytes ∉ s.drawn) : DrawsAfresh s (.finish cancelled (some bytes)) := by
  rintro drawn ⟨⟩
  exact h

theorem contextInv_new : ContextInv {} where
  current h := absurd rfl h
  returned := by simp
  settled := by simp
  counts := by simp
  short := by simp

variable {s : ContextObserver}

theorem ContextInv.ne_nil (h : ContextInv s) {reference : List UInt8}
    (hmem : .returned reference sample events ∈ s.history) : reference ≠ [] := by
  obtain ⟨⟨bytes, -, rfl⟩, -⟩ := h.returned reference sample events hmem
  exact networkReference_ne_nil bytes

/-- The history stays, the reference is gone, and no sample is being assembled, or the observer is
at its end. -/
theorem ContextInv.of_forgotten (h : ContextInv s) {s' : ContextObserver}
    (hreference : s'.reference = []) (hdrawn : s'.drawn = s.drawn) (hhistory : s'.history = s.history)
    (hpending : s'.pending = none ∨ (s'.pending = s.pending ∧ (s'.closed = true ∨ s'.failed = true))) :
    ContextInv s' where
  current hne := absurd hreference hne
  returned reference sample events hmem := by
    rw [hhistory] at hmem
    obtain ⟨⟨bytes, hbytes, hname⟩, -, hevents⟩ := h.returned reference sample events hmem
    have hne := h.ne_nil hmem
    exact ⟨⟨bytes, hdrawn ▸ hbytes, hname⟩, fun heq => absurd (heq.symm.trans hreference) hne,
      hevents⟩
  settled before event after reference sample events hsplit hmem hconcerns := by
    rw [hhistory] at hsplit
    have hne := h.ne_nil (hsplit ▸ List.mem_append_left _ hmem)
    obtain ⟨-, hafter⟩ := h.settled before event after reference sample events hsplit hmem hconcerns
    exact ⟨fun heq => hne (heq.symm.trans hreference), hafter⟩
  counts read hread hclosed hfailed := by
    rcases hpending with hnone | ⟨-, hend | hend⟩
    · rw [hnone] at hread
      cases hread
    · rw [hend] at hclosed
      cases hclosed
    · rw [hend] at hfailed
      cases hfailed
  short read hread := by
    rcases hpending with hnone | ⟨hsame, -⟩
    · rw [hnone] at hread
      cases hread
    · exact h.short read (hsame ▸ hread)

theorem ContextInv.capture (h : ContextInv s) (starts : Bool) (answer : Option PhysicalSample) :
    ContextInv (s.capture starts answer) := by
  unfold ContextObserver.capture
  split
  · exact h
  · split
    · exact h
    · split
      · next hpending _ _ =>
        refine ⟨h.current, h.returned, h.settled, fun read _ _ hfailed => ?_, h.short⟩
        cases hfailed
      · refine ⟨h.current, h.returned, h.settled, fun read hread _ _ => ?_, fun read hread => ?_⟩
        · obtain rfl := Option.some.inj hread
          refine ⟨0, Nat.le_refl 0, by simp, ?_⟩
          simp
        · obtain rfl := Option.some.inj hread
          simp

theorem ContextInv.cleared (h : ContextInv s) : ContextInv { s with pending := none } where
  current := h.current
  returned := h.returned
  settled := h.settled
  counts := by simp
  short := by simp

/-- A note that a reference was returned ends a history. -/
theorem ContextInv.delivered (h : ContextInv s) (hsample : s.sample = some sample)
    (hnamed : s.Named s.reference) (hevents : ∀ event ∈ events, ¬ Concerns sample event) :
    ContextInv (s.deliver sample events) where
  current := h.current
  counts := h.counts
  short := h.short
  returned reference sample' events' hmem := by
    rcases List.mem_append.mp hmem with hmem | hmem
    · exact h.returned reference sample' events' hmem
    · cases List.mem_singleton.mp hmem
      exact ⟨hnamed, fun _ => hsample, hevents⟩
  settled before event after reference sample' events' hsplit hmem hconcerns := by
    rcases eq_of_append_singleton hsplit with ⟨-, hnote⟩ | ⟨rest, rfl, hrest⟩
    · cases hnote
    · obtain ⟨hne, hafter⟩ := h.settled before event rest reference sample' events' hrest hmem hconcerns
      refine ⟨hne, fun sample'' events'' hlater => ?_⟩
      rcases List.mem_append.mp hlater with hlater | hlater
      · exact hafter sample'' events'' hlater
      · cases List.mem_singleton.mp hlater
        exact hne rfl

/-- A new reference names what none before it names. -/
theorem ContextInv.renamed (h : ContextInv s) (sample : PhysicalSample) {bytes : List UInt8}
    (hpending : s.pending = none) (hfresh : bytes ∉ s.drawn) :
    ContextInv { s with interfaces := sample.interfaces
                        nmPaths := selectedNetworkManagerPaths sample
                        sample := some sample
                        reference := networkReference bytes
                        drawn := s.drawn ++ [bytes] } := by
  have hnew : ∀ reference, s.Named reference → networkReference bytes ≠ reference := by
    rintro reference ⟨old, hold, rfl⟩ heq
    exact hfresh (networkReference_injective heq ▸ hold)
  constructor
  case current =>
    exact fun _ => ⟨⟨bytes, List.mem_append_right _ List.mem_cons_self, rfl⟩, sample, rfl, rfl, rfl⟩
  case returned =>
    intro reference sample' events hmem
    obtain ⟨hnamed, -, hevents⟩ := h.returned reference sample' events hmem
    refine ⟨?_, fun heq => absurd heq (hnew reference hnamed), hevents⟩
    obtain ⟨old, hold, hname⟩ := hnamed
    exact ⟨old, List.mem_append_left _ hold, hname⟩
  case settled =>
    intro before event after reference sample' events hsplit hmem hconcerns
    have hsplit' : s.history = before ++ .processed event :: after := hsplit
    obtain ⟨hnamed, -⟩ := h.returned reference sample' events
      (hsplit' ▸ List.mem_append_left _ hmem)
    exact ⟨hnew reference hnamed, (h.settled before event after reference sample' events hsplit' hmem
      hconcerns).2⟩
  case counts => simp [hpending]
  case short => simp [hpending]

theorem ContextInv.accept (h : ContextInv s) (hpending : s.pending = none)
    {random : Option (List UInt8)} (hfresh : ∀ bytes ∈ random, bytes ∉ s.drawn)
    (hevents : ∀ event ∈ events, ¬ Concerns sample event) :
    ContextInv (s.accept sample events random) := by
  unfold ContextObserver.accept
  simp only
  split
  · cases random with
    | none => exact h.of_forgotten rfl rfl rfl (.inl hpending)
    | some bytes =>
      have hrenamed := h.renamed sample hpending (hfresh bytes rfl)
      exact hrenamed.delivered rfl
        ⟨bytes, List.mem_append_right _ List.mem_cons_self, rfl⟩ hevents
  · next hkept =>
    rw [not_or, not_not] at hkept
    obtain ⟨hreference, hsample⟩ := hkept
    obtain ⟨hnamed, sample', hsample', hinterfaces, hpaths⟩ := h.current hreference
    obtain rfl := Option.some.inj (hsample'.symm.trans hsample)
    have hsame : { s with interfaces := sample'.interfaces
                          nmPaths := selectedNetworkManagerPaths sample' } = s := by
      rw [← hinterfaces, ← hpaths]
    rw [hsame]
    exact h.delivered hsample hnamed hevents

/-- Fewer events than revisions cannot bring the revision back. -/
theorem PendingRead.Counts.quiet {read : PendingRead} (h : read.Counts read.revision)
    (hshort : read.events.length < 2 ^ 64) (hanswer : read.answer = some sample) :
    ∀ event ∈ read.events, ¬ Concerns sample event := by
  obtain ⟨moved, hmoved, hrevision, hconcerns⟩ := h
  intro event hevent hconcern
  have hpos := hconcerns sample hanswer event hevent hconcern
  -- the revision is a sum of its own with fewer than 2 ^ 64 moves
  have hmod := congrArg UInt64.toNat hrevision
  have hbound := read.revision.toNat_lt
  simp only [UInt64.toNat_add, UInt64.toNat_ofNat'] at hmod
  omega

theorem ContextInv.finish (h : ContextInv s) {cancelled : Bool} {random : Option (List UInt8)}
    (hfresh : ∀ bytes ∈ random, bytes ∉ s.drawn) : ContextInv (s.finish cancelled random) := by
  unfold ContextObserver.finish
  split
  · exact h
  · next read hpending =>
    simp only
    split
    · exact h.cleared
    · next hgoes =>
      simp only [not_or, Bool.not_eq_true, not_not] at hgoes
      obtain ⟨hclosed, hfailed, hrevision⟩ := hgoes
      split
      · split
        · exact h.cleared
        · exact h.cleared.of_forgotten rfl rfl rfl (.inl rfl)
      · next sample hanswer =>
        have hcounts := h.counts read hpending hclosed hfailed
        rw [hrevision] at hcounts
        exact h.cleared.accept rfl hfresh
          (hcounts.quiet (h.short read hpending) hanswer)

/-- What the processing of an event does, when it is heard. -/
theorem ContextObserver.process_cases (s : ContextObserver) (event : NetworkEvent) :
    s.process event = s ∨
      ((s.process event).sample = s.sample ∧ (s.process event).interfaces = s.interfaces ∧
        (s.process event).nmPaths = s.nmPaths ∧ (s.process event).drawn = s.drawn ∧
        (s.process event).closed = s.closed ∧ (s.process event).failed = s.failed ∧
        (s.process event).history = s.history ++ [.processed event] ∧
        (s.process event).pending =
          s.pending.map (fun read => { read with events := read.events ++ [event] }) ∧
        ((event.changes s.nmPaths s.interfaces = true ∧ (s.process event).reference = [] ∧
            (s.process event).eventRevision = s.eventRevision + 1) ∨
          (event.changes s.nmPaths s.interfaces = false ∧
            (s.process event).reference = s.reference ∧
            (s.process event).eventRevision = s.eventRevision))) := by
  unfold ContextObserver.process
  split
  · exact .inl rfl
  · right
    simp only
    split
    · next hchanges =>
      exact ⟨rfl, rfl, rfl, rfl, rfl, rfl, rfl, rfl, .inl ⟨hchanges, rfl, rfl⟩⟩
    · next hsame =>
      exact ⟨rfl, rfl, rfl, rfl, rfl, rfl, rfl, rfl, .inr ⟨by simpa using hsame, rfl, rfl⟩⟩

/-- The events of a sample count one more. -/
theorem PendingRead.Counts.process {read : PendingRead} {revision revision' : UInt64}
    (changes : Bool) (h : read.Counts revision)
    (hrevision : revision' = if changes then revision + 1 else revision)
    (hselects : ∀ sample ∈ read.answer, Concerns sample event → changes = true) :
    PendingRead.Counts { read with events := read.events ++ [event] } revision' := by
  obtain ⟨moved, hmoved, hcount, hconcerns⟩ := h
  cases changes with
  | true =>
    refine ⟨moved + 1, by simpa using hmoved, ?_, fun _ _ _ _ _ => Nat.succ_pos moved⟩
    rw [hrevision, hcount, UInt64.ofNat_add]
    exact UInt64.add_assoc ..
  | false =>
    have hlength : moved ≤ (read.events ++ [event]).length := by
      rw [List.length_append]
      exact Nat.le_add_right_of_le hmoved
    refine ⟨moved, hlength, hrevision.trans hcount, fun sample hsample other hother hconcern => ?_⟩
    rcases List.mem_append.mp hother with hother | hother
    · exact hconcerns sample hsample other hother hconcern
    · rw [List.mem_singleton.mp hother] at hconcern
      cases hselects sample hsample hconcern

theorem ContextInv.process (h : ContextInv s) (hcovered : Covered s (.process event)) :
    ContextInv (s.process event) := by
  rcases s.process_cases event with hsame | ⟨hsample, hinterfaces, hpaths, hdrawn, hclosed, hfailed,
      hhistory, hpending, hchange⟩
  · rwa [hsame]
  have hreference : (s.process event).reference = [] ∨
      (s.process event).reference = s.reference := by
    rcases hchange with ⟨-, hnone, -⟩ | ⟨-, hkept, -⟩
    · exact .inl hnone
    · exact .inr hkept
  constructor
  case current =>
    intro hne
    rcases hreference with hnone | hkept
    · exact absurd hnone hne
    · rw [hkept] at hne ⊢
      rw [hsample, hinterfaces, hpaths, ContextObserver.Named, hdrawn]
      exact h.current hne
  case returned =>
    intro reference sample events hmem
    have hmem' : .returned reference sample events ∈ s.history := by
      rw [hhistory] at hmem
      simpa using hmem
    obtain ⟨hnamed, hkeeps, hevents⟩ := h.returned reference sample events hmem'
    have hne := h.ne_nil hmem'
    refine ⟨by rwa [ContextObserver.Named, hdrawn], fun heq => ?_, hevents⟩
    rcases hreference with hnone | hkept
    · exact absurd (heq.symm.trans hnone) hne
    · rw [hsample]
      exact hkeeps (hkept.symm.trans heq)
  case settled =>
    intro before other after reference sample events hsplit hmem hconcerns
    rw [hhistory] at hsplit
    rcases eq_of_append_singleton hsplit with ⟨rfl, hnote⟩ | ⟨rest, rfl, hrest⟩
    · -- the event is the one that is processed: the reference is forgotten, if it is the one
      obtain rfl : other = event := ContextNote.processed.inj hnote
      have hbefore : before = s.history := (List.append_inj' hsplit rfl).1.symm
      rw [hbefore] at hmem
      obtain ⟨-, hkeeps, -⟩ := h.returned reference sample events hmem
      refine ⟨fun heq => ?_, by simp⟩
      rcases hchange with ⟨-, hnone, -⟩ | ⟨hquiet, hkept, -⟩
      · exact h.ne_nil hmem (heq.symm.trans hnone)
      · have hnow : s.reference = reference := hkept.symm.trans heq
        obtain ⟨-, sample', hsample', hlinks, hobjects⟩ := h.current (hnow ▸ h.ne_nil hmem)
        obtain rfl := Option.some.inj (hsample'.symm.trans (hkeeps hnow))
        rw [hlinks, hobjects] at hquiet
        rw [Concerns, hquiet] at hconcerns
        cases hconcerns
    · obtain ⟨hne, hafter⟩ := h.settled before other rest reference sample events hrest hmem hconcerns
      refine ⟨fun heq => ?_, fun sample' events' hlater => ?_⟩
      · rcases hreference with hnone | hkept
        · have hmem' : .returned reference sample events ∈ s.history :=
            hrest ▸ List.mem_append_left _ hmem
          exact h.ne_nil hmem' (heq.symm.trans hnone)
        · exact hne (hkept.symm.trans heq)
      · rcases List.mem_append.mp hlater with hlater | hlater
        · exact hafter sample' events' hlater
        · cases List.mem_singleton.mp hlater
  case counts =>
    intro read hread hopen hsound
    rw [hpending] at hread
    obtain ⟨old, hold, rfl⟩ := Option.map_eq_some_iff.mp hread
    have hcounts := h.counts old hold (hclosed ▸ hopen) (hfailed ▸ hsound)
    refine PendingRead.Counts.process (event.changes s.nmPaths s.interfaces) hcounts ?_ ?_
    · rcases hchange with ⟨hchanges, -, hrevision⟩ | ⟨hquiet, -, hrevision⟩
      · simp [hchanges, hrevision]
      · simp [hquiet, hrevision]
    · intro sample hanswer hconcerns
      exact changes_of_selects hconcerns ((hcovered old hold).2 sample hanswer hconcerns)
  case short =>
    intro read hread
    rw [hpending] at hread
    obtain ⟨old, hold, rfl⟩ := Option.map_eq_some_iff.mp hread
    simpa using (hcovered old hold).1

theorem ContextInv.eventsFailed (h : ContextInv s) : ContextInv s.eventsFailed := by
  unfold ContextObserver.eventsFailed
  split
  · exact h
  · exact h.of_forgotten rfl rfl rfl (.inr ⟨rfl, .inr rfl⟩)

theorem ContextInv.close (h : ContextInv s) : ContextInv s.close := by
  unfold ContextObserver.close
  split
  · exact h
  · exact h.of_forgotten rfl rfl rfl (.inr ⟨rfl, .inl rfl⟩)

theorem ContextInv.after (h : ContextInv s) (step : ContextStep)
    (hstep : Covered s step ∧ DrawsAfresh s step) : ContextInv (s.after step) := by
  cases step with
  | capture starts answer => exact h.capture starts answer
  | finish cancelled random => exact h.finish hstep.2
  | process event => exact h.process hstep.1
  | eventsFailed => exact h.eventsFailed
  | close => exact h.close

/-- In every run whose events are covered, a reference that is returned has seen no event that
concerns its sample, and it is over for ever when there is one. -/
theorem references_cover_windows (steps : List ContextStep)
    (hcovered : along ContextObserver.after Covered {} steps)
    (hafresh : along ContextObserver.after DrawsAfresh {} steps) :
    (∀ reference sample events,
        .returned reference sample events ∈ (run ContextObserver.after {} steps).history →
          ∀ event ∈ events, ¬ Concerns sample event) ∧
      ∀ (before : List ContextNote) event after reference sample events,
        (run ContextObserver.after {} steps).history = before ++ .processed event :: after →
          .returned reference sample events ∈ before → Concerns sample event →
            (run ContextObserver.after {} steps).reference ≠ reference ∧
              ∀ sample' events', .returned reference sample' events' ∉ after := by
  have hinv : ContextInv (run ContextObserver.after {} steps) :=
    keeps_along (fun _ step hs hstep => hs.after step hstep) contextInv_new
      (along_and hcovered hafresh)
  refine ⟨fun reference sample events hmem => ?_, hinv.settled⟩
  exact (hinv.returned reference sample events hmem).2.2

section Uplinks

/-- An uplink by its name and its index. -/
private def uplink (name : String) (index : Int) : PhysicalSample where
  routes := [⟨"inet", "default", "192.0.2.1", name, 100, "192.0.2.2", "dhcp"⟩]
  links := [⟨name, index, 1500, "02:00:00:00:00:01", ["192.0.2.2/24"], "192.0.2.1",
    "org.freedesktop.NetworkManager", "/device/" ++ name, "/connection/" ++ name, "", "", 1, "", ""⟩]
  linked := List.cons_ne_nil _ _

/-- `RTM_NEWADDR` of an interface. -/
private def addressAdded (index : UInt8) : NetworkEvent :=
  .netlink ⟨20, [2, 24, 0, 0, index, 0, 0, 0]⟩

/-- The address of an uplink changes while nothing is selected, and again when it is in use. -/
private def steadyUplink : List ContextStep :=
  [.capture true (some (uplink "eth0" 2)), .process (addressAdded 2), .finish false (some [1]),
    .capture true (some (uplink "eth0" 2)), .finish false (some [2]), .process (addressAdded 2)]

theorem references_cover_windows_steady :
    (run ContextObserver.after {} steadyUplink).history.length = 3 ∧
      (run ContextObserver.after {} steadyUplink).reference ≠ networkReference [2] := by
  have hcovered : along ContextObserver.after Covered {} steadyUplink := by
    refine ⟨trivial, fun read hread => ?_, trivial, trivial, trivial, fun read hread => ?_, trivial⟩
    · obtain rfl := Option.some.inj hread
      refine ⟨by decide, fun sample _ _ => ⟨fun _ _ _ => .inl rfl, fun _ _ _ => .inl rfl⟩⟩
    · cases hread
  have hafresh : along ContextObserver.after DrawsAfresh {} steadyUplink :=
    ⟨trivial, trivial, drawsAfresh_finish (by decide), trivial, drawsAfresh_finish (by decide),
      trivial, trivial⟩
  have hover := (references_cover_windows steadyUplink hcovered hafresh).2
  refine ⟨by decide, ?_⟩
  refine (hover [.processed (addressAdded 2), .returned (networkReference [2]) (uplink "eth0" 2) []]
    (addressAdded 2) [] (networkReference [2]) (uplink "eth0" 2) [] ?_ ?_ ?_).1
  · decide
  · exact List.mem_cons_of_mem _ List.mem_cons_self
  · decide

/-- The uplink moves to another interface, whose address changes while that is assembled. -/
private def movedUplink : List ContextStep :=
  [.capture true (some (uplink "eth0" 2)), .finish false (some [1]),
    .capture true (some (uplink "wlan0" 3)), .process (addressAdded 3), .finish false (some [2])]

theorem window_not_covered :
    ¬ ∀ steps : List ContextStep, along ContextObserver.after DrawsAfresh {} steps →
      ∀ reference sample events,
        .returned reference sample events ∈ (run ContextObserver.after {} steps).history →
          ∀ event ∈ events, ¬ Concerns sample event := by
  intro h
  have hafresh : along ContextObserver.after DrawsAfresh {} movedUplink :=
    ⟨trivial, drawsAfresh_finish (by decide), trivial, trivial, drawsAfresh_finish (by decide),
      trivial⟩
  have hmem : .returned (networkReference [2]) (uplink "wlan0" 3) [addressAdded 3] ∈
      (run ContextObserver.after {} movedUplink).history := by decide
  exact h movedUplink hafresh _ _ _ hmem (addressAdded 3) List.mem_cons_self (by decide)

end Uplinks

end Pokrov.Linux.Service
