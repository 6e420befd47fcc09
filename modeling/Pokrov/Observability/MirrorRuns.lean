import Pokrov.Observability.ReleaseHealth

/-!
# Runs of the mirror

Whatever the event loop runs next and however the transport answers, the local writer gets
every batch once, a batch of the mirror is sent until it is accepted and before any other,
and each record that the queue has accepted is pending, evicted, in one batch, or among
those of a batch with nothing to send it under. Once no drain is chained and no batch is held
none is pending.
-/

namespace Pokrov.Observability.ReleaseHealthMirrorWriter

open Dart StopAndWait

/-- The records of the batches of the local writer that the mirror is for. -/
def eligible (batches : List (List SerializedOperationalEvent)) : List SerializedOperationalEvent :=
  batches.flatten.filter fun record => isAggregateEligible record.event

/-- What holds of the queue and of the batches. -/
structure Delivers (m : ReleaseHealthMirrorWriter) : Prop where
  accounted : m.pending.Accounted
  /-- The queue has accepted or rejected what it was offered. -/
  answered : (m.pending.history.accepted ++ m.pending.history.rejected).Perm m.ledger.offered
  /-- What was taken from the queue is in the batches, in order. -/
  taken : m.ledger.dequeued.flatMap Dequeued.records = m.pending.history.taken
  sizes : ∀ d ∈ m.ledger.dequeued,
    1 ≤ d.records.length ∧ d.records.length ≤ m.maximumBatchEvents
  discarded : ∀ records, .discarded records ∈ m.ledger.dequeued → correlationIdOf records = none
  messages : m.ledger.line.messages = m.ledger.dequeued.filterMap Dequeued.batch?
  inOrder : m.ledger.line.InOrder
  held : m.ledger.line.held = m.unacknowledgedBatch
  projected_eq : m.projected = m.pending.history.taken.length
  acceptedBatches_eq : m.acceptedBatches = m.ledger.line.delivered.length
  /-- A batch is counted as rejected when it is discarded and each time it is not accepted. -/
  rejectedBatches_eq : m.rejectedBatches = m.ledger.dequeued.countP Dequeued.isDiscarded +
    m.ledger.line.sent.countP fun sent => !sent.2

/-- What holds of the local writer. -/
structure Writes (m : ReleaseHealthMirrorWriter) : Prop where
  received : m.ledger.received.Perm (m.ledger.written ++ m.ledger.thrown ++ m.writing)
  offered : m.ledger.offered = eligible m.ledger.written

/-- What holds between two pieces of code. -/
structure Coherent (m : ReleaseHealthMirrorWriter) : Prop extends m.Delivers, m.Writes where
  sending : m.sending = true → m.unacknowledgedBatch.isSome
  /-- Nothing is left in the queue once no drain is chained and no batch is held. -/
  idle : m.deliveries = 0 → m.unacknowledgedBatch = none → m.pending.records = []

theorem coherent_new (bound : MirrorBound) : (new bound).Coherent where
  accounted := BoundedOperationalEventQueue.accounted_new _
  answered := .refl _
  taken := rfl
  sizes := by simp [new]
  discarded := by simp [new]
  messages := rfl
  inOrder := Line.inOrder_empty
  held := rfl
  projected_eq := rfl
  acceptedBatches_eq := rfl
  rejectedBatches_eq := rfl
  received := .refl _
  offered := rfl
  sending := by simp [new]
  idle := fun _ _ => rfl

/-! ## The queue -/

/-- The mirror after some records were offered. -/
structure Offers (m : ReleaseHealthMirrorWriter) (records : List SerializedOperationalEvent)
    (m' : ReleaseHealthMirrorWriter) : Prop where
  delivers : m'.Delivers
  offered : m'.ledger.offered =
    m.ledger.offered ++ records.filter fun record => isAggregateEligible record.event
  received : m'.ledger.received = m.ledger.received
  written : m'.ledger.written = m.ledger.written
  thrown : m'.ledger.thrown = m.ledger.thrown
  writing : m'.writing = m.writing
  sending : m'.sending = m.sending
  unacknowledgedBatch : m'.unacknowledgedBatch = m.unacknowledgedBatch
  bound : m'.toMirrorBound = m.toMirrorBound

theorem Offers.trans {m m' m'' : ReleaseHealthMirrorWriter}
    {records records' : List SerializedOperationalEvent} (h : Offers m records m')
    (h' : Offers m' records' m'') : Offers m (records ++ records') m'' where
  delivers := h'.delivers
  offered := by rw [h'.offered, h.offered, List.filter_append, List.append_assoc]
  received := h'.received.trans h.received
  written := h'.written.trans h.written
  thrown := h'.thrown.trans h.thrown
  writing := h'.writing.trans h.writing
  sending := h'.sending.trans h.sending
  unacknowledgedBatch := h'.unacknowledgedBatch.trans h.unacknowledgedBatch
  bound := h'.bound.trans h.bound

variable {m : ReleaseHealthMirrorWriter} {records : List SerializedOperationalEvent}

theorem Delivers.offer (h : m.Delivers) (record : SerializedOperationalEvent) :
    Offers m [record] (m.offer record) := by
  by_cases heligible : isAggregateEligible record.event = true
  · obtain ⟨answer, hadds, hall⟩ := BoundedOperationalEventQueue.tryAdd_adds h.accounted record
    obtain ⟨hhistory, htaken⟩ := hadds.history
    have hanswer : ((m.pending.tryAdd record).map Prod.fst).getD m.pending = answer.1 := by
      rw [BoundedOperationalEventQueue.tryAdd, hall _ (Nat.lt_succ_self _)]
      rfl
    rw [ReleaseHealthMirrorWriter.offer, if_pos heligible, hanswer]
    refine ⟨{ h with
      accounted := hadds.accounted h.accounted, answered := ?_, taken := ?_, projected_eq := ?_ }, ?_,
      rfl, rfl, rfl, rfl, rfl, rfl, rfl⟩
    · exact hhistory.trans (h.answered.append_right [record])
    · exact h.taken.trans htaken.symm
    · rw [h.projected_eq, htaken]
    · simp [heligible]
  · rw [ReleaseHealthMirrorWriter.offer, if_neg heligible]
    exact ⟨h, by simp [heligible], rfl, rfl, rfl, rfl, rfl, rfl, rfl⟩

theorem Delivers.offers (h : m.Delivers) (records : List SerializedOperationalEvent) :
    Offers m records (records.foldl ReleaseHealthMirrorWriter.offer m) := by
  induction records generalizing m with
  | nil => exact ⟨h, by simp, rfl, rfl, rfl, rfl, rfl, rfl, rfl⟩
  | cons record records ih =>
    have hfirst := h.offer record
    exact hfirst.trans (ih hfirst.delivers)

/-! ## Deliveries -/

/-- A step of a drain: it does not touch what the local writer has to do. -/
structure Drains (m m' : ReleaseHealthMirrorWriter) : Prop where
  received : m'.ledger.received = m.ledger.received
  written : m'.ledger.written = m.ledger.written
  thrown : m'.ledger.thrown = m.ledger.thrown
  offered : m'.ledger.offered = m.ledger.offered
  writing : m'.writing = m.writing
  bound : m'.toMirrorBound = m.toMirrorBound

theorem Drains.trans {m m' m'' : ReleaseHealthMirrorWriter} (h : Drains m m') (h' : Drains m' m'') :
    Drains m m'' where
  received := h'.received.trans h.received
  written := h'.written.trans h.written
  thrown := h'.thrown.trans h.thrown
  offered := h'.offered.trans h.offered
  writing := h'.writing.trans h.writing
  bound := h'.bound.trans h.bound

theorem Drains.writes {m m' : ReleaseHealthMirrorWriter} (h : Drains m m') (hm : m.Writes) :
    m'.Writes where
  received := by
    rw [h.received, h.written, h.thrown, h.writing]
    exact hm.received
  offered := by rw [h.offered, h.written, hm.offered]

theorem drains_dequeue (m : ReleaseHealthMirrorWriter) (records : List SerializedOperationalEvent)
    (pending : BoundedOperationalEventQueue) : Drains m (m.dequeue records pending) := by
  unfold dequeue
  split <;> exact ⟨rfl, rfl, rfl, rfl, rfl, rfl⟩

/-- A batch is dequeued while none is held. -/
theorem Delivers.dequeue (h : m.Delivers) (hfree : m.unacknowledgedBatch = none)
    (hsizes : 1 ≤ records.length ∧ records.length ≤ m.maximumBatchEvents)
    {pending : BoundedOperationalEventQueue} (hpending : pending.Accounted)
    (hhistory : pending.history = { m.pending.history with taken := m.pending.history.taken ++ records }) :
    (m.dequeue records pending).Delivers := by
  have hanswered : (pending.history.accepted ++ pending.history.rejected).Perm m.ledger.offered := by
    rw [hhistory]
    exact h.answered
  have htaken : m.ledger.dequeued.flatMap Dequeued.records ++ records = pending.history.taken := by
    rw [h.taken, hhistory]
  have hprojected : m.projected + records.length = pending.history.taken.length := by
    rw [hhistory, h.projected_eq, List.length_append]
  have hrejected := h.rejectedBatches_eq
  unfold ReleaseHealthMirrorWriter.dequeue
  split
  · next hcorrelation =>
    refine { h with
      accounted := hpending, answered := hanswered, taken := ?_, sizes := ?_, discarded := ?_
      messages := ?_, held := h.held, projected_eq := hprojected, rejectedBatches_eq := ?_ }
    · simpa [Dequeued.records] using htaken
    · intro d hd
      rcases List.mem_append.mp hd with hold | hnew
      · exact h.sizes d hold
      · rw [List.mem_singleton.mp hnew]
        exact hsizes
    · intro records' hd
      rcases List.mem_append.mp hd with hold | hnew
      · exact h.discarded records' hold
      · cases List.mem_singleton.mp hnew
        exact hcorrelation
    · simp [h.messages, Dequeued.batch?]
    · simp only [List.countP_append, List.countP_singleton, Dequeued.isDiscarded, if_true]
      omega
  · next correlationId hcorrelation =>
    refine { h with
      accounted := hpending, answered := hanswered, taken := ?_, sizes := ?_, discarded := ?_
      messages := ?_, inOrder := ?_, held := rfl, projected_eq := hprojected
      rejectedBatches_eq := ?_ }
    · simpa [Dequeued.records] using htaken
    · intro d hd
      rcases List.mem_append.mp hd with hold | hnew
      · exact h.sizes d hold
      · rw [List.mem_singleton.mp hnew]
        exact hsizes
    · intro records' hd
      rcases List.mem_append.mp hd with hold | hnew
      · exact h.discarded records' hold
      · cases List.mem_singleton.mp hnew
    · simp [h.messages, Dequeued.batch?, Line.hold]
    · exact h.inOrder.hold (by rw [h.held, hfree]) _
    · simpa [Line.hold, Dequeued.isDiscarded] using hrejected

theorem dequeue_pending (m : ReleaseHealthMirrorWriter) (records : List SerializedOperationalEvent)
    (pending : BoundedOperationalEventQueue) : (m.dequeue records pending).pending = pending := by
  unfold dequeue
  split <;> rfl

/-- What a drain leads to: it has ended, or waits for the transport with a batch that is held. -/
structure Drained (m m' : ReleaseHealthMirrorWriter) : Prop where
  delivers : m'.Delivers
  drains : Drains m m'
  sending : m'.sending = true → m'.unacknowledgedBatch.isSome
  emptied : m'.unacknowledgedBatch = none → m'.pending.records = []

theorem drain_spec {rounds : Nat} (h : m.Delivers) (hrounds : m.pending.depth + 1 < rounds) :
    ∃ m', drain rounds m = some m' ∧ Drained m m' := by
  induction rounds generalizing m with
  | zero => omega
  | succ rounds ih =>
    unfold drain
    by_cases hheld : m.unacknowledgedBatch.isSome = true
    · rw [if_pos hheld]
      exact ⟨_, rfl, { h with }, ⟨rfl, rfl, rfl, rfl, rfl, rfl⟩, fun _ => hheld,
        fun hfree => absurd hfree (Option.isSome_iff_ne_none.mp hheld)⟩
    · have hmaximum : (1 : Int) ≤ m.maximumBatchEvents := by
        exact_mod_cast m.maximumBatchEvents_pos
      obtain ⟨batch, rest, hrecords, hlength, hrest, htake⟩ := m.pending.takeBatch_spec hmaximum
      have haccounted := h.accounted.takeBatch htake
      rw [if_neg hheld, htake]
      cases batch with
      | nil =>
        refine ⟨_, rfl, { h with accounted := haccounted, taken := ?_, projected_eq := ?_ },
          ⟨rfl, rfl, rfl, rfl, rfl, rfl⟩, by simp, fun _ => hrest rfl⟩
        · simpa [BoundedOperationalEventQueue.without] using h.taken
        · simpa [BoundedOperationalEventQueue.without] using h.projected_eq
      | cons first others =>
        have hfree : m.unacknowledgedBatch = none := by simpa using hheld
        have hnext := h.dequeue hfree ⟨by simp, by exact_mod_cast hlength⟩ haccounted rfl
        -- the batch has a record, so that the queue is shorter in the next round
        have hdepth : (m.pending.without (first :: others) rest).depth + 1 < rounds := by
          simp only [BoundedOperationalEventQueue.depth, hrecords, List.length_append,
            List.length_cons, BoundedOperationalEventQueue.without] at hrounds ⊢
          omega
        obtain ⟨m', hdrain, hdrained⟩ := ih hnext (by rw [dequeue_pending]; exact hdepth)
        exact ⟨m', hdrain, hdrained.delivers,
          (drains_dequeue m _ _).trans hdrained.drains, hdrained.sending, hdrained.emptied⟩

theorem Delivers.resume (h : m.Delivers) : Drained m m.resume := by
  obtain ⟨m', hdrain, hdrained⟩ := drain_spec h (Nat.lt_succ_self (m.pending.depth + 1))
  rw [ReleaseHealthMirrorWriter.resume, hdrain]
  exact hdrained

theorem Drained.coherent {m m' : ReleaseHealthMirrorWriter} (h : Drained m m') (hm : m.Writes) :
    m'.Coherent :=
  { h.delivers, h.drains.writes hm with sending := h.sending, idle := fun _ => h.emptied }

/-- The batch that is held is accepted. -/
theorem Coherent.accepts (h : m.Coherent) {batch : MirrorBatch}
    (hheld : m.unacknowledgedBatch = some batch) : Delivers { m with
      acceptedBatches := m.acceptedBatches + 1, unacknowledgedBatch := none
      ledger := { m.ledger with line := m.ledger.line.answer batch true } } :=
  { h.toDelivers with
    inOrder := h.inOrder.answer (by rw [h.held, hheld]) true, held := rfl
    acceptedBatches_eq := by simp [Line.answer, Line.delivered, h.acceptedBatches_eq]
    rejectedBatches_eq := by simp [Line.answer, h.rejectedBatches_eq] }

/-- The transport has answered for the batch that is held. -/
theorem Coherent.answers (h : m.Coherent) {batch : MirrorBatch}
    (hheld : m.unacknowledgedBatch = some batch) (answer : Answer) :
    (m.answered batch answer).Coherent := by
  unfold ReleaseHealthMirrorWriter.answered
  split
  · exact (h.accepts hheld).resume.coherent { h.toWrites with }
  · exact { h with
      inOrder := h.inOrder.answer (by rw [h.held, hheld]) false
      held := by simp [Line.answer, hheld]
      acceptedBatches_eq := by simpa [Line.answer, Line.delivered] using h.acceptedBatches_eq
      rejectedBatches_eq := by simp [Line.answer, h.rejectedBatches_eq, Nat.add_assoc]
      sending := by simp
      idle := fun _ hfree => by simp [hheld] at hfree }

/-! ## Any order -/

theorem perm_eraseIdx {α : Type} {xs : List α} {i : Nat} {x : α} (h : xs[i]? = some x) :
    xs.Perm (x :: xs.eraseIdx i) := by
  obtain ⟨hlt, rfl⟩ := List.getElem?_eq_some_iff.mp h
  rw [List.eraseIdx_eq_take_drop_succ]
  refine List.Perm.trans ?_ List.perm_middle
  rw [List.getElem_cons_drop, List.take_append_drop]

theorem Coherent.written (h : m.Coherent) {index : Nat}
    (hwriting : m.writing[index]? = some records) : (m.localWritten index records).Coherent := by
  have hdelivers : Delivers { m with
      writing := m.writing.eraseIdx index
      ledger := { m.ledger with written := m.ledger.written ++ [records] } } :=
    { h.toDelivers with }
  have hoffers := hdelivers.offers records
  refine { hoffers.delivers with received := ?_, offered := ?_, sending := ?_, idle := nofun }
  · simp only [localWritten, hoffers.received, hoffers.written, hoffers.thrown, hoffers.writing]
    refine h.received.trans ?_
    -- the batch moves from those that wait to those that are written
    refine ((perm_eraseIdx hwriting).append_left _).trans ?_
    simp only [List.append_assoc]
    refine List.Perm.append_left _ ?_
    simp
  · show (records.foldl ReleaseHealthMirrorWriter.offer _).ledger.offered =
      eligible (records.foldl ReleaseHealthMirrorWriter.offer _).ledger.written
    rw [hoffers.offered, hoffers.written]
    simp [h.offered, eligible]
  · simp only [localWritten, hoffers.sending, hoffers.unacknowledgedBatch]
    exact h.sending

theorem Coherent.throws (h : m.Coherent) {index : Nat} (hwriting : m.writing[index]? = some records) :
    (m.localThrows index records).Coherent := by
  refine { h with received := ?_ }
  refine h.received.trans ?_
  refine ((perm_eraseIdx hwriting).append_left _).trans ?_
  simp [localThrows]

theorem Coherent.step (h : m.Coherent) (input : Input) : (m.step input).Coherent := by
  cases input with
  | appendBatch records =>
    refine { h with received := ?_ }
    simpa [ReleaseHealthMirrorWriter.step, localCalled] using h.received.append_right [records]
  | written index =>
    cases hwriting : m.writing[index]? with
    | none => simpa [ReleaseHealthMirrorWriter.step, hwriting] using h
    | some records => simpa [ReleaseHealthMirrorWriter.step, hwriting] using h.written hwriting
  | writeThrows index =>
    cases hwriting : m.writing[index]? with
    | none => simpa [ReleaseHealthMirrorWriter.step, hwriting] using h
    | some records => simpa [ReleaseHealthMirrorWriter.step, hwriting] using h.throws hwriting
  | flushPending => exact { h with idle := nofun }
  | turn =>
    simp only [ReleaseHealthMirrorWriter.step]
    split
    · exact h.toDelivers.resume.coherent h.toWrites
    · exact h
  | answer answer =>
    simp only [ReleaseHealthMirrorWriter.step]
    split
    · next batch hsending hheld => exact h.answers hheld answer
    · exact h

/-- The local writer is called by `appendBatch` alone. -/
theorem Coherent.step_received (h : m.Coherent) (input : Input) :
    (m.step input).ledger.received = m.ledger.received ++ input.batch?.toList ∧
      (m.step input).toMirrorBound = m.toMirrorBound := by
  have hresume : ∀ m : ReleaseHealthMirrorWriter, m.Delivers →
      m.resume.ledger.received = m.ledger.received ∧ m.resume.toMirrorBound = m.toMirrorBound := by
    intro m h
    exact ⟨h.resume.drains.received, h.resume.drains.bound⟩
  cases input with
  | appendBatch records => exact ⟨rfl, rfl⟩
  | written index =>
    cases hwriting : m.writing[index]? with
    | none => simp [ReleaseHealthMirrorWriter.step, hwriting, Input.batch?]
    | some records =>
      have hdelivers : Delivers { m with
          writing := m.writing.eraseIdx index
          ledger := { m.ledger with written := m.ledger.written ++ [records] } } :=
        { h.toDelivers with }
      have hoffers := hdelivers.offers records
      simp [ReleaseHealthMirrorWriter.step, hwriting, Input.batch?, localWritten, hoffers.received,
        hoffers.bound]
  | writeThrows index =>
    cases hwriting : m.writing[index]? with
    | none => simp [ReleaseHealthMirrorWriter.step, hwriting, Input.batch?]
    | some records => simp [ReleaseHealthMirrorWriter.step, hwriting, Input.batch?, localThrows]
  | flushPending => simp [ReleaseHealthMirrorWriter.step, Input.batch?]
  | turn =>
    simp only [ReleaseHealthMirrorWriter.step, Input.batch?, Option.toList_none, List.append_nil]
    split
    · exact hresume m h.toDelivers
    · exact ⟨rfl, rfl⟩
  | answer answer =>
    simp only [ReleaseHealthMirrorWriter.step, Input.batch?, Option.toList_none, List.append_nil]
    split
    · next batch hsending hheld =>
      unfold answered
      split
      · exact hresume _ (h.accepts hheld)
      · exact ⟨rfl, rfl⟩
    · exact ⟨rfl, rfl⟩

/-- **The mirror delivers.** Of any mirror, whatever is called, in whatever order the calls go
on, and however the local writer and the transport answer. -/
theorem mirror_delivers (bound : MirrorBound) (inputs : List Input) :
    let m := Runs.run step (new bound) inputs
    m.Coherent ∧ m.ledger.received = inputs.filterMap Input.batch? ∧ m.toMirrorBound = bound := by
  have hall : ∀ m : ReleaseHealthMirrorWriter, m.Coherent →
      (Runs.run step m inputs).Coherent ∧
        (Runs.run step m inputs).ledger.received =
          m.ledger.received ++ inputs.filterMap Input.batch? ∧
        (Runs.run step m inputs).toMirrorBound = m.toMirrorBound := by
    induction inputs with
    | nil => exact fun m h => ⟨h, by simp, rfl⟩
    | cons input inputs ih =>
      intro m h
      obtain ⟨hreceived, hbound⟩ := h.step_received input
      obtain ⟨hcoherent, hreceived', hbound'⟩ := ih (m.step input) (h.step input)
      refine ⟨hcoherent, ?_, hbound'.trans hbound⟩
      rw [Runs.run_cons, hreceived', hreceived, List.append_assoc]
      cases hbatch : input.batch? <;> simp [hbatch]
  exact hall (new bound) (coherent_new bound)

/-! ### A batch with nothing to send it under -/

/-- An event of a run. -/
def runEvent : OperationalEvent :=
  { OperationalEvent.sample .info with
    correlation :=
      { OperationalCorrelation.sample with
        runId := some (text "00000000-0000-4000-8000-000000000001")
        accepted := rfl }
    accepted := rfl }

/-- Two records are written, the first of which belongs to no run. -/
def unnamedFirst : List Input :=
  [.appendBatch [⟨.sample .info, [], 100⟩, ⟨runEvent, [], 100⟩], .written 0, .turn]

/-- The record of a run was accepted and not evicted, and is in no batch that is sent. -/
theorem unnamedFirst_discards :
    let m := Runs.run step (new ⟨100, by decide, by decide⟩) unnamedFirst
    m.pending.history.accepted.length = 2 ∧ m.pending.history.evicted.length = 0 ∧
      isAggregateEligible runEvent = true ∧ runEvent.correlation.runId ≠ none ∧
      m.pending.depth = 0 ∧ m.ledger.line.messages.length = 0 := by
  decide

end Pokrov.Observability.ReleaseHealthMirrorWriter
