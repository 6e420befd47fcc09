import Pokrov.Observability.EventQueue

/-!
# Runs of the bounded event queue

The loop of `tryAdd` ends, after any calls the counters agree with what has become of the
records, and a record that is refused has evicted others only where all that may be evicted
do not make enough room.
-/

namespace Pokrov.Observability.BoundedOperationalEventQueue

variable {incoming : SerializedOperationalEvent}

/-! ## The loop of `tryAdd` -/

/-- Some rounds of the loop. -/
inductive Evicts (incoming : SerializedOperationalEvent) :
    BoundedOperationalEventQueue → BoundedOperationalEventQueue → Prop
  | refl (q : BoundedOperationalEventQueue) : Evicts incoming q q
  | round {q q' q'' : BoundedOperationalEventQueue} {index : Nat}
      (full : q.isFull incoming = true) (found : q.findEvictionIndex incoming = some index)
      (evicted : q.evict incoming index = some q') (rest : Evicts incoming q' q'') :
      Evicts incoming q q''

variable {q q' : BoundedOperationalEventQueue} {index : Nat}
  {answer : BoundedOperationalEventQueue × Bool} {maximum : Int}

theorem Evicts.accounted (h : Evicts incoming q q') (hq : q.Accounted) : q'.Accounted := by
  induction h with
  | refl q => exact hq
  | round full found evicted rest ih => exact ih (hq.evict found evicted).1

/-- How the loop ends: with room for the record, or with no record that may be evicted. -/
inductive Ends (incoming : SerializedOperationalEvent) (q : BoundedOperationalEventQueue) :
    BoundedOperationalEventQueue × Bool → Prop
  | added (room : q.isFull incoming = false) : Ends incoming q (q.addLast incoming, true)
  | refused (full : q.isFull incoming = true) (none : q.findEvictionIndex incoming = none) :
      Ends incoming q (q.refuse incoming, false)

theorem exists_evict {q : BoundedOperationalEventQueue}
    (h : q.findEvictionIndex incoming = some index) : ∃ q', q.evict incoming index = some q' := by
  obtain ⟨victim, hget, -, -⟩ := findEvictionIndex_eq_some h
  obtain ⟨before, after, hrecords, rfl⟩ := exists_split hget
  exact ⟨_, evict_eq hrecords⟩

/-- The loop takes at most a round for each record, and one to see that it is done. -/
theorem makeRoom_ends {q : BoundedOperationalEventQueue} (hq : q.Accounted) :
    ∃ q' answer, Evicts incoming q q' ∧ Ends incoming q' answer ∧
      ∀ rounds, q.depth < rounds → makeRoom incoming rounds q = some answer := by
  induction hdepth : q.depth using Nat.strongRecOn generalizing q with
  | ind depth ih =>
    have hloop : ∀ rounds, depth < rounds → ∃ n, rounds = n + 1 ∧ depth ≤ n := by
      intro rounds hrounds
      exact ⟨rounds - 1, by omega, by omega⟩
    cases hfull : q.isFull incoming with
    | false =>
      refine ⟨q, _, .refl q, .added hfull, ?_⟩
      intro rounds hrounds
      obtain ⟨n, rfl, -⟩ := hloop rounds hrounds
      simp [makeRoom, hfull]
    | true =>
      cases hfound : q.findEvictionIndex incoming with
      | none =>
        refine ⟨q, _, .refl q, .refused hfull hfound, ?_⟩
        intro rounds hrounds
        obtain ⟨n, rfl, -⟩ := hloop rounds hrounds
        simp [makeRoom, hfull, hfound]
      | some index =>
        obtain ⟨q1, hevict⟩ := exists_evict hfound
        obtain ⟨haccounted, hless⟩ := hq.evict hfound hevict
        obtain ⟨q', answer, hevicts, hends, hall⟩ := ih q1.depth (by omega) haccounted rfl
        refine ⟨q', answer, .round hfull hfound hevict hevicts, hends, ?_⟩
        intro rounds hrounds
        obtain ⟨n, rfl, hn⟩ := hloop rounds hrounds
        simp [makeRoom, hfull, hfound, hevict, hall n (by omega)]

/-- How `tryAdd` ends. -/
inductive Adds (q : BoundedOperationalEventQueue) (incoming : SerializedOperationalEvent) :
    BoundedOperationalEventQueue × Bool → Prop
  | tooLarge (large : q.maxBytes < incoming.byteLength) : Adds q incoming (q.refuse incoming, false)
  | loop {q' : BoundedOperationalEventQueue} {answer : BoundedOperationalEventQueue × Bool}
      (small : incoming.byteLength ≤ q.maxBytes) (evicts : Evicts incoming q q')
      (ends : Ends incoming q' answer) : Adds q incoming answer

theorem tryAdd_adds {q : BoundedOperationalEventQueue} (hq : q.Accounted)
    (incoming : SerializedOperationalEvent) : ∃ answer, Adds q incoming answer ∧
      ∀ rounds, q.depth < rounds → q.tryAddWithin rounds incoming = some answer := by
  by_cases hlarge : q.maxBytes < incoming.byteLength
  · exact ⟨_, .tooLarge hlarge, fun rounds _ => by simp [tryAddWithin, hlarge]⟩
  · obtain ⟨q', answer, hevicts, hends, hall⟩ := @makeRoom_ends incoming q hq
    refine ⟨answer, .loop (Nat.le_of_not_lt hlarge) hevicts hends, ?_⟩
    intro rounds hrounds
    simp [tryAddWithin, hlarge, hall rounds hrounds]

theorem Adds.accounted {q : BoundedOperationalEventQueue} (hq : q.Accounted)
    (h : Adds q incoming answer) : answer.1.Accounted := by
  cases h with
  | tooLarge large => exact hq.refuse incoming
  | loop small evicts ends =>
    have haccounted := evicts.accounted hq
    cases ends with
    | added room => exact haccounted.addLast room
    | refused full none => exact haccounted.refuse incoming

/-- Evicting takes nothing from the queue, and neither adds nor rejects. -/
theorem evict_history (h : q.evict incoming index = some q') :
    q'.history.accepted = q.history.accepted ∧ q'.history.rejected = q.history.rejected ∧
      q'.history.taken = q.history.taken := by
  simp only [evict, removeAt, Option.map_map, Option.map_eq_some_iff] at h
  obtain ⟨removed, -, rfl⟩ := h
  exact ⟨rfl, rfl, rfl⟩

theorem Evicts.history (h : Evicts incoming q q') :
    q'.history.accepted = q.history.accepted ∧ q'.history.rejected = q.history.rejected ∧
      q'.history.taken = q.history.taken := by
  induction h with
  | refl q => exact ⟨rfl, rfl, rfl⟩
  | round full found evicted rest ih =>
    obtain ⟨haccepted, hrejected, htaken⟩ := evict_history evicted
    exact ⟨ih.1.trans haccepted, ih.2.1.trans hrejected, ih.2.2.trans htaken⟩

/-- A record that is offered is accepted or rejected. -/
theorem Adds.history {q : BoundedOperationalEventQueue} (h : Adds q incoming answer) :
    (answer.1.history.accepted ++ answer.1.history.rejected).Perm
      (q.history.accepted ++ q.history.rejected ++ [incoming]) ∧
    answer.1.history.taken = q.history.taken := by
  cases h with
  | tooLarge large => exact ⟨by simp [refuse], rfl⟩
  | loop small evicts ends =>
    obtain ⟨haccepted, hrejected, htaken⟩ := evicts.history
    cases ends with
    | added room =>
      refine ⟨?_, htaken⟩
      simp only [addLast, haccepted, hrejected, List.append_assoc]
      exact List.perm_append_comm.append_left _
    | refused full none =>
      refine ⟨?_, htaken⟩
      simp [refuse, recordDrop, haccepted, hrejected]

/-! ## Batches -/

/-- A batch is taken from the front, and its bytes are no longer counted. -/
theorem takeLoop_spec (maximum : Int) (batch records : List SerializedOperationalEvent)
    (bytes : Int) :
    ∃ taken rest, records = taken ++ rest ∧
      (taken = [] ∨ ((batch ++ taken).length : Int) ≤ maximum) ∧
      (rest = [] ∨ maximum ≤ (batch ++ taken).length) ∧
      takeLoop maximum batch bytes records = (batch ++ taken, rest, bytes - totalBytes taken) := by
  induction records generalizing batch bytes with
  | nil => exact ⟨[], [], rfl, .inl rfl, .inl rfl, by simp [takeLoop]⟩
  | cons record records ih =>
    by_cases hroom : (batch.length : Int) < maximum
    · obtain ⟨taken, rest, hsplit, hlength, hrest, htake⟩ :=
        ih (batch ++ [record]) (bytes - record.byteLength)
      refine ⟨record :: taken, rest, by rw [hsplit]; rfl, .inr ?_, ?_, ?_⟩
      · rcases hlength with rfl | hlength
        · simp
          omega
        · simpa using hlength
      · simpa using hrest
      · rw [takeLoop, if_pos hroom, htake]
        simp only [List.append_assoc, List.singleton_append, totalBytes_cons, Prod.mk.injEq,
          true_and]
        push_cast
        omega
    · refine ⟨[], record :: records, rfl, .inl rfl, .inr ?_, by simp [takeLoop, hroom]⟩
      simp
      omega

/-- The queue without a batch that was at its front. -/
def without (q : BoundedOperationalEventQueue) (batch rest : List SerializedOperationalEvent) :
    BoundedOperationalEventQueue :=
  { q with
    records := rest, bytes := q.bytes - totalBytes batch
    history := { q.history with taken := q.history.taken ++ batch } }

/-- What a batch takes, where the maximum is not refused. -/
theorem takeBatch_spec (q : BoundedOperationalEventQueue) (h : 1 ≤ maximum) :
    ∃ batch rest, q.records = batch ++ rest ∧ (batch.length : Int) ≤ maximum ∧
      (batch = [] → rest = []) ∧ q.takeBatch maximum = some (batch, q.without batch rest) := by
  obtain ⟨taken, rest, hrecords, hlength, hrest, htake⟩ := takeLoop_spec maximum [] q.records q.bytes
  refine ⟨taken, rest, hrecords, ?_, ?_, ?_⟩
  · rcases hlength with rfl | hlength
    · simp
      omega
    · exact hlength
  · rintro rfl
    rcases hrest with hrest | hrest
    · exact hrest
    · simp at hrest
      omega
  · rw [BoundedOperationalEventQueue.takeBatch, if_neg (by omega), htake]
    rfl

theorem Accounted.takeBatch (h : q.Accounted) {batch : List SerializedOperationalEvent}
    (hq : q.takeBatch maximum = some (batch, q')) : q'.Accounted := by
  by_cases hmaximum : maximum < 1
  · rw [BoundedOperationalEventQueue.takeBatch, if_pos hmaximum] at hq
    cases hq
  · obtain ⟨taken, rest, hrecords, -, -, htake⟩ := q.takeBatch_spec (by omega : 1 ≤ maximum)
    rw [htake] at hq
    cases hq
    have hbytes := h.bytes_eq
    have hle := h.bytes_le
    have hdepth := h.depth_le
    have haccepted := h.accepted_eq
    have hordered := h.ordered
    simp only [depth, hrecords, totalBytes_append, List.length_append] at hbytes hdepth haccepted
    refine { h with
      bytes_eq := ?_, bytes_le := ?_, depth_le := ?_, accepted_eq := ?_, ordered := ?_
      conserved := by simpa [without, hrecords] using h.conserved }
    · show q.bytes - totalBytes batch = totalBytes rest
      omega
    · show q.bytes - totalBytes batch ≤ q.maxBytes
      omega
    · show rest.length ≤ q.maxEvents
      omega
    · simp only [without, depth, List.length_append]
      omega
    · simpa [without, hrecords] using hordered

/-! ## Any calls -/

theorem evict_bounds (h : q.evict incoming index = some q') :
    q'.toQueueBounds = q.toQueueBounds := by
  simp only [evict, removeAt, Option.map_map, Option.map_eq_some_iff] at h
  obtain ⟨removed, -, rfl⟩ := h
  rfl

theorem Evicts.bounds (h : Evicts incoming q q') : q'.toQueueBounds = q.toQueueBounds := by
  induction h with
  | refl q => rfl
  | round full found evicted rest ih => rw [ih, evict_bounds evicted]

theorem Adds.bounds {q : BoundedOperationalEventQueue} (h : Adds q incoming answer) :
    answer.1.toQueueBounds = q.toQueueBounds := by
  cases h with
  | tooLarge large => rfl
  | loop small evicts ends =>
    rw [← evicts.bounds]
    cases ends with
    | added room => rfl
    | refused full none => rfl

theorem takeBatch_bounds {batch : List SerializedOperationalEvent}
    (h : q.takeBatch maximum = some (batch, q')) : q'.toQueueBounds = q.toQueueBounds := by
  unfold BoundedOperationalEventQueue.takeBatch at h
  split at h
  · cases h
  · cases h
    rfl

theorem after_accounted {q : BoundedOperationalEventQueue} (hq : q.Accounted) (call : Call) :
    ∃ q', q.after call = some q' ∧ q'.Accounted ∧ q'.toQueueBounds = q.toQueueBounds := by
  cases call with
  | tryAdd incoming =>
    obtain ⟨answer, hadds, hall⟩ := tryAdd_adds hq incoming
    exact ⟨answer.1, by simp [after, tryAdd, hall _ (Nat.lt_succ_self _)], hadds.accounted hq,
      hadds.bounds⟩
  | takeBatch maximum =>
    refine ⟨_, rfl, ?_⟩
    cases htake : q.takeBatch maximum with
    | none => exact ⟨hq, rfl⟩
    | some taken => exact ⟨hq.takeBatch htake, takeBatch_bounds htake⟩

theorem run_keeps {q : BoundedOperationalEventQueue} (hq : q.Accounted) (calls : List Call) :
    ∃ q', q.run calls = some q' ∧ q'.Accounted ∧ q'.toQueueBounds = q.toQueueBounds := by
  induction calls generalizing q with
  | nil => exact ⟨q, rfl, hq, rfl⟩
  | cons call calls ih =>
    obtain ⟨q1, hafter, haccounted, hbounds⟩ := after_accounted hq call
    obtain ⟨q', hrun, haccounted', hbounds'⟩ := ih haccounted
    refine ⟨q', ?_, haccounted', hbounds'.trans hbounds⟩
    rw [run, List.foldlM_cons, hafter]
    exact hrun

/-- **Accounts of the queue.** After any calls the counters agree with the records and with
what has become of them, the records stand in the order in which they were added, every
eviction was fair, and the loop of the next `tryAdd` ends. -/
theorem run_accounted (bounds : QueueBounds) (calls : List Call) :
    ∃ q, (new bounds).run calls = some q ∧ q.toQueueBounds = bounds ∧ q.Accounted ∧
      ∀ incoming, ∃ answer, ∀ rounds, q.depth < rounds →
        q.tryAddWithin rounds incoming = some answer := by
  obtain ⟨q, hrun, haccounted, hbounds⟩ := run_keeps (accounted_new bounds) calls
  refine ⟨q, hrun, hbounds, haccounted, fun incoming => ?_⟩
  obtain ⟨answer, -, hall⟩ := tryAdd_adds haccounted incoming
  exact ⟨answer, hall⟩

/-! ## Records that are refused -/

/-- The records that may not be evicted. -/
def kept (q : BoundedOperationalEventQueue) (incoming : SerializedOperationalEvent) :
    List SerializedOperationalEvent :=
  q.records.filter fun record => !evictable incoming record

/-- When a record that is refused leaves the others alone: it is larger than the queue, none
of the others may be evicted for it, or those that may not leave room for it. -/
def Spares (q : BoundedOperationalEventQueue) (incoming : SerializedOperationalEvent) : Prop :=
  q.maxBytes < incoming.byteLength ∨ (∀ r ∈ q.records, evictable incoming r = false) ∨
    ((q.kept incoming).length < q.maxEvents ∧
      totalBytes (q.kept incoming) + incoming.byteLength ≤ q.maxBytes)

/-- A round evicts what may be evicted. -/
theorem evict_kept (hfound : q.findEvictionIndex incoming = some index)
    (h : q.evict incoming index = some q') : q'.kept incoming = q.kept incoming := by
  obtain ⟨victim, hget, hevictable, -⟩ := findEvictionIndex_eq_some hfound
  obtain ⟨before, after, hrecords, rfl⟩ := exists_split hget
  rw [evict_eq hrecords] at h
  cases h
  simp [kept, recordDrop, hrecords, hevictable]

theorem Evicts.kept (h : Evicts incoming q q') : q'.kept incoming = q.kept incoming := by
  induction h with
  | refl q => rfl
  | round full found evicted rest ih => rw [ih, evict_kept found evicted]

/-- A list is no shorter in bytes than a part of it. -/
theorem totalBytes_le_of_sublist {records records' : List SerializedOperationalEvent}
    (h : records.Sublist records') : totalBytes records ≤ totalBytes records' := by
  induction h with
  | slnil => exact Nat.le_refl _
  | cons record _ ih => simpa using Nat.le_add_left_of_le ih
  | cons_cons record _ ih => simpa using ih

theorem isFull_eq_false {q : BoundedOperationalEventQueue} (hq : q.Accounted) :
    q.isFull incoming = false ↔
      q.depth < q.maxEvents ∧ totalBytes q.records + incoming.byteLength ≤ q.maxBytes := by
  have hbytes := hq.bytes_eq
  simp only [isFull, decide_eq_false_iff_not]
  omega

/-- **Refused records.** A record that is refused leaves the others and their counts alone if
and only if the queue spares them. -/
theorem tryAdd_refused_iff (bounds : QueueBounds) (calls : List Call)
    {q : BoundedOperationalEventQueue} (hrun : (new bounds).run calls = some q)
    {incoming : SerializedOperationalEvent} {answer : BoundedOperationalEventQueue × Bool}
    (hadd : q.tryAdd incoming = some answer) :
    (answer.2 = false → answer.1.records = q.records ∧
      answer.1.history.evicted = q.history.evicted ∧ answer.1.dropped = q.dropped + 1 ∧
      answer.1.droppedBySeverity = fun severity =>
        if severity = incoming.event.severity then q.droppedBySeverity severity + 1
        else q.droppedBySeverity severity) ↔ q.Spares incoming := by
  obtain ⟨_, hrun', hq, -⟩ := run_keeps (accounted_new bounds) calls
  rw [hrun] at hrun'
  cases hrun'
  obtain ⟨_, hadds, hall⟩ := tryAdd_adds hq incoming
  rw [tryAdd, hall _ (Nat.lt_succ_self _)] at hadd
  cases hadd
  cases hadds with
  | tooLarge large => exact ⟨fun _ => .inl large, fun _ _ => ⟨rfl, rfl, rfl, rfl⟩⟩
  | @loop q' _ small evicts ends =>
    have hq' := evicts.accounted hq
    have hkept := evicts.kept
    have hbounds := evicts.bounds
    cases ends with
    | added room =>
      refine ⟨fun _ => .inr (.inr ?_), fun _ h => by cases h⟩
      obtain ⟨hdepth, hbytes⟩ := (isFull_eq_false hq').mp room
      have hsub : (q.kept incoming).Sublist q'.records := by
        rw [← hkept]
        exact List.filter_sublist
      have hlength := hsub.length_le
      have htotal := totalBytes_le_of_sublist hsub
      rw [← hbounds]
      simp only [depth] at hdepth
      omega
    | refused full none =>
      have hnone := findEvictionIndex_eq_none.mp none
      have hall : q'.kept incoming = q'.records := by
        refine List.filter_eq_self.mpr fun r hr => ?_
        simp [hnone r hr]
      constructor
      · intro h
        have hrecords : q'.records = q.records := (h rfl).1
        rw [hrecords] at hnone
        exact .inr (.inl hnone)
      · intro h _
        have hsame : q' = q := by
          rcases h with large | hnone' | ⟨hlength, htotal⟩
          · exact absurd large (Nat.not_lt.mpr small)
          · cases evicts with
            | refl => rfl
            | round full found evicted rest =>
              rw [findEvictionIndex_eq_none.mpr hnone'] at found
              cases found
          · rw [← hbounds, ← hkept, hall] at *
            have := (isFull_eq_false hq').mpr ⟨hlength, htotal⟩
            rw [full] at this
            cases this
        rw [hsame]
        exact ⟨rfl, rfl, rfl, rfl⟩

/-! ### A record that is refused after an eviction -/

/-- A queue of four records and of a thousand bytes or so. -/
def smallBounds : QueueBounds := ⟨4, 1024, by decide, by decide⟩

def recordOf (severity : ObservabilitySeverity) (byteLength : Nat) : SerializedOperationalEvent :=
  ⟨.sample severity, [], byteLength⟩

/-- An error of many bytes after a small information. -/
def crowdedCalls : List Call := [.tryAdd (recordOf .info 100), .tryAdd (recordOf .error 900)]

/-- The information is evicted for a warning that is then refused. -/
theorem tryAdd_evicts_in_vain : ∃ q answer, (new smallBounds).run crowdedCalls = some q ∧
    q.tryAdd (recordOf .warn 200) = some answer ∧ answer.2 = false ∧
    answer.1.records ≠ q.records ∧ answer.1.dropped = q.dropped + 2 := by
  refine ⟨_, _, rfl, rfl, rfl, ?_, rfl⟩
  intro h
  have hlength := congrArg List.length h
  exact absurd hlength (by decide)

/-- Another information is refused in the same queue, and nothing is evicted for it. -/
theorem tryAdd_refused_iff_sample : ∃ q answer, (new smallBounds).run crowdedCalls = some q ∧
    q.tryAdd (recordOf .info 200) = some answer ∧ answer.2 = false ∧
    answer.1.records = q.records ∧ answer.1.history.evicted = q.history.evicted ∧
    answer.1.dropped = q.dropped + 1 ∧
    answer.1.droppedBySeverity = fun severity =>
      if severity = (recordOf .info 200).event.severity then q.droppedBySeverity severity + 1
      else q.droppedBySeverity severity :=
  ⟨_, _, rfl, rfl, rfl, (tryAdd_refused_iff smallBounds crowdedCalls rfl rfl).mpr
    (.inr (.inl (by decide))) rfl⟩

end Pokrov.Observability.BoundedOperationalEventQueue
