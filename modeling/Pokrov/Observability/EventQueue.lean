import Pokrov.Lib.Runs
import Pokrov.Observability.Event

/-!
# The bounded event queue

`BoundedOperationalEventQueue`: a queue with a limit on its records and one on their bytes.
A record that does not fit evicts records of a lower priority, the lowest and then the
oldest first, and where none may be evicted it is dropped itself.
-/

namespace Pokrov.Observability

open Dart

structure SerializedOperationalEvent where
  event : OperationalEvent
  json : Text
  byteLength : Nat

abbrev SerializedOperationalEvent.priority (record : SerializedOperationalEvent) : Nat :=
  record.event.priority

/-- What the constructor accepts. A `maxBytes` from 2^62 on, with records to match, is left out:
below it no sum of sizes wraps around in 64 bits. -/
structure QueueBounds where
  maxEvents : Nat
  maxBytes : Nat
  maxEvents_pos : 1 ≤ maxEvents
  maxBytes_ge : 1024 ≤ maxBytes

/-- One eviction, with the queue that it was made from. No code reads it. -/
structure Eviction where
  victim : SerializedOperationalEvent
  incoming : SerializedOperationalEvent
  retained : List SerializedOperationalEvent

/-- What has become of the records. No code reads it. -/
structure QueueHistory where
  accepted : List SerializedOperationalEvent
  taken : List SerializedOperationalEvent
  evicted : List Eviction
  rejected : List SerializedOperationalEvent

structure BoundedOperationalEventQueue extends QueueBounds where
  records : List SerializedOperationalEvent
  bytes : Int
  accepted : Nat
  dropped : Nat
  droppedBySeverity : ObservabilitySeverity → Nat
  history : QueueHistory

namespace BoundedOperationalEventQueue

def new (bounds : QueueBounds) : BoundedOperationalEventQueue where
  toQueueBounds := bounds
  records := []
  bytes := 0
  accepted := 0
  dropped := 0
  droppedBySeverity := fun _ => 0
  history := ⟨[], [], [], []⟩

def depth (q : BoundedOperationalEventQueue) : Nat := q.records.length

/-! ## Evictions -/

/-- The locals of the loop of `_findEvictionIndex`. There is no candidate where the code
has -1. -/
structure Search where
  lowestPriority : Nat
  candidate : Option Nat
  index : Nat

def Search.next (s : Search) (record : SerializedOperationalEvent) : Search :=
  if record.priority < s.lowestPriority then ⟨record.priority, some s.index, s.index + 1⟩
  else { s with index := s.index + 1 }

/-- `_findEvictionIndex`, with nothing for -1. -/
def findEvictionIndex (q : BoundedOperationalEventQueue) (incoming : SerializedOperationalEvent) :
    Option Nat :=
  let found := q.records.foldl Search.next ⟨2 ^ 30, none, 0⟩
  if found.candidate = none ∨ incoming.priority < found.lowestPriority then none
  else if found.lowestPriority = incoming.priority ∧ incoming.priority < 4 then none
  else found.candidate

/-- The locals of the loop of `_removeAt`. -/
structure Removal where
  removed : Option SerializedOperationalEvent
  retained : List SerializedOperationalEvent
  bytes : Int
  index : Nat

def Removal.next (target : Nat) (s : Removal) (record : SerializedOperationalEvent) : Removal :=
  if s.index = target then ⟨some record, s.retained, s.bytes - record.byteLength, s.index + 1⟩
  else { s with retained := s.retained ++ [record], index := s.index + 1 }

/-- `_removeAt`. Nothing is found where the null check throws. -/
def removeAt (q : BoundedOperationalEventQueue) (target : Nat) :
    Option (SerializedOperationalEvent × BoundedOperationalEventQueue) :=
  let s := q.records.foldl (Removal.next target) ⟨none, [], q.bytes, 0⟩
  s.removed.map fun removed => (removed, { q with records := s.retained, bytes := s.bytes })

/-- `_recordDrop`. -/
def recordDrop (q : BoundedOperationalEventQueue) (record : SerializedOperationalEvent) :
    BoundedOperationalEventQueue :=
  { q with
    dropped := q.dropped + 1
    droppedBySeverity := fun severity =>
      if severity = record.event.severity then q.droppedBySeverity severity + 1
      else q.droppedBySeverity severity }

/-- A record is dropped without being added. -/
def refuse (q : BoundedOperationalEventQueue) (incoming : SerializedOperationalEvent) :
    BoundedOperationalEventQueue :=
  { q.recordDrop incoming with
    history := { q.history with rejected := q.history.rejected ++ [incoming] } }

/-- One round of the loop of `tryAdd`. -/
def evict (q : BoundedOperationalEventQueue) (incoming : SerializedOperationalEvent)
    (index : Nat) : Option BoundedOperationalEventQueue :=
  (q.removeAt index).map fun (removed, rest) =>
    { rest.recordDrop removed with
      history := { q.history with evicted := q.history.evicted ++ [⟨removed, incoming, q.records⟩] } }

/-- The record is added at the end. -/
def addLast (q : BoundedOperationalEventQueue) (incoming : SerializedOperationalEvent) :
    BoundedOperationalEventQueue :=
  { q with
    records := q.records ++ [incoming]
    bytes := q.bytes + incoming.byteLength
    accepted := q.accepted + 1
    history := { q.history with accepted := q.history.accepted ++ [incoming] } }

/-- The condition of the loop of `tryAdd`. -/
def isFull (q : BoundedOperationalEventQueue) (incoming : SerializedOperationalEvent) : Bool :=
  decide (q.maxEvents ≤ q.depth ∨ (q.maxBytes : Int) < q.bytes + incoming.byteLength)

/-- The loop of `tryAdd`, in at most so many rounds. There is no answer when they do not
suffice. -/
def makeRoom (incoming : SerializedOperationalEvent) :
    Nat → BoundedOperationalEventQueue → Option (BoundedOperationalEventQueue × Bool)
  | 0, _ => none
  | rounds + 1, q =>
    if q.isFull incoming then
      match q.findEvictionIndex incoming with
      | none => some (q.refuse incoming, false)
      | some index => (q.evict incoming index).bind fun q => makeRoom incoming rounds q
    else some (q.addLast incoming, true)

/-- `tryAdd`, with a bound on the rounds of its loop. -/
def tryAddWithin (rounds : Nat) (q : BoundedOperationalEventQueue)
    (incoming : SerializedOperationalEvent) : Option (BoundedOperationalEventQueue × Bool) :=
  if q.maxBytes < incoming.byteLength then some (q.refuse incoming, false)
  else makeRoom incoming rounds q

def tryAdd (q : BoundedOperationalEventQueue) (incoming : SerializedOperationalEvent) :
    Option (BoundedOperationalEventQueue × Bool) :=
  q.tryAddWithin (q.depth + 1) incoming

/-! ## Batches -/

/-- The loop of `takeBatch`, with what it has taken. -/
def takeLoop (maximum : Int) (batch : List SerializedOperationalEvent) (bytes : Int) :
    List SerializedOperationalEvent →
      List SerializedOperationalEvent × List SerializedOperationalEvent × Int
  | [] => (batch, [], bytes)
  | record :: rest =>
    if batch.length < maximum then
      takeLoop maximum (batch ++ [record]) (bytes - record.byteLength) rest
    else (batch, record :: rest, bytes)

/-- `takeBatch`. It throws where there is nothing. -/
def takeBatch (q : BoundedOperationalEventQueue) (maximum : Int) :
    Option (List SerializedOperationalEvent × BoundedOperationalEventQueue) :=
  if maximum < 1 then none
  else
    let (batch, records, bytes) := takeLoop maximum [] q.bytes q.records
    some (batch, { q with
      records := records, bytes := bytes
      history := { q.history with taken := q.history.taken ++ batch } })

/-! ## Calls -/

inductive Call
  | tryAdd (incoming : SerializedOperationalEvent)
  | takeBatch (maximum : Int)

/-- A call. One that throws leaves the queue as it is. -/
def after (q : BoundedOperationalEventQueue) : Call → Option BoundedOperationalEventQueue
  | .tryAdd incoming => (q.tryAdd incoming).map Prod.fst
  | .takeBatch maximum => some (((q.takeBatch maximum).map Prod.snd).getD q)

/-- The queue after some calls, if each of them comes back. -/
def run (q : BoundedOperationalEventQueue) (calls : List Call) :
    Option BoundedOperationalEventQueue := calls.foldlM after q

/-! ## What a search finds -/

/-- What a search has found among the records before. -/
def Search.Found (before : List SerializedOperationalEvent) (s : Search) : Prop :=
  s.index = before.length ∧
    (s.candidate = none → before = [] ∧ s.lowestPriority = 2 ^ 30) ∧
    ∀ i, s.candidate = some i → ∃ record, before[i]? = some record ∧
      s.lowestPriority = record.priority ∧ ∀ r ∈ before, record.priority ≤ r.priority

theorem Search.Found.next {before : List SerializedOperationalEvent} {s : Search}
    (h : s.Found before) (record : SerializedOperationalEvent) :
    (s.next record).Found (before ++ [record]) := by
  obtain ⟨hindex, hnone, hsome⟩ := h
  have hpriority := record.event.priority_le
  unfold Search.next
  by_cases hlower : record.priority < s.lowestPriority
  · rw [if_pos hlower]
    refine ⟨by simp [hindex], by simp, ?_⟩
    rintro i ⟨⟩
    refine ⟨record, by simp [hindex], rfl, ?_⟩
    intro r hr
    rcases List.mem_append.mp hr with hbefore | hlast
    · -- the record before the first one below it is no lower than the last candidate
      cases hcandidate : s.candidate with
      | none =>
        rw [(hnone hcandidate).1] at hbefore
        cases hbefore
      | some i =>
        obtain ⟨candidate, -, hlowest, hall⟩ := hsome i hcandidate
        have := hall r hbefore
        omega
    · rw [List.mem_singleton.mp hlast]
  · rw [if_neg hlower]
    have hcandidate : s.candidate ≠ none := by
      intro hcandidate
      have := (hnone hcandidate).2
      have : record.priority ≤ 5 := hpriority
      omega
    refine ⟨by simp [hindex], fun h => absurd h hcandidate, ?_⟩
    intro i hi
    obtain ⟨candidate, hget, hlowest, hall⟩ := hsome i hi
    refine ⟨candidate, ?_, hlowest, ?_⟩
    · rw [List.getElem?_append_left (List.getElem?_eq_some_iff.mp hget).1]
      exact hget
    · intro r hr
      rcases List.mem_append.mp hr with hbefore | hlast
      · exact hall r hbefore
      · rw [List.mem_singleton.mp hlast]
        omega

theorem Search.Found.foldl {before : List SerializedOperationalEvent} {s : Search}
    (h : s.Found before) (records : List SerializedOperationalEvent) :
    (records.foldl Search.next s).Found (before ++ records) := by
  induction records generalizing before s with
  | nil => simpa using h
  | cons record records ih => simpa using ih (h.next record)

theorem found_records (records : List SerializedOperationalEvent) :
    (records.foldl Search.next ⟨2 ^ 30, none, 0⟩).Found records := by
  have hstart : Search.Found [] ⟨2 ^ 30, none, 0⟩ := ⟨rfl, fun _ => ⟨rfl, rfl⟩, by simp⟩
  simpa using hstart.foldl records

/-- Whether a record may make room for another. -/
def evictable (incoming record : SerializedOperationalEvent) : Bool :=
  decide (record.priority < incoming.priority ∨
    (record.priority = incoming.priority ∧ 4 ≤ incoming.priority))

variable {q : BoundedOperationalEventQueue} {incoming : SerializedOperationalEvent} {index : Nat}

/-- Evicting goes on while some record may be evicted. -/
theorem findEvictionIndex_eq_none :
    q.findEvictionIndex incoming = none ↔ ∀ r ∈ q.records, evictable incoming r = false := by
  obtain ⟨-, hnone, hsome⟩ := found_records q.records
  unfold findEvictionIndex
  cases hcandidate : (q.records.foldl Search.next ⟨2 ^ 30, none, 0⟩).candidate with
  | none => simp [(hnone hcandidate).1]
  | some i =>
    obtain ⟨record, hget, hlowest, hall⟩ := hsome i hcandidate
    have hmem := List.mem_of_getElem? hget
    simp only [hcandidate, hlowest, reduceCtorEq, false_or, evictable, decide_eq_false_iff_not]
    constructor
    · intro h r hr
      have := hall r hr
      split_ifs at h <;> omega
    · intro h
      have := h record hmem
      split_ifs <;> first | rfl | omega

/-- The victim: of the lowest priority, and one that may be evicted. -/
theorem findEvictionIndex_eq_some (h : q.findEvictionIndex incoming = some index) :
    ∃ victim, q.records[index]? = some victim ∧ evictable incoming victim = true ∧
      ∀ r ∈ q.records, victim.priority ≤ r.priority := by
  obtain ⟨-, -, hsome⟩ := found_records q.records
  simp only [findEvictionIndex] at h
  split_ifs at h with hnone hequal
  obtain ⟨victim, hget, hlowest, hall⟩ := hsome index h
  refine ⟨victim, hget, ?_, hall⟩
  simp only [evictable, decide_eq_true_eq]
  rw [hlowest] at hnone hequal
  omega

/-! ## What a removal leaves -/

theorem Removal.foldl_apart (target : Nat) (s : Removal) (records : List SerializedOperationalEvent)
    (h : s.index + records.length ≤ target ∨ target < s.index) :
    records.foldl (Removal.next target) s =
      { s with retained := s.retained ++ records, index := s.index + records.length } := by
  induction records generalizing s with
  | nil => simp
  | cons record records ih =>
    have hne : s.index ≠ target := by
      rcases h with h | h
      · simp at h
        omega
      · omega
    rw [List.foldl_cons, Removal.next, if_neg hne, ih]
    · simp [Nat.add_assoc, Nat.add_comm 1]
    · simp at h ⊢
      omega

/-- The queue is rebuilt around the record that is removed. -/
theorem removeAt_eq {before after : List SerializedOperationalEvent}
    {victim : SerializedOperationalEvent} (h : q.records = before ++ victim :: after) :
    q.removeAt before.length = some (victim,
      { q with records := before ++ after, bytes := q.bytes - victim.byteLength }) := by
  have hbefore := Removal.foldl_apart before.length ⟨none, [], q.bytes, 0⟩ before (by simp)
  have hafter := Removal.foldl_apart before.length
    ⟨some victim, before, q.bytes - victim.byteLength, before.length + 1⟩ after (by simp)
  simp only [removeAt, h, List.foldl_append, hbefore, List.foldl_cons, Removal.next, Nat.zero_add,
    List.nil_append, if_true, hafter, Option.map_some]

/-- One round: the victim leaves, and what has become of it is written down. -/
theorem evict_eq {incoming victim : SerializedOperationalEvent}
    {before after : List SerializedOperationalEvent} (h : q.records = before ++ victim :: after) :
    q.evict incoming before.length = some
      { ({ q with records := before ++ after, bytes := q.bytes - victim.byteLength } :
          BoundedOperationalEventQueue).recordDrop victim with
        history := { q.history with
          evicted := q.history.evicted ++ [⟨victim, incoming, before ++ victim :: after⟩] } } := by
  simp only [evict, removeAt_eq h, h, Option.map_some]

/-! ## The accounts -/

/-- The bytes of some records. -/
def totalBytes (records : List SerializedOperationalEvent) : Nat :=
  (records.map (·.byteLength)).sum

@[simp] theorem totalBytes_nil : totalBytes [] = 0 := rfl

@[simp] theorem totalBytes_cons {record : SerializedOperationalEvent}
    {records : List SerializedOperationalEvent} :
    totalBytes (record :: records) = record.byteLength + totalBytes records := by
  simp [totalBytes]

@[simp] theorem totalBytes_append {records records' : List SerializedOperationalEvent} :
    totalBytes (records ++ records') = totalBytes records + totalBytes records' := by
  simp [totalBytes]

/-- `ObservabilitySeverity.values`. -/
def severities : List ObservabilitySeverity := [.trace, .debug, .info, .warn, .error, .fatal]

/-- The sum of `droppedBySeverity`. -/
def droppedInAll (q : BoundedOperationalEventQueue) : Nat :=
  (severities.map q.droppedBySeverity).sum

theorem droppedInAll_recordDrop (q : BoundedOperationalEventQueue)
    (record : SerializedOperationalEvent) :
    (q.recordDrop record).droppedInAll = q.droppedInAll + 1 := by
  cases h : record.event.severity <;> simp [droppedInAll, severities, recordDrop, h] <;> omega

/-- A victim is of the lowest priority in the queue, and below what it makes room for or as
high as that where that is an error or higher. -/
structure Fair (e : Eviction) : Prop where
  victim_le : e.victim.priority ≤ e.incoming.priority
  equal : e.victim.priority = e.incoming.priority →
    e.incoming.priority = 4 ∨ e.incoming.priority = 5
  lowest : ∀ r ∈ e.retained, e.victim.priority ≤ r.priority

/-- What holds of the queue between two calls. -/
structure Accounted (q : BoundedOperationalEventQueue) : Prop where
  bytes_eq : q.bytes = totalBytes q.records
  bytes_le : q.bytes ≤ q.maxBytes
  depth_le : q.depth ≤ q.maxEvents
  accepted_eq : q.accepted = q.depth + q.history.taken.length + q.history.evicted.length
  dropped_eq : q.dropped = q.history.evicted.length + q.history.rejected.length
  droppedInAll_eq : q.dropped = q.droppedInAll
  ordered : (q.history.taken ++ q.records).Sublist q.history.accepted
  conserved : q.history.accepted.Perm
    (q.history.taken ++ q.records ++ q.history.evicted.map (·.victim))
  accepted_length : q.history.accepted.length = q.accepted
  fair : ∀ e ∈ q.history.evicted, Fair e

theorem accounted_new (bounds : QueueBounds) : (new bounds).Accounted := by
  constructor <;> simp [new, depth, droppedInAll, severities]

theorem Accounted.refuse (h : q.Accounted) (incoming : SerializedOperationalEvent) :
    (q.refuse incoming).Accounted := by
  have hdropped := h.dropped_eq
  have hall := h.droppedInAll_eq
  have hadd := droppedInAll_recordDrop q incoming
  refine { h with dropped_eq := ?_, droppedInAll_eq := ?_ }
  · simp only [BoundedOperationalEventQueue.refuse, recordDrop, List.length_append,
      List.length_singleton]
    omega
  · show q.dropped + 1 = (q.recordDrop incoming).droppedInAll
    omega

theorem Accounted.addLast (h : q.Accounted) (hroom : q.isFull incoming = false) :
    (q.addLast incoming).Accounted := by
  have hbytes := h.bytes_eq
  have haccepted := h.accepted_eq
  have hlength := h.accepted_length
  simp only [isFull, decide_eq_false_iff_not, not_or, not_le, not_lt] at hroom
  refine { h with
    bytes_eq := ?_, bytes_le := hroom.2, depth_le := ?_, accepted_eq := ?_, ordered := ?_
    conserved := ?_, accepted_length := ?_ }
  · simp [BoundedOperationalEventQueue.addLast, hbytes]
  · simp only [BoundedOperationalEventQueue.addLast, depth, List.length_append,
      List.length_singleton]
    exact hroom.1
  · simp only [BoundedOperationalEventQueue.addLast, depth, List.length_append,
      List.length_singleton] at haccepted ⊢
    omega
  · simpa [BoundedOperationalEventQueue.addLast] using
      h.ordered.append (List.Sublist.refl [incoming])
  · refine (h.conserved.append_right [incoming]).trans ?_
    simp only [BoundedOperationalEventQueue.addLast, List.append_assoc]
    exact (List.perm_append_comm.append_left _).append_left _
  · simp [BoundedOperationalEventQueue.addLast, hlength]

theorem exists_split {records : List SerializedOperationalEvent}
    {victim : SerializedOperationalEvent} (h : records[index]? = some victim) :
    ∃ before after, records = before ++ victim :: after ∧ before.length = index := by
  obtain ⟨hlt, hget⟩ := List.getElem?_eq_some_iff.mp h
  refine ⟨records.take index, records.drop (index + 1), ?_, ?_⟩
  · rw [← hget, List.getElem_cons_drop, List.take_append_drop]
  · exact List.length_take_of_le (Nat.le_of_lt hlt)

theorem fair_of_evictable {incoming victim : SerializedOperationalEvent}
    {retained : List SerializedOperationalEvent} (h : evictable incoming victim = true)
    (hlowest : ∀ r ∈ retained, victim.priority ≤ r.priority) : Fair ⟨victim, incoming, retained⟩ := by
  have hpriority : incoming.priority ≤ 5 := incoming.event.priority_le
  simp only [evictable, decide_eq_true_eq] at h
  constructor
  · show victim.priority ≤ incoming.priority
    omega
  · intro heq
    have heq : victim.priority = incoming.priority := heq
    show incoming.priority = 4 ∨ incoming.priority = 5
    omega
  · exact hlowest

theorem Accounted.evict {q q' : BoundedOperationalEventQueue} (h : q.Accounted)
    (hindex : q.findEvictionIndex incoming = some index) (hq : q.evict incoming index = some q') :
    q'.Accounted ∧ q'.depth + 1 = q.depth := by
  obtain ⟨victim, hget, hevictable, hlowest⟩ := findEvictionIndex_eq_some hindex
  obtain ⟨before, after, hrecords, rfl⟩ := exists_split hget
  rw [evict_eq hrecords] at hq
  cases hq
  have hbytes := h.bytes_eq
  have hle := h.bytes_le
  have hdepth := h.depth_le
  have haccepted := h.accepted_eq
  have hdropped := h.dropped_eq
  have hall := h.droppedInAll_eq
  have hadd := droppedInAll_recordDrop q victim
  have hordered := h.ordered
  have hconserved := h.conserved
  simp only [depth, hrecords, totalBytes_append, totalBytes_cons, List.length_append,
    List.length_cons] at hbytes hdepth haccepted hordered hconserved
  refine ⟨{ h with
    bytes_eq := ?_, bytes_le := ?_, depth_le := ?_, accepted_eq := ?_, dropped_eq := ?_
    droppedInAll_eq := ?_, ordered := ?_, conserved := ?_, fair := ?_ }, ?_⟩
  · simp only [recordDrop, hbytes, totalBytes_append]
    push_cast
    omega
  · simp only [recordDrop]
    omega
  · simp only [recordDrop, depth, List.length_append]
    omega
  · simp only [recordDrop, depth, List.length_append, List.length_singleton]
    omega
  · simp only [recordDrop, List.length_append, List.length_singleton]
    omega
  · show q.dropped + 1 = (q.recordDrop victim).droppedInAll
    omega
  · refine List.Sublist.trans ?_ hordered
    exact List.Sublist.append_left (List.Sublist.append_left (List.sublist_cons_self _ _) _) _
  · -- the victim moves from the middle of the records to the end of the evicted
    refine hconserved.trans ?_
    simp only [recordDrop, List.map_append, List.map_cons, List.map_nil, List.append_assoc]
    refine ((List.Perm.append_left before ?_).append_left _)
    simpa using (List.perm_append_singleton victim (after ++ q.history.evicted.map (·.victim))).symm
  · intro e he
    rcases List.mem_append.mp he with hold | hnew
    · exact h.fair e hold
    · rw [List.mem_singleton.mp hnew]
      rw [hrecords] at hlowest
      exact fair_of_evictable hevictable hlowest
  · simp only [recordDrop, depth, hrecords, List.length_append, List.length_cons]
    omega

end BoundedOperationalEventQueue

end Pokrov.Observability
