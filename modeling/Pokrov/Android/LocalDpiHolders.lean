import Mathlib.Data.List.Basic
import Mathlib.Data.List.Induction

/-!
# Holders of local connections

`AndroidLocalDpiHolders` asks Core to admit the identity that it has captured for a
service, and withdraws it. What a method does while it has the lock is one block, and the
proof of `publish` runs between two blocks. What is asked of outside may be answered in any
way and may throw; `none` is a throw.
-/

namespace Pokrov.Android.LocalDpi

/-- What is asked of outside, and the answer. A call of `admit` is an `admission`. -/
inductive Call
  | current (answer : Option Bool)
  | read (service tag : String) (answer : Option String)
  | proof (service : String) (answer : Option Bool)
  | admission (service id : String) (answer : Option Bool)
  | withdraw (id : String) (answer : Option Unit)
deriving DecidableEq

/-- The fields under the lock. The map of the holders keeps the order of its keys. -/
structure AndroidLocalDpiHolders where
  holders : List (String × String)
  withdrawnServices : List String
  closed : Bool
  anyAdmitted : Bool

/-- A block has returned or thrown, and has made some calls. -/
structure Done where
  object : AndroidLocalDpiHolders
  result : Option Bool
  calls : List Call

/-- `holders[service] = id`. -/
def put (service id : String) : List (String × String) → List (String × String)
  | [] => [(service, id)]
  | (key, value) :: rest =>
    if key = service then (key, id) :: rest else (key, value) :: put service id rest

namespace AndroidLocalDpiHolders

variable (h : AndroidLocalDpiHolders)

/-- The loop of `capture`. It returns true where it comes to its end. -/
def readAll (h : AndroidLocalDpiHolders) : List (String × String) → List (Option String) → Done
  | [], _ => ⟨h, some true, []⟩
  | (service, tag) :: tags, answers =>
    match answers.headD none with
    | none => ⟨h, none, [.read service tag none]⟩
    | some id =>
      if id = "" then ⟨h, some false, [.read service tag (some id)]⟩
      else
        let done := readAll { h with holders := put service id h.holders } tags answers.tail
        { done with calls := .read service tag (some id) :: done.calls }

/-- `capture`. -/
def capture (tags : List (String × String)) (first : Option Bool) (reads : List (Option String))
    (last : Option Bool) : Done :=
  if h.closed then ⟨h, some false, []⟩
  else
    match first with
    | none => ⟨h, none, [.current none]⟩
    | some false => ⟨h, some false, [.current (some false)]⟩
    | some true =>
      let done := h.readAll tags reads
      match done.result with
      | some true =>
        { done with result := last, calls := .current (some true) :: done.calls ++ [.current last] }
      | _ => { done with calls := .current (some true) :: done.calls }

/-- The first block of `publish`. The identity is what it goes on with. -/
def beginPublish (service : String) (current : Option Bool) : Done × Option String :=
  if h.closed then (⟨h, some false, []⟩, none)
  else
    match current with
    | none => (⟨h, none, [.current none]⟩, none)
    | some false => (⟨h, some false, [.current (some false)]⟩, none)
    | some true =>
      if service ∈ h.withdrawnServices then (⟨h, some false, [.current (some true)]⟩, none)
      else
        match h.holders.lookup service with
        | none => (⟨h, some false, [.current (some true)]⟩, none)
        | some id => (⟨h, some true, [.current (some true)]⟩, some id)

/-- The answers to the second block of `publish`. -/
structure Answers where
  before : Option Bool
  admitted : Option Bool
  after : Option Bool
  withdrawn : Option Unit

/-- The second block of `publish`. -/
def admitHolder (service id : String) (answers : Answers) : Done :=
  if h.closed then ⟨h, some false, []⟩
  else
    match answers.before with
    | none => ⟨h, none, [.current none]⟩
    | some false => ⟨h, some false, [.current (some false)]⟩
    | some true =>
      if service ∈ h.withdrawnServices then ⟨h, some false, [.current (some true)]⟩
      else
        match answers.admitted with
        | none => ⟨h, none, [.current (some true), .admission service id none]⟩
        | some accepted =>
          let calls := [.current (some true), .admission service id (some accepted)]
          match answers.after with
          | none => ⟨h, none, calls ++ [.current none]⟩
          | some false =>
            ⟨h, answers.withdrawn.map fun _ => false,
              calls ++ [.current (some false), .withdraw id answers.withdrawn]⟩
          | some true =>
            ⟨{ h with anyAdmitted := h.anyAdmitted || accepted }, some accepted,
              calls ++ [.current (some true)]⟩

/-- What `publish` does after its first block. -/
def finishPublish (service id : String) (proof : Option Bool) (answers : Answers) : Done :=
  match proof with
  | none => ⟨h, none, [.proof service none]⟩
  | some false => ⟨h, some false, [.proof service (some false)]⟩
  | some true =>
    let done := h.admitHolder service id answers
    { done with calls := .proof service (some true) :: done.calls }

/-- `withdrawService`. A throw of `withdraw` goes no further. -/
def withdrawService (service : String) (answer : Option Unit) : Done :=
  let object := { h with withdrawnServices := service :: h.withdrawnServices }
  match h.holders.lookup service with
  | none => ⟨object, some true, []⟩
  | some id => ⟨object, some true, [.withdraw id answer]⟩

/-- `close`. -/
def close (answers : Nat → Option Unit) : Done :=
  if h.closed then ⟨h, some true, []⟩
  else
    ⟨{ h with closed := true }, some true,
      h.holders.mapIdx fun i holder => .withdraw holder.2 (answers i)⟩

end AndroidLocalDpiHolders

/-! ## Interleavings -/

/-- A block of some thread, with the answers that it gets. The second block of a `publish`
names the first one, by the number of those before. -/
inductive Block
  | capture (tags : List (String × String)) (first : Option Bool) (reads : List (Option String))
      (last : Option Bool)
  | beginPublish (service : String) (current : Option Bool)
  | finishPublish (attempt : Nat) (proof : Option Bool) (answers : AndroidLocalDpiHolders.Answers)
  | withdrawService (service : String) (answer : Option Unit)
  | close (answers : Nat → Option Unit)

/-- The object, the calls of `publish` that have ended their first block, and what was
called so far. An attempt that has ended is `none`. -/
structure World where
  object : AndroidLocalDpiHolders
  attempts : List (Option (String × String))
  log : List Call

namespace World

def initial : World := ⟨⟨[], [], false, false⟩, [], []⟩

/-- The service and the identity of an attempt that has not ended. -/
def pending (w : World) (attempt : Nat) : Option (String × String) := (w.attempts[attempt]?).join

/-- What a block does. The second block of an attempt that is not pending does not occur. -/
def perform (w : World) : Block → Done
  | .capture tags first reads last => w.object.capture tags first reads last
  | .beginPublish service current => (w.object.beginPublish service current).1
  | .finishPublish attempt proof answers =>
    match w.pending attempt with
    | none => ⟨w.object, none, []⟩
    | some (service, id) => w.object.finishPublish service id proof answers
  | .withdrawService service answer => w.object.withdrawService service answer
  | .close answers => w.object.close answers

/-- The attempts after a block. -/
def attemptsAfter (w : World) : Block → List (Option (String × String))
  | .beginPublish service current =>
    w.attempts ++ [(w.object.beginPublish service current).2.map fun id => (service, id)]
  | .finishPublish attempt _ _ => w.attempts.set attempt none
  | _ => w.attempts

def after (w : World) (block : Block) : World :=
  let done := w.perform block
  ⟨done.object, w.attemptsAfter block, w.log ++ done.calls⟩

def run (blocks : List Block) : World := blocks.foldl after initial

end World

/-! ## What one block does -/

section Blocks

variable {h : AndroidLocalDpiHolders} {w : World}

theorem readAll_kept (h : AndroidLocalDpiHolders) (tags : List (String × String))
    (answers : List (Option String)) :
    (h.readAll tags answers).object.closed = h.closed ∧
      (h.readAll tags answers).object.withdrawnServices = h.withdrawnServices := by
  induction tags generalizing h answers with
  | nil => exact ⟨rfl, rfl⟩
  | cons first tags ih =>
    obtain ⟨service, tag⟩ := first
    unfold AndroidLocalDpiHolders.readAll
    split
    · exact ⟨rfl, rfl⟩
    · next id hid =>
      split
      · exact ⟨rfl, rfl⟩
      · exact ih { h with holders := put service id h.holders } answers.tail

theorem capture_kept (tags : List (String × String)) (first : Option Bool)
    (reads : List (Option String)) (last : Option Bool) :
    (h.capture tags first reads last).object.closed = h.closed ∧
      (h.capture tags first reads last).object.withdrawnServices = h.withdrawnServices := by
  have hread := readAll_kept h tags reads
  unfold AndroidLocalDpiHolders.capture
  split
  · exact ⟨rfl, rfl⟩
  · split
    · exact ⟨rfl, rfl⟩
    · exact ⟨rfl, rfl⟩
    · dsimp only
      split
      · exact hread
      · exact hread

theorem beginPublish_object (service : String) (current : Option Bool) :
    (h.beginPublish service current).1.object = h := by
  unfold AndroidLocalDpiHolders.beginPublish
  split
  · rfl
  · split
    · rfl
    · rfl
    · split
      · rfl
      · split <;> rfl

theorem admitHolder_kept (service id : String) (answers : AndroidLocalDpiHolders.Answers) :
    (h.admitHolder service id answers).object.closed = h.closed ∧
      (h.admitHolder service id answers).object.withdrawnServices = h.withdrawnServices ∧
      (h.admitHolder service id answers).object.holders = h.holders := by
  unfold AndroidLocalDpiHolders.admitHolder
  split
  · exact ⟨rfl, rfl, rfl⟩
  · split
    · exact ⟨rfl, rfl, rfl⟩
    · exact ⟨rfl, rfl, rfl⟩
    · split
      · exact ⟨rfl, rfl, rfl⟩
      · split
        · exact ⟨rfl, rfl, rfl⟩
        · dsimp only
          split <;> exact ⟨rfl, rfl, rfl⟩

theorem finishPublish_kept (service id : String) (proof : Option Bool)
    (answers : AndroidLocalDpiHolders.Answers) :
    (h.finishPublish service id proof answers).object.closed = h.closed ∧
      (h.finishPublish service id proof answers).object.withdrawnServices = h.withdrawnServices ∧
      (h.finishPublish service id proof answers).object.holders = h.holders := by
  unfold AndroidLocalDpiHolders.finishPublish
  split
  · exact ⟨rfl, rfl, rfl⟩
  · exact ⟨rfl, rfl, rfl⟩
  · exact admitHolder_kept service id answers

variable {answers : AndroidLocalDpiHolders.Answers} {service id : String} {holder : String × String}

/-- The second block calls `admit` only for a service that may still be admitted. -/
theorem mem_admitHolder {service id s i : String} {answer : Option Bool}
    (hmem : .admission s i answer ∈ (h.admitHolder service id answers).calls) :
    s = service ∧ i = id ∧ answers.admitted = answer ∧ h.closed = false ∧
      service ∉ h.withdrawnServices := by
  unfold AndroidLocalDpiHolders.admitHolder at hmem
  split at hmem
  · simp at hmem
  · next hopen =>
    split at hmem
    · simp at hmem
    · simp at hmem
    · split at hmem
      · simp at hmem
      · next hkept =>
        split at hmem
        · next hnone => simp_all
        · next accepted hsome =>
          dsimp only at hmem
          split at hmem
          · simp_all
          · simp_all
          · simp_all

/-- What the second block says true to. -/
theorem admitHolder_true (hresult : (h.admitHolder service id answers).result = some true) :
    h.closed = false ∧ service ∉ h.withdrawnServices ∧ answers.before = some true ∧
      answers.admitted = some true ∧ answers.after = some true := by
  unfold AndroidLocalDpiHolders.admitHolder at hresult
  split at hresult
  · simp at hresult
  · next hopen =>
    split at hresult
    · simp at hresult
    · simp at hresult
    · split at hresult
      · simp at hresult
      · next hkept =>
        split at hresult
        · simp at hresult
        · next accepted hsome =>
          dsimp only at hresult
          split at hresult
          · simp at hresult
          · simp at hresult
          · simp_all

/-- What the second block calls after `admit`. Where `current` has turned false, it
withdraws the identity at once. -/
theorem admitHolder_next {service id s i : String} {answer : Option Bool} {front rest : List Call}
    (hcalls : (h.admitHolder service id answers).calls = front ++ .admission s i answer :: rest) :
    answer = none ∧ rest = [] ∨ rest = [.current none] ∨ rest = [.current (some true)] ∨
      rest = [.current (some false), .withdraw i answers.withdrawn] := by
  have hmem : .admission s i answer ∈ (h.admitHolder service id answers).calls := by simp [hcalls]
  obtain ⟨-, rfl, hanswer, -, -⟩ := mem_admitHolder hmem
  -- the identity is called at the second place, whatever comes after it
  have hplace : ∀ {tail : List Call} {accepted : Option Bool},
      (∀ call ∈ tail, call ≠ .admission s i answer) →
      .current (some true) :: .admission service i accepted :: tail =
        front ++ .admission s i answer :: rest → rest = tail := by
    intro tail accepted htail heq
    rcases front with _ | ⟨x, _ | ⟨y, front⟩⟩
    · simp at heq
    · simp at heq
      exact heq.2.2.symm
    · simp at heq
      exact absurd rfl (htail _ (by simp [heq.2.2]))
  unfold AndroidLocalDpiHolders.admitHolder at hcalls
  split at hcalls
  · simp at hcalls
  · split at hcalls
    · exact absurd hcalls.symm (by rcases front with _ | ⟨x, _ | _⟩ <;> simp)
    · exact absurd hcalls.symm (by rcases front with _ | ⟨x, _ | _⟩ <;> simp)
    · split at hcalls
      · exact absurd hcalls.symm (by rcases front with _ | ⟨x, _ | _⟩ <;> simp)
      · split at hcalls
        · next hnone =>
          have hrest := hplace (by simp) hcalls
          exact Or.inl ⟨by rw [← hanswer, hnone], hrest⟩
        · dsimp only at hcalls
          split at hcalls
          · exact Or.inr (Or.inl (hplace (by simp) hcalls))
          · exact Or.inr (Or.inr (Or.inr (hplace (by simp) hcalls)))
          · exact Or.inr (Or.inr (Or.inl (hplace (by simp) hcalls)))

theorem mem_put {holders : List (String × String)} (hmem : holder ∈ put service id holders) :
    holder = (service, id) ∨ holder ∈ holders := by
  induction holders with
  | nil => simpa [put] using hmem
  | cons first rest ih =>
    simp only [put] at hmem
    split at hmem
    · next hkey =>
      rcases List.mem_cons.mp hmem with rfl | hrest
      · simp [hkey]
      · simp [hrest]
    · rcases List.mem_cons.mp hmem with rfl | hrest
      · simp
      · rcases ih hrest with hnew | hold
        · exact Or.inl hnew
        · simp [hold]

/-- What is captured was there before or has been read. -/
theorem readAll_holders {h : AndroidLocalDpiHolders} {tags : List (String × String)}
    {answers : List (Option String)} (hmem : holder ∈ (h.readAll tags answers).object.holders) :
    holder ∈ h.holders ∨
      ∃ tag, .read holder.1 tag (some holder.2) ∈ (h.readAll tags answers).calls := by
  induction tags generalizing h answers with
  | nil => exact Or.inl hmem
  | cons first tags ih =>
    obtain ⟨service, tag⟩ := first
    unfold AndroidLocalDpiHolders.readAll at hmem ⊢
    split at hmem
    · exact Or.inl hmem
    · next id hid =>
      split at hmem
      · exact Or.inl hmem
      · next hne =>
        simp only [hne, if_false]
        rcases ih hmem with hput | ⟨tag', hread⟩
        · rcases mem_put hput with rfl | hold
          · exact Or.inr ⟨tag, by simp⟩
          · exact Or.inl hold
        · exact Or.inr ⟨tag', by simp [hread]⟩

theorem capture_holders {tags : List (String × String)} {first last : Option Bool}
    {reads : List (Option String)}
    (hmem : holder ∈ (h.capture tags first reads last).object.holders) : holder ∈ h.holders ∨
      ∃ tag, .read holder.1 tag (some holder.2) ∈ (h.capture tags first reads last).calls := by
  unfold AndroidLocalDpiHolders.capture at hmem ⊢
  split at hmem
  · exact Or.inl hmem
  · next hopen =>
    rw [if_neg hopen]
    split at hmem
    · exact Or.inl hmem
    · exact Or.inl hmem
    · dsimp only at hmem ⊢
      have hread : holder ∈ (h.readAll tags reads).object.holders := by
        split at hmem
        · exact hmem
        · exact hmem
      rcases readAll_holders hread with hold | ⟨tag, htag⟩
      · exact Or.inl hold
      · refine Or.inr ⟨tag, ?_⟩
        split <;> simp [htag]

/-- An attempt goes on with what is captured for its service. -/
theorem beginPublish_captured {current : Option Bool}
    (hid : (h.beginPublish service current).2 = some id) : (service, id) ∈ h.holders := by
  unfold AndroidLocalDpiHolders.beginPublish at hid
  split at hid
  · simp at hid
  · split at hid
    · simp at hid
    · simp at hid
    · split at hid
      · simp at hid
      · split at hid
        · simp at hid
        · next id' hlookup =>
          obtain ⟨l1, l2, hsplit, -⟩ := List.lookup_eq_some_iff.mp hlookup
          simp at hid
          simp [hsplit, hid]

end Blocks

/-! ## Runs -/

namespace World

variable (blocks : List Block)

theorem run_concat (block : Block) : run (blocks ++ [block]) = (run blocks).after block := by
  simp [run]

variable {w : World}

theorem perform_closed (w : World) (block : Block) :
    (w.perform block).object.closed = true ↔
      w.object.closed = true ∨ ∃ answers, block = .close answers := by
  cases block with
  | capture tags first reads last => simp [perform, capture_kept]
  | beginPublish service current => simp [perform, beginPublish_object]
  | finishPublish attempt proof answers =>
    simp only [perform]
    split
    · simp
    · simp [finishPublish_kept]
  | withdrawService service answer =>
    simp only [perform, AndroidLocalDpiHolders.withdrawService]
    split <;> simp
  | close answers =>
    simp only [perform, AndroidLocalDpiHolders.close]
    split <;> simp_all

theorem perform_withdrawn (w : World) (block : Block) (s : String) :
    s ∈ (w.perform block).object.withdrawnServices ↔
      s ∈ w.object.withdrawnServices ∨ ∃ answer, block = .withdrawService s answer := by
  cases block with
  | capture tags first reads last => simp [perform, capture_kept]
  | beginPublish service current => simp [perform, beginPublish_object]
  | finishPublish attempt proof answers =>
    simp only [perform]
    split
    · simp
    · simp [finishPublish_kept]
  | withdrawService service answer =>
    simp only [perform, AndroidLocalDpiHolders.withdrawService]
    split <;> simp [or_comm, eq_comm]
  | close answers =>
    simp only [perform, AndroidLocalDpiHolders.close]
    split <;> simp

/-- The object is closed once `close` has run. -/
theorem closed_iff : (run blocks).object.closed = true ↔ ∃ answers, .close answers ∈ blocks := by
  induction blocks using List.reverseRecOn with
  | nil => simp [run, initial]
  | append_singleton blocks block ih =>
    rw [run_concat, after, perform_closed, ih]
    simp [exists_or, eq_comm]

theorem withdrawn_iff (s : String) :
    s ∈ (run blocks).object.withdrawnServices ↔ ∃ answer, .withdrawService s answer ∈ blocks := by
  induction blocks using List.reverseRecOn with
  | nil => simp [run, initial]
  | append_singleton blocks block ih =>
    rw [run_concat, after, perform_withdrawn, ih]
    simp [exists_or, eq_comm]

/-- A captured identity was read for its service, and so was that of an attempt. -/
structure Recorded (w : World) : Prop where
  holders : ∀ holder ∈ w.object.holders, ∃ tag, .read holder.1 tag (some holder.2) ∈ w.log
  attempts : ∀ holder, some holder ∈ w.attempts → ∃ tag, .read holder.1 tag (some holder.2) ∈ w.log

variable {holder : String × String} {block : Block}

theorem pending_mem {attempt : Nat} (h : w.pending attempt = some holder) :
    some holder ∈ w.attempts := by
  simp only [pending, Option.join_eq_some_iff] at h
  exact List.mem_of_getElem? h

theorem perform_holders (hmem : holder ∈ (w.perform block).object.holders) :
    holder ∈ w.object.holders ∨
      ∃ tag, .read holder.1 tag (some holder.2) ∈ (w.perform block).calls := by
  cases block with
  | capture tags first reads last => exact capture_holders hmem
  | beginPublish service current =>
    simp only [perform, beginPublish_object] at hmem
    exact Or.inl hmem
  | finishPublish attempt proof answers =>
    simp only [perform] at hmem
    split at hmem
    · exact Or.inl hmem
    · rw [(finishPublish_kept _ _ _ _).2.2] at hmem
      exact Or.inl hmem
  | withdrawService service answer =>
    simp only [perform, AndroidLocalDpiHolders.withdrawService] at hmem
    split at hmem
    · exact Or.inl hmem
    · exact Or.inl hmem
  | close answers =>
    simp only [perform, AndroidLocalDpiHolders.close] at hmem
    split at hmem
    · exact Or.inl hmem
    · exact Or.inl hmem

theorem mem_attemptsAfter (hmem : some holder ∈ w.attemptsAfter block) :
    some holder ∈ w.attempts ∨ holder ∈ w.object.holders := by
  cases block with
  | beginPublish service current =>
    simp only [attemptsAfter, List.mem_append, List.mem_singleton] at hmem
    rcases hmem with hold | hnew
    · exact Or.inl hold
    · obtain ⟨id, hid, rfl⟩ := Option.map_eq_some_iff.mp hnew.symm
      exact Or.inr (beginPublish_captured hid)
  | finishPublish attempt proof answers =>
    rcases List.mem_or_eq_of_mem_set hmem with hold | hnone
    · exact Or.inl hold
    · simp at hnone
  | capture tags first reads last => exact Or.inl hmem
  | withdrawService service answer => exact Or.inl hmem
  | close answers => exact Or.inl hmem

theorem Recorded.after (h : Recorded w) (block : Block) : Recorded (w.after block) := by
  constructor
  · intro holder hmem
    rcases perform_holders hmem with hold | ⟨tag, hread⟩
    · obtain ⟨tag, hread⟩ := h.holders holder hold
      exact ⟨tag, List.mem_append_left _ hread⟩
    · exact ⟨tag, List.mem_append_right _ hread⟩
  · intro holder hmem
    rcases mem_attemptsAfter hmem with hold | hheld
    · obtain ⟨tag, hread⟩ := h.attempts holder hold
      exact ⟨tag, List.mem_append_left _ hread⟩
    · obtain ⟨tag, hread⟩ := h.holders holder hheld
      exact ⟨tag, List.mem_append_left _ hread⟩

theorem recorded_run : Recorded (run blocks) := by
  induction blocks using List.reverseRecOn with
  | nil => exact ⟨by simp [run, initial], by simp [run, initial]⟩
  | append_singleton blocks block ih =>
    rw [run_concat]
    exact ih.after block

theorem readAll_admits_nothing (h : AndroidLocalDpiHolders) (tags : List (String × String))
    (answers : List (Option String)) (s id : String) (answer : Option Bool) :
    .admission s id answer ∉ (h.readAll tags answers).calls := by
  induction tags generalizing h answers with
  | nil => simp [AndroidLocalDpiHolders.readAll]
  | cons first tags ih =>
    obtain ⟨service, tag⟩ := first
    unfold AndroidLocalDpiHolders.readAll
    split
    · simp
    · split
      · simp
      · simp [ih]

/-- Only the second block of a `publish` calls `admit`. -/
theorem mem_perform_admit {s id : String} {answer : Option Bool}
    (hmem : .admission s id answer ∈ (w.perform block).calls) :
    ∃ attempt answers, block = .finishPublish attempt (some true) answers ∧
      w.pending attempt = some (s, id) ∧ w.object.closed = false ∧
      s ∉ w.object.withdrawnServices := by
  cases block with
  | capture tags first reads last =>
    have hread := readAll_admits_nothing w.object tags reads s id answer
    simp only [perform, AndroidLocalDpiHolders.capture] at hmem
    split at hmem
    · simp at hmem
    · split at hmem
      · simp at hmem
      · simp at hmem
      · split at hmem
        · simp [hread] at hmem
        · simp [hread] at hmem
  | beginPublish service current =>
    simp only [perform, AndroidLocalDpiHolders.beginPublish] at hmem
    split at hmem
    · simp at hmem
    · split at hmem
      · simp at hmem
      · simp at hmem
      · split at hmem
        · simp at hmem
        · split at hmem <;> simp at hmem
  | finishPublish attempt proof answers =>
    simp only [perform] at hmem
    split at hmem
    · simp at hmem
    · next service id' hpending =>
      rcases proof with _ | _ | _
      · simp [AndroidLocalDpiHolders.finishPublish] at hmem
      · simp [AndroidLocalDpiHolders.finishPublish] at hmem
      · simp only [AndroidLocalDpiHolders.finishPublish, List.mem_cons, reduceCtorEq,
          false_or] at hmem
        obtain ⟨rfl, rfl, -, hopen, hkept⟩ := mem_admitHolder hmem
        exact ⟨attempt, answers, rfl, hpending, hopen, hkept⟩
  | withdrawService service answer' =>
    simp only [perform, AndroidLocalDpiHolders.withdrawService] at hmem
    split at hmem <;> simp at hmem
  | close answers =>
    simp only [perform, AndroidLocalDpiHolders.close] at hmem
    split at hmem
    · simp at hmem
    · simp [List.mem_mapIdx] at hmem

/-- What follows `admit` in the block that calls it. -/
theorem perform_next {s id : String} {answer : Option Bool} {front rest : List Call}
    (hcalls : (w.perform block).calls = front ++ .admission s id answer :: rest) :
    answer = none ∧ rest = [] ∨ rest = [.current none] ∨ rest = [.current (some true)] ∨
      ∃ ended, rest = [.current (some false), .withdraw id ended] := by
  have hmem : .admission s id answer ∈ (w.perform block).calls := by simp [hcalls]
  obtain ⟨attempt, answers, rfl, hpending, -, -⟩ := mem_perform_admit hmem
  simp only [perform, hpending, AndroidLocalDpiHolders.finishPublish] at hcalls
  rcases front with _ | ⟨x, front⟩
  · simp at hcalls
  · simp only [List.cons_append, List.cons.injEq] at hcalls
    rcases admitHolder_next hcalls.2 with hnone | hthrow | hheld | hturned
    · exact Or.inl hnone
    · exact Or.inr (Or.inl hthrow)
    · exact Or.inr (Or.inr (Or.inl hheld))
    · exact Or.inr (Or.inr (Or.inr ⟨_, hturned⟩))

/-- What a `publish` that returns true has called since its first block. -/
theorem finishPublish_true {attempt : Nat} {proof : Option Bool}
    {answers : AndroidLocalDpiHolders.Answers}
    (hresult : (w.perform (.finishPublish attempt proof answers)).result = some true) :
    ∃ s id, w.pending attempt = some (s, id) ∧ w.object.closed = false ∧
      s ∉ w.object.withdrawnServices ∧
      (w.perform (.finishPublish attempt proof answers)).calls =
        [.proof s (some true), .current (some true), .admission s id (some true),
          .current (some true)] := by
  simp only [perform] at hresult ⊢
  split at hresult
  · simp at hresult
  · next s id hpending =>
    rcases proof with _ | _ | _
    · simp [AndroidLocalDpiHolders.finishPublish] at hresult
    · simp [AndroidLocalDpiHolders.finishPublish] at hresult
    · simp only [AndroidLocalDpiHolders.finishPublish] at hresult
      obtain ⟨hopen, hkept, hbefore, hadmitted, hafter⟩ := admitHolder_true hresult
      refine ⟨s, id, hpending, hopen, hkept, ?_⟩
      simp [AndroidLocalDpiHolders.finishPublish, AndroidLocalDpiHolders.admitHolder,
        hopen, hkept, hbefore, hadmitted, hafter]

end World

/-- The holders never outlive their authority, in any interleaving of the blocks and
with any answers. Nothing is admitted after `close`. After `withdrawService` nothing is
admitted for that service, and an identity that is, was read for another one. After
`admit` comes the question whether it is still current, and where it is not, the
withdrawal. `publish` returns true only after the proof and while it is current, when
neither `close` nor `withdrawService` has run. The first `close` withdraws each holder
once, whatever was answered before, and a later one calls nothing. -/
theorem holders_authority (blocks : List Block) (block : Block) :
    ((∃ answers, .close answers ∈ blocks) →
      ∀ s id accepted, .admission s id accepted ∉ ((World.run blocks).perform block).calls) ∧
    (∀ s answer, .withdrawService s answer ∈ blocks →
      ∀ s' id accepted, .admission s' id accepted ∈ ((World.run blocks).perform block).calls →
        s' ≠ s ∧ ∃ tag, .read s' tag (some id) ∈ (World.run blocks).log) ∧
    (∀ (front rest : List Call) s id accepted,
      ((World.run blocks).perform block).calls = front ++ .admission s id accepted :: rest →
        accepted = none ∧ rest = [] ∨ rest = [.current none] ∨ rest = [.current (some true)] ∨
          ∃ ended, rest = [.current (some false), .withdraw id ended]) ∧
    (∀ attempt proof answers, block = .finishPublish attempt proof answers →
      ((World.run blocks).perform block).result = some true →
        ∃ s id, (World.run blocks).pending attempt = some (s, id) ∧
          ((World.run blocks).perform block).calls =
            [.proof s (some true), .current (some true), .admission s id (some true),
              .current (some true)] ∧
          (∀ ended, .close ended ∉ blocks) ∧ ∀ ended, .withdrawService s ended ∉ blocks) ∧
    (∀ answers, block = .close answers →
      ((∀ ended, .close ended ∉ blocks) →
        ((World.run blocks).perform block).calls =
          (World.run blocks).object.holders.mapIdx fun i holder =>
            .withdraw holder.2 (answers i)) ∧
      ((∃ ended, .close ended ∈ blocks) → ((World.run blocks).perform block).calls = [])) := by
  refine ⟨?_, ?_, fun _ _ _ _ _ => World.perform_next, ?_, ?_⟩
  · intro hclosed s id accepted hmem
    obtain ⟨-, -, -, -, hopen, -⟩ := World.mem_perform_admit hmem
    simp [(World.closed_iff blocks).mpr hclosed] at hopen
  · intro s answer hwithdrawn s' id accepted hmem
    obtain ⟨attempt, answers, -, hpending, -, hkept⟩ := World.mem_perform_admit hmem
    constructor
    · rintro rfl
      exact hkept ((World.withdrawn_iff blocks s').mpr ⟨answer, hwithdrawn⟩)
    · exact (World.recorded_run blocks).attempts (s', id) (World.pending_mem hpending)
  · rintro attempt proof answers rfl hresult
    obtain ⟨s, id, hpending, hopen, hkept, hcalls⟩ := World.finishPublish_true hresult
    refine ⟨s, id, hpending, hcalls, fun ended hclose => ?_, fun ended hwithdrawn => ?_⟩
    · simp [(World.closed_iff blocks).mpr ⟨ended, hclose⟩] at hopen
    · exact hkept ((World.withdrawn_iff blocks s).mpr ⟨ended, hwithdrawn⟩)
  · rintro answers rfl
    constructor
    · intro hnever
      have hopen : (World.run blocks).object.closed ≠ true := fun hclosed => by
        obtain ⟨ended, hmem⟩ := (World.closed_iff blocks).mp hclosed
        exact hnever ended hmem
      simp [World.perform, AndroidLocalDpiHolders.close, hopen]
    · intro hclosed
      simp [World.perform, AndroidLocalDpiHolders.close, (World.closed_iff blocks).mpr hclosed]

/-- A `publish` that returns true and the `close` after it, whose first withdrawal throws. -/
theorem sampleHolders_withdrawn :
    ((World.run [.capture [("a", "first"), ("b", "second")] (some true) [some "x", some "y"] (some true),
        .beginPublish "b" (some true),
        .finishPublish 0 (some true) ⟨some true, some true, some true, some ()⟩]).perform
          (.close fun i => if i = 0 then none else some ())).calls =
      [.withdraw "x" none, .withdraw "y" (some ())] :=
  ((holders_authority _ _).2.2.2.2 (fun i => if i = 0 then none else some ()) rfl).1 (by simp)

/-- One identity may be read for two services. It is admitted for the second after the
first one was withdrawn. -/
theorem sharedIdentity_admitted :
    ¬ ∀ (blocks later : List Block) (block : Block) (s id : String) (answer : Option Unit),
      (s, id) ∈ (World.run blocks).object.holders →
        ∀ s' accepted, .admission s' id accepted ∉
          ((World.run (blocks ++ .withdrawService s answer :: later)).perform block).calls := by
  intro h
  exact h
    [.capture [("a", "first"), ("b", "second")] (some true) [some "x", some "x"] (some true)]
    [.beginPublish "b" (some true)]
    (.finishPublish 0 (some true) ⟨some true, some true, some true, some ()⟩)
    "a" "x" (some ()) (by decide) "b" (some true) (by decide)

end Pokrov.Android.LocalDpi
