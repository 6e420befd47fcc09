import Pokrov.Windows.Service.Machine

/-!
# New ids for the DPI holders

`RefreshWindowsLocalDpiRetryIDs` of `service_local_dpi.cpp` over a core that answers as it likes.
The holders are handed over by reference, and are the memory here.
-/

namespace Pokrov.Windows.Service

open Codec Effects Contract

inductive RetryCall
  | runtimeRetryVersion
  | readLocalDpiAdmissionID (tag : Bytes)
  | prepareWindowsLocalDpiRetry (ids : Bytes)

@[reducible] def RetryCall.Answer : RetryCall → Type
  | runtimeRetryVersion => Int
  | readLocalDpiAdmissionID _ => Bytes
  | prepareWindowsLocalDpiRetry _ => Bytes

/-- The part of `CoreRuntime` that a retry asks. -/
abbrev RetryCore : Interface := ⟨RetryCall, RetryCall.Answer⟩

/-- The tags with the ids they are held by. -/
abbrev Holders := List (Bytes × Bytes)

abbrev RetryAct := Act RetryCore Holders

/-- `IsHolderID`. -/
def isHolderID (value : Bytes) : Bool := value.length = 32 && value.all isLowerHex

namespace LocalDpiRetry

/-- The first loop: what the core is asked to replace, and the ids there are. -/
def validate : Holders → Bytes → List Bytes → RetryAct (Option (Bytes × List Bytes))
  | [], expected, previous => return some (expected, previous)
  | holder :: rest, expected, previous => do
      if !isHolderID holder.2 || previous.contains holder.2 then return none
      let id ← perform (I := RetryCore) (.readLocalDpiAdmissionID holder.1)
      if id ≠ holder.2 then return none
      let separator := if expected = [] then [] else [','.toUInt8]
      validate rest (expected ++ separator ++ holder.2) (previous ++ [holder.2])

/-- The second loop, over the parts of the answer between its commas. -/
def readFresh (previous : List Bytes) (count : Nat) : List Bytes → List Bytes → Option (List Bytes)
  | [], fresh => if fresh.length = count then some fresh else none
  | id :: rest, fresh =>
    if !isHolderID id || previous.contains id || fresh.contains id then none
    else if (fresh ++ [id]).length > count then none
    else readFresh previous count rest (fresh ++ [id])

/-- The third loop. -/
def confirm : Holders → RetryAct Bool
  | [] => return true
  | holder :: rest => do
      let id ← perform (I := RetryCore) (.readLocalDpiAdmissionID holder.1)
      if id ≠ holder.2 then return false
      confirm rest

end LocalDpiRetry

/-- The holders with other ids. -/
def Holders.withIDs (holders : Holders) (fresh : List Bytes) : Holders :=
  holders.zipWith (fun holder id => (holder.1, id)) fresh

open LocalDpiRetry in
def refreshWindowsLocalDpiRetryIDs (admissionAttempted retryAttempted : Bool) : RetryAct Bool := do
  let holders ← get
  if !admissionAttempted || retryAttempted || holders.isEmpty then return false
  if (← perform (I := RetryCore) .runtimeRetryVersion) ≠ 1 then return false
  match ← validate holders [] [] with
  | none => return false
  | some (expected, previous) =>
    let encoded ← perform (I := RetryCore) (.prepareWindowsLocalDpiRetry expected)
    if encoded = [] then return false
    match readFresh previous holders.length (encoded.splitOn ','.toUInt8) [] with
    | none => return false
    | some fresh =>
      if !(← confirm (holders.withIDs fresh)) then return false
      set (holders.withIDs fresh)
      return true

/-! ## What the loops leave -/

namespace LocalDpiRetry

abbrev recordedRetry : Contract RetryCore (List (Event RetryCore)) := recording RetryCore

/-- The core reports a holder. -/
def reports (holder : Bytes × Bytes) : Event RetryCore :=
  ⟨.readLocalDpiAdmissionID holder.1, holder.2⟩

theorem validate_spec (holders : Holders) (expected : Bytes) (previous : List Bytes)
    (memory : Holders) (calls : List (Event RetryCore)) :
    recordedRetry.wpa (validate holders expected previous) (fun answer memory' _ =>
      memory' = memory ∧ ∀ asked found, answer = some (asked, found) →
        found = previous ++ holders.map (·.2)) memory calls := by
  induction holders generalizing expected previous calls with
  | nil =>
    refine ⟨rfl, fun asked found h => ?_⟩
    obtain ⟨-, rfl⟩ := Prod.mk.inj (Option.some.inj h)
    exact (List.append_nil _).symm
  | cons holder rest ih =>
    unfold validate
    rw [wpa_ite]
    refine ⟨fun _ => ⟨rfl, fun _ _ h => by cases h⟩, fun _ => ?_⟩
    refine wpa_call fun id _ => ⟨trivial, ?_⟩
    rw [wpa_ite]
    refine ⟨fun _ => ⟨rfl, fun _ _ h => by cases h⟩, fun _ => ?_⟩
    refine wpa_mono (ih _ _ _) fun answer memory' _ ⟨hmemory, hfound⟩ => ⟨hmemory, ?_⟩
    intro asked found h
    rw [hfound asked found h, List.append_assoc]
    rfl

/-- The new ids are holder ids, none is an old one, and no two are the same. -/
structure Fresh (previous fresh : List Bytes) : Prop where
  ids : ∀ id ∈ fresh, isHolderID id = true ∧ id ∉ previous
  distinct : fresh.Nodup

theorem Fresh.nil (previous : List Bytes) : Fresh previous [] where
  ids := by simp
  distinct := List.nodup_nil

theorem Fresh.concat {previous fresh : List Bytes} (h : Fresh previous fresh) {id : Bytes}
    (hid : isHolderID id = true) (hprevious : id ∉ previous) (hfresh : id ∉ fresh) :
    Fresh previous (fresh ++ [id]) where
  ids other hother := by
    rcases List.mem_append.mp hother with hold | hnew
    · exact h.ids other hold
    · obtain rfl := List.mem_singleton.mp hnew
      exact ⟨hid, hprevious⟩
  distinct := by
    refine List.Nodup.append h.distinct (List.nodup_singleton id) ?_
    rw [List.disjoint_singleton]
    exact hfresh

theorem readFresh_spec {previous : List Bytes} {count : Nat} {parts fresh ids : List Bytes}
    (hfresh : Fresh previous fresh) (h : readFresh previous count parts fresh = some ids) :
    Fresh previous ids ∧ ids.length = count := by
  induction parts generalizing fresh with
  | nil =>
    obtain ⟨hcount, h⟩ := Option.ite_none_right_eq_some.mp h
    obtain rfl := Option.some.inj h
    exact ⟨hfresh, hcount⟩
  | cons id rest ih =>
    obtain ⟨hvalid, h⟩ := Option.ite_none_left_eq_some.mp h
    obtain ⟨-, h⟩ := Option.ite_none_left_eq_some.mp h
    simp only [Bool.or_eq_true, Bool.not_eq_true', List.contains_eq_mem, decide_eq_true_eq,
      not_or, Bool.not_eq_false] at hvalid
    obtain ⟨⟨hid, hprevious⟩, hnew⟩ := hvalid
    exact ih (hfresh.concat hid hprevious hnew) h

theorem confirm_spec (holders memory : Holders) (calls : List (Event RetryCore)) :
    recordedRetry.wpa (confirm holders) (fun ok memory' calls' => memory' = memory ∧
      (ok = true → calls' = calls ++ holders.map reports)) memory calls := by
  induction holders generalizing calls with
  | nil => exact ⟨rfl, fun _ => (List.append_nil _).symm⟩
  | cons holder rest ih =>
    unfold confirm
    refine wpa_call fun id _ => ⟨trivial, ?_⟩
    rw [wpa_ite]
    refine ⟨fun _ => ⟨rfl, fun h => by cases h⟩, fun hsame => ?_⟩
    obtain rfl := not_not.mp hsame
    refine wpa_mono (ih _) fun ok memory' calls' ⟨hmemory, hcalls⟩ => ⟨hmemory, fun hok => ?_⟩
    rw [hcalls hok]
    exact List.append_assoc calls [reports holder] _

end LocalDpiRetry

namespace Holders

variable {holders : Holders} {fresh : List Bytes}

theorem tags_withIDs (h : fresh.length = holders.length) :
    (holders.withIDs fresh).map (·.1) = holders.map (·.1) := by
  unfold withIDs
  rw [List.map_zipWith]
  induction holders generalizing fresh with
  | nil => rfl
  | cons holder holders ih =>
    cases fresh with
    | nil => cases h
    | cons id fresh =>
      have hrest := @ih fresh (Nat.succ.inj h)
      exact congrArg (holder.1 :: ·) hrest

theorem ids_withIDs (h : fresh.length = holders.length) :
    (holders.withIDs fresh).map (·.2) = fresh := by
  unfold withIDs
  rw [List.map_zipWith]
  induction holders generalizing fresh with
  | nil => exact (List.length_eq_zero_iff.mp h).symm
  | cons holder holders ih =>
    cases fresh with
    | nil => cases h
    | cons id fresh =>
      have hrest := @ih fresh (Nat.succ.inj h)
      exact congrArg (id :: ·) hrest

end Holders

/-! ## The whole refresh -/

/-- Every holder has a new id, which the core reported for its tag after it had prepared the
retry. -/
structure Refreshed (holders holders' : Holders) (calls : List (Event RetryCore)) : Prop where
  tags : holders'.map (·.1) = holders.map (·.1)
  fresh : LocalDpiRetry.Fresh (holders.map (·.2)) (holders'.map (·.2))
  reported : ∃ before ids answer, calls = before ++
    ⟨.prepareWindowsLocalDpiRetry ids, answer⟩ :: holders'.map LocalDpiRetry.reports

/-- What a refresh leaves. -/
def RefreshResult (holders : Holders) (result : Bool) (holders' : Holders)
    (calls : List (Event RetryCore)) : Prop :=
  (result = false ∧ holders' = holders) ∨ (result = true ∧ Refreshed holders holders' calls)

open LocalDpiRetry in
theorem refresh_result (admissionAttempted retryAttempted : Bool) (holders : Holders) :
    recordedRetry.wpa (refreshWindowsLocalDpiRetryIDs admissionAttempted retryAttempted)
      (RefreshResult holders) holders [] := by
  have hrefused : ∀ calls, RefreshResult holders false holders calls := fun _ => .inl ⟨rfl, rfl⟩
  unfold refreshWindowsLocalDpiRetryIDs
  rw [wpa_bind, wpa_get, wpa_ite]
  refine ⟨fun _ => hrefused _, fun _ => ?_⟩
  refine wpa_call fun version _ => ⟨trivial, ?_⟩
  rw [wpa_ite]
  refine ⟨fun _ => hrefused _, fun _ => ?_⟩
  refine wpa_seq (validate_spec holders [] [] holders _) ?_
  rintro answer memory calls ⟨rfl, hfound⟩
  cases answer with
  | none => exact hrefused calls
  | some answer =>
    obtain ⟨expected, previous⟩ := answer
    have hprevious : previous = memory.map (·.2) := hfound expected previous rfl
    refine wpa_call fun encoded _ => ⟨trivial, ?_⟩
    rw [wpa_ite]
    refine ⟨fun _ => hrefused _, fun _ => ?_⟩
    cases hread : readFresh previous memory.length (encoded.splitOn ','.toUInt8) [] with
    | none => exact hrefused _
    | some fresh =>
      obtain ⟨hfresh, hlength⟩ := readFresh_spec (.nil _) hread
      refine wpa_seq (confirm_spec (memory.withIDs fresh) memory _) ?_
      rintro ok memory' calls' ⟨rfl, hcalls⟩
      cases ok with
      | false => exact hrefused calls'
      | true =>
        refine .inr ⟨rfl, Holders.tags_withIDs hlength, ?_, calls, expected, encoded, ?_⟩
        · rw [Holders.ids_withIDs hlength, ← hprevious]
          exact hfresh
        · rw [hcalls rfl]
          exact List.append_assoc calls [_] _

/-- **All or nothing.** However the core answers, a refresh that returns false leaves the holders
as they are, and one that returns true gives each of them another id. -/
theorem refresh_all_or_nothing (admissionAttempted retryAttempted : Bool)
    {holders holders' : Holders} {result : Bool} {calls : List (Event RetryCore)}
    (run : Steps (refreshWindowsLocalDpiRetryIDs admissionAttempted retryAttempted holders) calls
      (.ret (result, holders'))) : RefreshResult holders result holders' calls :=
  wpa_recording.mp (refresh_result admissionAttempted retryAttempted holders) calls result holders'
    run

/-- Two holders of admissions. -/
def holdersOf (first second : Char) : Holders :=
  [([1], List.replicate 32 first.toUInt8), ([2], List.replicate 32 second.toUInt8)]

/-- A core that gives another id to every tag when it prepares a retry. -/
def renewingCore (seen : List (Event RetryCore)) : (c : RetryCall) → c.Answer
  | .runtimeRetryVersion => (1 : Int)
  | .readLocalDpiAdmissionID tag =>
    let holders := if seen.any fun e => e.call matches .prepareWindowsLocalDpiRetry _ then
      holdersOf 'b' 'd' else holdersOf 'a' 'c'
    (holders.lookup tag).getD []
  | .prepareWindowsLocalDpiRetry _ =>
    List.replicate 32 'b'.toUInt8 ++ ','.toUInt8 :: List.replicate 32 'd'.toUInt8

theorem refresh_all_or_nothing_renewed :
    RefreshResult (holdersOf 'a' 'c') true (holdersOf 'b' 'd')
      ((refreshWindowsLocalDpiRetryIDs true false (holdersOf 'a' 'c')).play renewingCore []).1 :=
  refresh_all_or_nothing true false
    (steps_play_pair renewingCore (refreshWindowsLocalDpiRetryIDs true false (holdersOf 'a' 'c')))

end Pokrov.Windows.Service
