import Pokrov.Linux.Network.KillSwitch

/-!
# The recovery record is ahead of the host

Host state of an owner is announced on disk before it exists and withdrawn
only after it is gone. Whatever the daemon was doing when it died, the record
it left names every owner that may still have something on the host, and names
none of the owners above the block without the block itself.
-/

namespace Pokrov.Linux.Network

open Effects Contract

/-- The record a crash leaves, read off the trace so far. -/
def onDisk (initial : Option RecoveryState) (tr : List (Event Net)) : Option RecoveryState :=
  (tr.foldl Watch.next { durable := initial }).durable

/-- A rollback of the owner returned without an error. -/
def rolledBack (sub : Subsystem) : Event Net := ⟨.leave sub .rollback none, ()⟩

/-- Only a successful rollback clears the mark of an owner. -/
theorem next_live (g : Watch) (e : Event Net) (sub : Subsystem) (h : g.live sub = true)
    (hend : ¬ (g.next e).live sub = true) : e = rolledBack sub := by
  obtain ⟨c, r⟩ := e
  cases c with
  | run name arguments input =>
    simp only [Watch.next] at hend
    split at hend
    · simp [Watch.changed, h] at hend
    · exact absurd h hend
  | save state =>
    cases r with
    | done => exact absurd h hend
    | failed message landed => cases landed <;> exact absurd h hend
  | remove =>
    cases r with
    | done => exact absurd h hend
    | failed message landed => cases landed <;> exact absurd h hend
  | coreStop => cases r <;> exact absurd h hend
  | leave sub' method error =>
    cases method with
    | rollback =>
      cases error with
      | none =>
        by_cases hs : sub = sub'
        · subst hs; rfl
        · simp [Watch.next, Watch.cleared, hs, h] at hend
      | some message => exact absurd h hend
    | checkpoint => exact absurd h hend
    | apply => exact absurd h hend
  | coreStart pending => exact absurd h hend
  | linkIndex name => exact absurd h hend
  | write event => exact absurd h hend
  | enter sub' method pending => exact absurd h hend

/-- At any point of any run: what holds of the watch. -/
theorem session_kept {recorder : Recorder} {previous : Option RecoveryState}
    {bootID token : String} {t : Transaction} {requests : List Request}
    {tr : List (Event Net)} {q : Prog Net (Unit × Transaction)}
    (hnew : newSystemTransaction recorder previous bootID token = some t)
    (hrun : Steps (session requests t) tr q) :
    ((watching True).after {} tr).Covered ∧ ((watching True).after {} tr).Sound := by
  have hwp := wpa_session requests _ _ (newSystemTransaction_settled hnew)
  have hall := ((watching True).wp_steps hwp hrun
    (along_of_forall _ (fun _ _ => trivial) _ tr)).1
  exact (watching True).after_of_along (A := fun g => g.Covered ∧ g.Sound)
    (fun g e _ h => h.2 trivial) ⟨nofun, nofun⟩ hall

/-- **Write-ahead.** At any crash point of any run: if a changing command of
the nftables, routes or resolved owner was issued, and no rollback of that
owner has succeeded since, then there is a record on disk that flags it. -/
theorem live_state_recorded {recorder : Recorder} {previous : Option RecoveryState}
    {bootID token : String} {t : Transaction} {requests : List Request}
    {pre post : List (Event Net)} {q : Prog Net (Unit × Transaction)} {sub : Subsystem}
    {name : String} {arguments : List String} {input : Option String} {r : RunResult}
    (hnew : newSystemTransaction recorder previous bootID token = some t)
    (hrun : Steps (session requests t) (pre ++ ⟨.run name arguments input, r⟩ :: post) q)
    (hsub : sub ≠ .networkManager) (hcommand : mutates name arguments = some sub)
    (hopen : rolledBack sub ∉ post) :
    ∃ state, onDisk none (pre ++ ⟨.run name arguments input, r⟩ :: post) = some state ∧
      state.pending sub = true := by
  refine (session_kept hnew hrun).1 sub hsub ?_
  rw [after_append, after_cons]
  by_contra hend
  have hissued : (((watching True).after {} pre).next ⟨.run name arguments input, r⟩).live sub =
      true := by
    simp [Watch.next, hcommand, Watch.changed]
  obtain ⟨e, hmem, rfl⟩ := (watching True).exists_of_lost (A := fun g => g.live sub = true)
    (P := (· = rolledBack sub)) (fun g e => next_live g e sub) hissued hend
  exact hopen hmem

def sampleBoot : String := "01234567-89ab-cdef-0123-456789abcdef"

def sampleToken : String := "0123456789abcdef0123456789abcdef"

def systemTransaction : Transaction :=
  { sampleTransaction with
    recovery := some { state := {
      transactionID := "txn-1", generation := 1, bootID := sampleBoot, token := sampleToken } } }

/-- An `Execute` that succeeds. -/
def systemTrace : List (Event Net) :=
  ((session [.execute samplePlan true] systemTransaction).play (plainHost true) []).1

def isRollback : Call → Bool
  | .leave _ .rollback _ => true
  | _ => false

def isFilter : Call → Bool
  | .run name arguments _ => name = "nft" && arguments = ["--file", "-"]
  | _ => false

theorem systemTrace_recorded :
    ∃ state, onDisk none systemTrace = some state ∧ state.pending .nftables = true := by
  have hnew : newSystemTransaction sampleRecorder none sampleBoot sampleToken =
      some systemTransaction := rfl
  have hrun : Steps (session [.execute samplePlan true] systemTransaction) systemTrace _ :=
    steps_play (I := Net) (plainHost true) _ []
  obtain ⟨hnever, hissued⟩ : systemTrace.all (fun e => !isRollback e.call) = true ∧
      systemTrace.any (fun e => isFilter e.call) = true := by
    decide +kernel
  obtain ⟨⟨c, r⟩, hmem, hc⟩ := List.any_eq_true.mp hissued
  obtain ⟨pre, post, hsplit⟩ := List.append_of_mem hmem
  have hopen : rolledBack .nftables ∉ post := by
    intro hmem
    have := List.all_eq_true.mp hnever (rolledBack .nftables) (by rw [hsplit]; simp [hmem])
    cases this
  rw [hsplit] at hrun ⊢
  cases c with
  | run name arguments input =>
    have hshape : name = "nft" ∧ arguments = ["--file", "-"] := by
      simpa [isFilter] using hc
    obtain ⟨rfl, rfl⟩ := hshape
    exact live_state_recorded hnew hrun (by decide) (by decide) hopen
  | _ => cases hc

end Pokrov.Linux.Network
