import Pokrov.Linux.Network.Safety

/-!
# The traffic block outlives Core

Core runs only behind the block, and the block is taken away only after Core
has stopped and every other owner is rolled back, whatever fails on the way
and however often the rollback is retried.
-/

namespace Pokrov.Linux.Network

open Effects Contract

/-! ## Events of the trace -/

/-- Commands that may change the nftables state. -/
def ChangesBlock : Call → Prop
  | .run name arguments _ => mutates name arguments = some .nftables
  | _ => False

/-- Core was stopped. -/
def coreStopped : Event Net := ⟨.coreStop, none⟩

/-- The transaction's traffic block was accepted by nft. -/
def blockApplied (plan : Plan) (owner text : String) : Event Net :=
  ⟨.run "nft" ["--file", "-"] (some (nftRules plan owner)), RunResult.output text⟩

section Trace

variable {system : Prop} {g : Watch}

theorem stored_core (g : Watch) (value : Option RecoveryState) (r : StoreResult) :
    (g.stored value r).started = g.started ∧ (g.stored value r).stopped = g.stopped ∧
      (g.stored value r).filter = g.filter := by
  cases r with
  | done => exact ⟨rfl, rfl, rfl⟩
  | failed message landed => cases landed <;> exact ⟨rfl, rfl, rfl⟩

/-- Only a stop of Core ends its run, and only that counts as one. -/
theorem next_core (g : Watch) (e : Event Net) (he : e ≠ coreStopped) :
    (g.started = true → (g.next e).started = true) ∧ (g.next e).stopped = g.stopped := by
  obtain ⟨c, r⟩ := e
  cases c with
  | run name arguments input =>
    simp only [Watch.next]
    split <;> exact ⟨id, rfl⟩
  | coreStart pending => exact ⟨fun _ => rfl, rfl⟩
  | coreStop =>
    cases r with
    | none => exact absurd rfl he
    | some e => exact ⟨id, rfl⟩
  | save state =>
    obtain ⟨hs, ht, -⟩ := stored_core g (some state) r
    exact ⟨fun h => hs.trans h, ht⟩
  | remove =>
    obtain ⟨hs, ht, -⟩ := stored_core g none r
    exact ⟨fun h => hs.trans h, ht⟩
  | linkIndex name => exact ⟨id, rfl⟩
  | write event => exact ⟨id, rfl⟩
  | enter sub method pending => exact ⟨id, rfl⟩
  | leave sub method error => cases method <;> cases error <;> exact ⟨id, rfl⟩

/-- The accepted script changes only when nft is told something new. -/
theorem next_filter (g : Watch) (e : Event Net) (script : String)
    (h : (g.next e).filter = some script) :
    (∃ text, e = ⟨.run "nft" ["--file", "-"] (some script), RunResult.output text⟩) ∨
      g.filter = some script ∧ ¬ ChangesBlock e.call := by
  obtain ⟨c, r⟩ := e
  cases c with
  | run name arguments input =>
    by_cases hm : mutates name arguments = some .nftables
    · left
      simp only [Watch.next, hm, Watch.changed, ne_eq, not_true_eq_false, if_false] at h
      split at h
      · cases h
      · next hargs =>
          have hname : name = "nft" := by
            unfold mutates commandOwner at hm
            grind
          cases r with
          | failed message applied => cases h
          | output text =>
            refine ⟨text, ?_⟩
            rw [hname, not_not.mp hargs, show input = some script from h]
    · refine .inr ⟨?_, hm⟩
      rw [← h]
      simp only [Watch.next]
      split
      · next sub hsub =>
          have : sub ≠ .nftables := fun heq => hm (heq ▸ hsub)
          simp [Watch.changed, this]
      · rfl
  | save state => exact .inr ⟨(stored_core g _ r).2.2.symm.trans h, id⟩
  | remove => exact .inr ⟨(stored_core g _ r).2.2.symm.trans h, id⟩
  | coreStop => cases r <;> exact .inr ⟨h, id⟩
  | coreStart pending => exact .inr ⟨h, id⟩
  | linkIndex name => exact .inr ⟨h, id⟩
  | write event => exact .inr ⟨h, id⟩
  | enter sub method pending => exact .inr ⟨h, id⟩
  | leave sub method error => cases method <;> cases error <;> exact .inr ⟨h, id⟩

theorem coreStopped_since {tr : List (Event Net)} (hg : g.started = true)
    (h : ((watching system).after g tr).started = false) : coreStopped ∈ tr := by
  have hlost : ¬ ((watching system).after g tr).started = true := by simp [h]
  have hstep : ∀ (g : Watch) (e : Event Net), g.started = true →
      ¬ (g.next e).started = true → e = coreStopped := by
    intro g e hs hend
    by_contra hne
    exact hend ((next_core g e hne).1 hs)
  obtain ⟨e, hmem, rfl⟩ := (watching system).exists_of_lost hstep hg hlost
  exact hmem

theorem coreStopped_once {tr : List (Event Net)} (hg : g.stopped = false)
    (h : ((watching system).after g tr).stopped = true) : coreStopped ∈ tr := by
  have hlost : ¬ ((watching system).after g tr).stopped = false := by simp [h]
  have hstep : ∀ (g : Watch) (e : Event Net), g.stopped = false →
      ¬ (g.next e).stopped = false → e = coreStopped := by
    intro g e hs hend
    by_contra hne
    exact hend ((next_core g e hne).2.trans hs)
  obtain ⟨e, hmem, rfl⟩ := (watching system).exists_of_lost hstep hg hlost
  exact hmem

end Trace

/-! ## The kill switch -/

/-- **Core runs behind the block.** For any requests on a new transaction over
the real participants, with any answers and cut off anywhere: Core is started
only with the block pending and in place; the block is rolled back only after
Core stopped and with every other owner done; and between a start of Core and
a successful stop no command touches the nftables state. -/
theorem block_outlives_core {recorder : Recorder} {participants : List Participant}
    {t : Transaction} {recovery : Option RecoveryLog} {requests : List Request}
    {tr : List (Event Net)} {q : Prog Net (Unit × Transaction)}
    (hnew : newTransaction recorder participants = some t)
    (hfresh : ∀ p ∈ participants, p.pendingRollback = false)
    (hrun : Steps (session requests { t with recovery }) tr q) :
    (∀ (pre : List (Event Net)) pending r post, tr = pre ++ ⟨.coreStart pending, r⟩ :: post →
      pending.nftables = true ∧
        ∃ plan owner text, ∃ before after : List (Event Net), pre = before ++ blockApplied plan owner text :: after ∧
          ∀ e ∈ after, ¬ ChangesBlock e.call) ∧
    (∀ (pre : List (Event Net)) pending post, tr = pre ++ ⟨.enter .nftables .rollback pending, ()⟩ :: post →
      pending = ⟨false, false, false, true, false⟩ ∧ coreStopped ∈ pre) ∧
    (∀ (pre : List (Event Net)) pending r (mid : List (Event Net)) e post, tr = pre ++ ⟨.coreStart pending, r⟩ :: (mid ++ e :: post) →
      ChangesBlock e.call → coreStopped ∈ mid) := by
  have hsettled : Settled False { t with recovery } {} :=
    settled_of_idle (newTransaction_pending hnew hfresh) nofun
  have hwp := wpa_session requests _ _ hsettled
  have hall := ((watching False).wp_steps hwp hrun
    (along_of_forall _ (fun _ _ => trivial) _ tr)).1
  refine ⟨?_, ?_, ?_⟩
  · rintro pre pending r post rfl
    obtain ⟨⟨hpend, plan, owner, hfilter⟩, -⟩ := hall.at
    refine ⟨hpend, plan, owner, ?_⟩
    rcases (watching False).since (A := fun g => g.filter = some (nftRules plan owner))
      (fun g e h => next_filter g e _ h) hfilter with ⟨hinit, -⟩ | ⟨before, e, after, rfl, hset, hkept⟩
    · cases hinit
    · obtain ⟨text, rfl⟩ := hset
      exact ⟨text, before, after, rfl, hkept⟩
  · rintro pre pending post rfl
    obtain ⟨⟨hpend, hstopped, -⟩, -⟩ := hall.at
    exact ⟨hpend, coreStopped_once rfl hstopped⟩
  · rintro pre pending r mid ⟨c, r'⟩ post rfl hc
    have htail := ((watching False).along_append.mp hall).2.2
    obtain ⟨hblock, -⟩ := htail.at
    cases c with
    | run name arguments input => exact coreStopped_since rfl (hblock hc)
    | _ => cases hc

/-- A host on which every command succeeds, except that NetworkManager may be
missing from it. -/
def plainHost (networkManager : Bool) (_ : List (Event Net)) : (c : Call) → c.Answer
  | .run name arguments _ =>
    if name = "busctl" then
      if !networkManager then RunResult.failed "no such service" false
      else if arguments[6]? = some "GetNameOwner" then RunResult.output "s \":1.7\"\n"
      else if arguments[6]? = some "GetDeviceByIpIface" then
        RunResult.output "o \"/org/freedesktop/NetworkManager/Devices/3\"\n"
      else RunResult.output "o \"/org/freedesktop/NetworkManager/Checkpoint/1\"\n"
    else if name = "ip" then RunResult.output "[]"
    else if arguments = ["--json", "list", "tables"] then
      RunResult.output "\x7b\"nftables\": []\x7d"
    else RunResult.output ""
  | .coreStart _ => (none : GoError)
  | .coreStop => (none : GoError)
  | .save _ => StoreResult.done
  | .remove => StoreResult.done
  | .linkIndex _ => (.ok 7 : Except String Int)
  | .write _ => (none : GoError)
  | .enter _ _ _ => ()
  | .leave _ _ _ => ()

def sampleRecorder : Recorder := ⟨"txn-1", "corr-1", 1⟩

def sampleParticipants : List Participant :=
  [.networkManager {}, .resolved {}, .nftables { owner := "0123456789abcdef0123456789abcdef" },
    .routes {}]

def sampleTransaction : Transaction :=
  sampleParticipants.foldl Transaction.place { recorder := sampleRecorder }

def samplePlan : Plan := ⟨"pokrov0", 0x504b, [.v4 0xac130002#32]⟩

/-- One `Execute` without NetworkManager: Core starts, the checkpoint fails,
everything is rolled back. -/
def sampleTrace : List (Event Net) :=
  ((session [.execute samplePlan true, .restore] sampleTransaction).play
    (plainHost false) []).1

theorem sampleTrace_block :
    (sampleTrace.any fun e => e.call matches .coreStart _) = true ∧
    (sampleTrace.any fun e => e.call matches .enter .nftables .rollback _) = true ∧
    ∀ pre pending post, sampleTrace = pre ++ ⟨.enter .nftables .rollback pending, ()⟩ :: post →
      coreStopped ∈ pre := by
  have hnew : newTransaction sampleRecorder sampleParticipants = some sampleTransaction := rfl
  have hrun : Steps (session [.execute samplePlan true, .restore]
      { sampleTransaction with recovery := none }) sampleTrace _ :=
    steps_play (I := Net) (plainHost false) (session _ sampleTransaction) []
  refine ⟨by decide +kernel, by decide +kernel, fun pre pending post h => ?_⟩
  exact ((block_outlives_core hnew (by decide) hrun).2.1 pre pending post h).2

end Pokrov.Linux.Network
