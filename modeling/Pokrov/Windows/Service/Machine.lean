import Pokrov.Lib.Effects
import Pokrov.Windows.Service.Bodies

/-!
# The machine under the Windows service

What `RuntimeHost` and its recovery journal call: Core, the local DPI executor,
the transition guard, the egress probe, the operation's interruption check, the
file system, the random generator and the network state. Each is a call that the
environment answers as it likes. An error is a text, empty when there is none,
as in the source.

The diagnostic event journal is written and never read, and is left out.
-/

namespace Pokrov.Windows.Service

open Effects

abbrev Bytes := List UInt8

/-! ## Data that passes between the host and its parts -/

inductive OperationInterruption
  | none
  | cancelled
  | deadlineExceeded
deriving DecidableEq

inductive WindowsLocalDpiStrategy
  | fakeMultisplitAlt4
  | multidisorderMidsld
deriving DecidableEq

structure WindowsLocalDpiDomain where
  name : Bytes
  exact : Bool
  shared : Bool
deriving DecidableEq

structure WindowsLocalDpiService where
  serviceId : Bytes
  outboundTag : Bytes
  controlHost : Bytes
  domains : List WindowsLocalDpiDomain
  capturedAdmissionId : Bytes
deriving DecidableEq

structure WindowsLocalDpiPreparation where
  profile : Bytes
  services : List WindowsLocalDpiService
  expiresUtcTicks : UInt64
  expiresElapsedMs : UInt64
deriving DecidableEq

/-- The services are pairs of a service and an outbound tag. -/
structure WindowsTelegramWSPreparation where
  profile : Bytes
  services : List (Bytes × Bytes)
  expiresUtcTicks : UInt64
  expiresElapsedMs : UInt64
deriving DecidableEq

/-- The fields of `CandidateNetworkContext` that the host reads. -/
structure CandidateNetworkContext where
  selectionKey : Bytes
  bindInterface : Bytes

structure WindowsLocalDpiHolderObservation where
  state : Bytes
  failureReason : Bytes
  withdrawCompleted : Bool
  localHandoffs : UInt64
  vpnHandoffs : UInt64

inductive EgressProbeReserve
  | static
  | api
  | none
deriving DecidableEq

/-- The Core interfaces whose version the host asks for. -/
inductive CoreInterface
  | windowsLocalDpiAdmission
  | telegramWSAdmission
  | smartAccessRuntimeControl
  | routingCatalogControl
  | smartAccessProbe
deriving DecidableEq

/-- The Core calls that answer a number, negative when Core has none. -/
inductive CoreControl
  | configureSmartAccessRuntimeControl (profileDigest config : Bytes)
  | configureSmartAccessRenewal (profileDigest config : Bytes)
  | acknowledgeSmartAccessRestrictions (digest : Bytes)
  | revokeRoutingCatalog
  | revokeRoutingCatalogService (serviceId : Bytes)
  | revokeSmartAccessPolicy (terminateActive : Bool)
  | revokeSmartAccessLease (leaseId : Bytes) (terminateActive : Bool)
  | renewSmartAccessLease (target : SmartAccessRenewalTarget)
  | confirmATSLease (target : TransportLeasePromotion)
  | revokeATSLease (target : TransportLeaseRevocation)
deriving DecidableEq

/-- The three ways the executor is asked to run its child. -/
inductive ExecutorStart
  | startPrepared
  | retryPrepared
  | retryAfterRuntimeFailure
deriving DecidableEq

/-- The checks handed to an operation by its caller. -/
inductive Interrupter
  | owner
  | telegram
  | qa
deriving DecidableEq

inductive Phase
  | artifactMissing
  | artifactReady
  | initialized
  | configStaged
  | running
  | recoveryRequired
deriving DecidableEq

/-- What a host says of itself at a point of a run. -/
structure HostView where
  phase : Phase
  coreEgressValidated : Bool
  effectiveProfileDigest : Bytes
deriving DecidableEq

/-- Points of a run that leave nothing behind on the machine. -/
inductive Mark
  | connectImpl
  | rolledBack (error : String)
  /-- `StageProfile` has succeeded. -/
  | staged
  /-- The next call is made by a host of this view. -/
  | host (view : HostView)
deriving DecidableEq

/-! ## Calls and answers -/

inductive MachineCall
  | genRandom
  | capture
  | restore (snapshot : Bytes)
  | writeJournal (content : Bytes)
  | coreInitialize
  | secureFile (path : Bytes)
  | start (disableMemoryLimit : Bool)
  | startInterruptible (disableMemoryLimit : Bool)
  | coreStop
  | supportsInterruptibleStart
  | coreModuleSHA256
  | version (which : CoreInterface)
  | prepareTelegramWSProfile (config bindInterface : Bytes)
  | prepareWindowsLocalDpiProfile (config bindInterface : Bytes)
  | readLocalDpiAdmissionID (tag : Bytes)
  | readLocalDpiObservation (id : Bytes)
  | readTelegramWSAdmissionID (tag : Bytes)
  | admitTelegramWSAdmission (id : Bytes)
  | withdrawTelegramWSAdmission (id : Bytes)
  | control (which : CoreControl)
  | readSmartAccessRestrictions
  | readSmartAccessLeases
  | probeSmartAccess (tag : Bytes) (periodic : Bool)
  | executorAssetsReady
  | executorAlive
  | executorStop
  | executorStopAfterCoreStopped
  | executorStart (how : ExecutorStart) (services : List WindowsLocalDpiService)
      (bindInterface : Bytes) (strategy : WindowsLocalDpiStrategy)
  | capturedAdmissionID (tag : Bytes)
  | admitCaptured (tag : Bytes)
  | guardIsArmed
  | guardStart
  | guardFinish
  | guardExplicitOff
  | verifyEgress (periodic : Bool) (reserve : EgressProbeReserve)
  | interrupted (who : Interrupter)
  | connectDeadlineCurrent (target : BoundConnectTarget)
  | localDpiPreparationCurrent (preparation : WindowsLocalDpiPreparation)
  | telegramWSPreparationCurrent (preparation : WindowsTelegramWSPreparation)
  | tickCount
  | verifyControlHost (host bindInterface : Bytes) (standalonePermit : Bool) (timeout : Nat)
  | prepareDirectories
  | writePendingProfile (content : Bytes)
  | moveProfile
  | deletePendingProfile
  | deleteProfile
  | writeBundledRuleSets (slot : Nat) (ruleSets : List Bytes)
  | cleanupBundledRuleSets (slot : Nat)
  | mark (m : Mark)
deriving DecidableEq

@[reducible] def MachineCall.Answer : MachineCall → Type
  | genRandom => Option Identifier
  | capture => String × Bytes
  | restore _ => String
  | writeJournal _ => Bool
  | coreInitialize => String
  | secureFile _ => String
  | start _ => String
  | startInterruptible _ => String
  | coreStop => String
  | supportsInterruptibleStart => Bool
  | coreModuleSHA256 => Bytes
  | version _ => Int
  | prepareTelegramWSProfile _ _ => Bytes
  | prepareWindowsLocalDpiProfile _ _ => Bytes
  | readLocalDpiAdmissionID _ => Bytes
  | readLocalDpiObservation _ => Bytes
  | readTelegramWSAdmissionID _ => Bytes
  | admitTelegramWSAdmission _ => Int
  | withdrawTelegramWSAdmission _ => Int
  | control _ => Int
  | readSmartAccessRestrictions => Bytes
  | readSmartAccessLeases => Bytes
  | probeSmartAccess _ _ => String
  | executorAssetsReady => Bool
  | executorAlive => Bool
  | executorStop => Bool
  | executorStopAfterCoreStopped => Bool
  | executorStart _ _ _ _ => String
  | capturedAdmissionID _ => Bytes
  | admitCaptured _ => Bool
  | guardIsArmed => Bool
  | guardStart => String
  | guardFinish => String
  | guardExplicitOff => String
  | verifyEgress _ _ => String
  | interrupted _ => OperationInterruption
  | connectDeadlineCurrent _ => Bool
  | localDpiPreparationCurrent _ => Bool
  | telegramWSPreparationCurrent _ => Bool
  | tickCount => Nat
  | verifyControlHost _ _ _ _ => String
  | prepareDirectories => Bool
  | writePendingProfile _ => Bool
  | moveProfile => Bool
  | deletePendingProfile => Unit
  | deleteProfile => Unit
  | writeBundledRuleSets _ _ => Option (List Bytes)
  | cleanupBundledRuleSets _ => Unit
  | mark _ => Unit

abbrev Machine : Interface := ⟨MachineCall, MachineCall.Answer⟩

/-- The calls that neither touch the network state and its journal nor start
Core. -/
def quiet : MachineCall → Bool
  | .writeJournal _ => false
  | .capture => false
  | .restore _ => false
  | .start _ => false
  | .startInterruptible _ => false
  | .mark .connectImpl => false
  | _ => true

/-- The part of the machine that the host works with directly. -/
abbrev Quiet : Interface := Machine.sub fun c => quiet c = true

/-- A machine on which everything works, with an old Core. -/
def plainAnswer : (c : MachineCall) → Machine.Answer c
  | .genRandom => some ⟨List.replicate 16 9, rfl⟩
  | .capture => ("", Codec.text "routes")
  | .version _ | .control _ | .admitTelegramWSAdmission _ | .withdrawTelegramWSAdmission _ =>
    (0 : Int)
  | .tickCount => (0 : Nat)
  | .interrupted _ => .none
  | .guardIsArmed | .executorAssetsReady | .executorAlive => false
  | .writeJournal _ | .supportsInterruptibleStart | .executorStop | .executorStopAfterCoreStopped
  | .admitCaptured _ | .connectDeadlineCurrent _ | .localDpiPreparationCurrent _
  | .telegramWSPreparationCurrent _ | .prepareDirectories | .writePendingProfile _
  | .moveProfile => true
  | .writeBundledRuleSets _ _ => some []
  | .deletePendingProfile | .deleteProfile | .cleanupBundledRuleSets _ | .mark _ => ()
  | .coreModuleSHA256 | .prepareTelegramWSProfile _ _ | .prepareWindowsLocalDpiProfile _ _
  | .readLocalDpiAdmissionID _ | .readLocalDpiObservation _ | .readTelegramWSAdmissionID _
  | .readSmartAccessRestrictions | .readSmartAccessLeases | .capturedAdmissionID _ => ([] : Bytes)
  | .restore _ | .coreInitialize | .secureFile _ | .start _ | .startInterruptible _ | .coreStop
  | .probeSmartAccess _ _ | .executorStart _ _ _ _ | .guardStart | .guardFinish
  | .guardExplicitOff | .verifyEgress _ _ | .verifyControlHost _ _ _ _ => ""

/-- The journal file after a run: `WriteAtomicFile` replaces it as a whole, or
fails and leaves it. -/
def journalStep (file : Option Bytes) : Event Machine → Option Bytes
  | ⟨.writeJournal content, true⟩ => some content
  | _ => file

def journalAfter (file : Option Bytes) (tr : List (Event Machine)) : Option Bytes :=
  tr.foldl journalStep file

end Pokrov.Windows.Service
