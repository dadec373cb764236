import Banlieue.Data.Attempt
import Banlieue.ProviderCloudHypervisor.Plan

namespace Banlieue.ProviderCloudHypervisor

open Banlieue.Api Banlieue.Data Banlieue.Data.Program Banlieue.Infra

/-! # The machine and its status -/

inductive ChAddressSource where
  | «static» | neighbour
deriving DecidableEq

structure CloudHypervisorMachineStatus where
  initialization : InitializationStatus := {}
  failureDomain : Option String := none
  addresses : List MachineAddress := []
  addressSource : Option ChAddressSource := none
  observedPowerState : Option PowerState := none
  guestInstalled : Option Bool := none
  installMediaDetached : Option Bool := none
  tpmAttached : Option Bool := none
  tpmEndorsementCertificates : List String := []
  sealedPartitions : List String := []
  hostUid : Option Nat := none
  conditions : List Condition := []
  observedGeneration : Option Int := none
deriving DecidableEq

structure HostMachine extends CloudHypervisorMachine where
  status : Option CloudHypervisorMachineStatus := none
deriving DecidableEq

/-! # Errors -/

inductive IoErrorKind where
  | notFound | alreadyExists | invalidInput | invalidData | other
deriving DecidableEq

structure IoError where
  kind : IoErrorKind
  text : String
deriving DecidableEq

namespace IoError

def other (text : String) : IoError := ⟨.other, text⟩

/-- The same error, naming the path it is about. -/
def withPath (error : IoError) (path : Path) : IoError := { error with text := path.display ++ ": " ++ error.text }

end IoError

inductive VmmError where
  | io (error : IoError)
  | http (text : String)
  | timeout
  | api (status : Nat) (messages : List String)
  | decode (text : String)
  | versionUnsupported (found minimum : String)
  | socket (text : String)
deriving DecidableEq

namespace VmmError

def text : VmmError → String
  | .io error => "VMM socket I/O: " ++ error.text
  | .http text => "VMM HTTP: " ++ text
  | .timeout => "VMM did not answer within 10s"
  | .api status messages => "VMM returned " ++ toString status ++ ": " ++ ": ".intercalate messages
  | .decode text => "VMM response did not decode: " ++ text
  | .versionUnsupported found minimum =>
    s!"VMM version {debugText found.toList} is unsupported; need {minimum} or newer"
  | .socket text => "VMM socket refused: " ++ text

def isNotFound : VmmError → Bool
  | .api status _ => status == 404
  | _ => false

end VmmError

inductive Error where
  | plan (error : PlanError)
  | io (error : IoError)
  | systemd (text : String)
  | vmm (error : VmmError)
  | kube (text : String)
  | missing (field : String)
  | vmmExited (text : String)
  | uidRangeFull
deriving DecidableEq

def Error.text : Error → String
  | .plan error => error.text
  | .io error => "host: " ++ error.text
  | .systemd text => "systemd: " ++ text
  | .vmm error => "VMM: " ++ error.text
  | .kube text => "kubernetes: " ++ text
  | .missing field => "missing " ++ field
  | .vmmExited text => "VMM exited: " ++ text
  | .uidRangeFull => "no free guest uid in the configured range"

/-! # What a pass asks for -/

abbrev Handle := Nat

inductive FileType where
  | regular | directory | socket | symlink | fifo | device
deriving DecidableEq

structure Metadata where
  fileType : FileType
  uid : Nat
  gid : Nat
  mode : Nat
  length : Nat
deriving DecidableEq

/-- System calls on files.  Opening follows no symbolic link at the path itself, except
for the source of a copy. -/
inductive FileCall where
  | createDir (path : Path)
  | createDirAll (path : Path)
  | openDirectory (path : Path)
  /-- Only the name is opened, so nothing blocks (`O_PATH`). -/
  | openPath (path : Path)
  | openForReading (path : Path)
  | openEntry (directory : Handle) (name : String)
  | openSource (path : Path)
  /-- Fails if there is something at the path already. -/
  | createNew (path : Path) (mode : Option Nat)
  | reflink (target source : Handle)
  | sparseCopy (target source : Handle)
  | metadata (path : Path)
  | linkMetadata (path : Path)
  | handleMetadata (handle : Handle)
  | changeOwner (handle : Handle) (uid gid : Nat)
  | changeMode (handle : Handle) (mode : Nat)
  | changePathMode (path : Path) (mode : Nat)
  | setLength (handle : Handle) (length : Nat)
  | writeAll (handle : Handle) (bytes : List UInt8)
  | syncAll (handle : Handle)
  | readToEnd (handle : Handle)
  | entryNames (handle : Handle)
  | listDirectory (path : Path)
  | removeFile (path : Path)
  | removeDirAll (path : Path)
  | rename (source target : Path)
  | bindSocket (path : Path)
deriving DecidableEq

abbrev FileCall.Value : FileCall → Type
  | .openDirectory _ | .openPath _ | .openForReading _ | .openEntry _ _ | .openSource _ | .createNew _ _ => Handle
  | .metadata _ | .linkMetadata _ | .handleMetadata _ => Metadata
  | .readToEnd _ => List UInt8
  | .entryNames _ | .listDirectory _ => List String
  | _ => Unit

inductive TapCall where
  | interfaceExists (name : String)
  | createPersistentTap (name : String) (owner : Nat)
  | addToBridge (bridge port : String)
  | setLinkUp (name : String)
  | deletePersistentTap (name : String)
deriving DecidableEq

abbrev TapCall.Reply : TapCall → Type
  | .interfaceExists _ => Bool
  | _ => Except IoError Unit

/-- The listeners for the guests' reports, by machine; they live in the provider. -/
inductive ListenerCall where
  | listening (key : String)
  | listen (key : String)
  | forget (key : String)
  | installed (key : String)
  | sealed (key : String)
deriving DecidableEq

abbrev ListenerCall.Reply : ListenerCall → Type
  | .listening _ | .installed _ => Bool
  | .sealed _ => List String
  | _ => Unit

inductive UnitState where
  | active | activating | deactivating | inactive | failed
  | other (state : String)
deriving DecidableEq

def UnitState.isRunning : UnitState → Bool
  | .active | .activating => true
  | _ => false

inductive UnitCall where
  | state (name : String)
  | failure (name : String)
  | setMemoryMax (name : String) (bytes : Nat)
  | start (name : String)
  /-- Returns once the unit is stopped and its failure cleared. -/
  | stop (name : String)
deriving DecidableEq

abbrev UnitCall.Value : UnitCall → Type
  | .state _ => Option UnitState
  | .failure _ => Option String
  | _ => Unit

inductive VmState where
  | created | running | shutdown | paused | unknown
deriving DecidableEq

inductive VmmRequest where
  | ping
  | info
  | create (guest : GuestPlan)
  | boot
  | powerButton
  | removeDevice (id : String)
deriving DecidableEq

abbrev VmmRequest.Value : VmmRequest → Type
  | .ping => String
  | .info => VmState
  | _ => Unit

structure Neighbour where
  ip : String
  mac : String
  device : String
deriving DecidableEq

inductive Call where
  | file (call : FileCall)
  | tap (call : TapCall)
  | listener (call : ListenerCall)
  | unit (call : UnitCall)
  | vmm (socket : Path) (owner : Nat) (request : VmmRequest)
  | neighbours
  | clock
deriving DecidableEq

abbrev Reply : Call → Type
  | .file call => Except IoError call.Value
  | .tap call => call.Reply
  | .listener call => call.Reply
  | .unit call => Except String call.Value
  | .vmm _ _ request => Except VmmError request.Value
  | .neighbours => Except IoError (List Neighbour)
  | .clock => Timestamp

abbrev Work (ε α : Type) := ExceptT ε (Program Call Reply) α

abbrev FileWork := Work IoError

abbrev Pass := Work Error

def file (call : FileCall) : FileWork call.Value := consult (.file call) id

def systemd (call : UnitCall) : Pass call.Value := consult (.unit call) (Except.mapError .systemd)

def vmm (plan : MachinePlan) (request : VmmRequest) : Work VmmError request.Value :=
  consult (.vmm plan.apiSocket plan.hostUid request) id

/-- A call that cannot fail. -/
def ask {ε : Type} (call : Call) : Work ε (Reply call) := consult call .ok

/-- A part whose errors are of another kind. -/
def wrapped {ε ε' α : Type} (wrap : ε → ε') (work : Work ε α) : Work ε' α := .mk (do
  return (← work.run).mapError wrap)

/-- What a part comes to, failed or not. -/
def outcome {ε ε' α : Type} (work : Work ε α) : Work ε' (Except ε α) := ExceptT.lift work.run

def ofExcept {ε ε' α : Type} (wrap : ε → ε') : Except ε α → Work ε' α
  | .ok value => pure value
  | .error reason => throw (wrap reason)

end Banlieue.ProviderCloudHypervisor
