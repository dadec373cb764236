import Banlieue.Api.Provider
import Banlieue.Data.Program
import Banlieue.Imagebuilder.Artifact

namespace Banlieue.Image

open Banlieue.Api hiding BuildArtifactStatus ImageSource ZoneImageStatus ImagePerProviderStatus
open Banlieue.Data
open Banlieue.Imagebuilder (BuildArtifactKind BuildArtifactPhase OciArtifactPhase OciArtifactStatus BuildArtifactStatus ImageSource)

/-! # Import Jobs

The providers import a built image by Jobs in the build namespace, one for each place
the image has to be in, and report the state of these Jobs on the image.
-/

structure JobCondition where
  type : String
  status : String
  lastTransitionTime : Option Nat := none
deriving DecidableEq

structure JobStatus where
  succeeded : Nat := 0
  failed : Nat := 0
  conditions : List JobCondition := []
deriving DecidableEq

structure JobManifest where
  name : String
  labels : List (String × String)
  /-- The `OSArtifact` that owns the Job, by name and uid. -/
  owner : Option (String × String)
  image : String
  serviceAccount : Option String
  args : List String
  claimName : String
deriving DecidableEq

structure Job where
  manifest : JobManifest
  status : JobStatus := {}
deriving DecidableEq

structure ZoneImageStatus where
  name : String
  ready : Bool
  resolvedRef : Option String := none
  templateFolder : Option String := none
  reason : Option String := none
  message : Option String := none
deriving DecidableEq

structure ImagePerProviderStatus where
  providerName : String
  providerNamespace : String
  ready : Bool
  resolvedRef : Option String := none
  reason : Option String := none
  message : Option String := none
  zones : List ZoneImageStatus := []
deriving DecidableEq

inductive ProviderClass where
  | libvirt | vsphere
deriving DecidableEq

def ProviderClass.text : ProviderClass → String
  | .libvirt => "libvirt"
  | .vsphere => "vsphere"

inductive ApiError where
  | notFound
  | other (message : String)
deriving DecidableEq

def ApiError.message : ApiError → String
  | .notFound => "ApiError: NotFound"
  | .other message => message

inductive Call where
  | ensureFinalizer (image : String)
  | listProviders
  | getJob (name : String)
  | applyJob (manifest : JobManifest)
  | deleteJob (name : String)
  | patchStatus (providerClass : ProviderClass) (image : String) (rows : List ImagePerProviderStatus)
  | patchAnnotations (image : String) (changes : List (String × Option String))
  | clock
  | resolveCredentials (provider : Provider)
  | resolveCaBundle (provider : Provider)
  | connect (provider : Provider)
  | volumes (provider : Provider) (pool : String)
  | listDatacenters (provider : Provider)
  | findTemplate (datacenter folder template : String)

abbrev Reply : Call → Type
  | .ensureFinalizer _ => Except String Unit
  | .listProviders => Except String (List Provider)
  | .getJob _ => Except ApiError Job
  | .applyJob _ => Except String Unit
  | .deleteJob _ => Except ApiError Unit
  | .patchStatus _ _ _ => Except String Unit
  | .patchAnnotations _ _ => Except String (List String)
  | .clock => Nat
  | .resolveCredentials _ => Except String Unit
  | .resolveCaBundle _ => Except String Unit
  | .connect _ => Except String Unit
  | .volumes _ _ => Except String (List String)
  | .listDatacenters _ => Except String (List String)
  | .findTemplate _ _ _ => Except String Bool

abbrev Work := Program Call Reply

abbrev Pass := ExceptT String Work

def getJob (name : String) : Work (Except ApiError Job) := Program.request (Call.getJob name)

def applyJob (manifest : JobManifest) : Work (Except String Unit) := Program.request (Call.applyJob manifest)

def deleteJob (name : String) : Work (Except ApiError Unit) := Program.request (Call.deleteJob name)

/-- The providers a workload is for: its own, or all of them in a static install. -/
def serves (providerName : Option String) (name : String) : Bool :=
  match providerName with
  | none => true
  | some mine => mine == name

def providersInScope (providers : List Provider) (providerName : Option String) : List Provider :=
  providers.filter fun provider => serves providerName provider.name

def providersOfClass (providers : List Provider) (name : String) : List Provider :=
  providers.filter fun provider => provider.spec.providerClassRef.name == name

def namespaceOf (provider : Provider) : String := provider.metadata.namespaceName.getD ""

/-- The `OSArtifact` a Job is to go with, once it has been observed. -/
def ownerReferences (artifact : BuildArtifactStatus) : Option (String × String) :=
  artifact.osArtifactUid.map fun uid => (artifact.osArtifactRef, uid)

end Banlieue.Image
