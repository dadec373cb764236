import Banlieue.Api.VirtualMachine

namespace Banlieue.Imagebuilder

open Banlieue.Api

/-! # The build of an image, as its status has it -/

inductive BuildArtifactKind where
  | iso | cloudImage
deriving DecidableEq

inductive BuildArtifactPhase where
  | pending | building | ready | failed
deriving DecidableEq

inductive OciArtifactPhase where
  | pushing | ready | failed
deriving DecidableEq

structure OciArtifactStatus where
  phase : OciArtifactPhase
  reference : Option String := none
  message : Option String := none
deriving DecidableEq

structure BuildArtifactStatus where
  kind : BuildArtifactKind
  phase : BuildArtifactPhase
  osArtifactRef : String
  osArtifactUid : Option String := none
  pvcRef : Option String := none
  file : Option String := none
  reason : Option String := none
  message : Option String := none
  checksum : Option String := none
  ociArtifact : Option OciArtifactStatus := none
  firstBootSealingLayer : Bool := false
  prelaidDiskSizeGiB : Option UInt32 := none
deriving DecidableEq

/-- One of an image's sources, with what a build or an import reads of it. -/
structure ImageSource where
  providerClass : String
  kind : ImageSourceKind
  reference : String := ""
  importFrom : Option String := none
  checksum : Option String := none
deriving DecidableEq

def BuildArtifactPhase.debug : BuildArtifactPhase → String
  | .pending => "Pending"
  | .building => "Building"
  | .ready => "Ready"
  | .failed => "Failed"

def BuildArtifactKind.debug : BuildArtifactKind → String
  | .iso => "Iso"
  | .cloudImage => "CloudImage"

end Banlieue.Imagebuilder
