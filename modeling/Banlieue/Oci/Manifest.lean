import Banlieue.Data.Basics
import Banlieue.Data.Bytes
import Banlieue.Data.SortedMap

namespace Banlieue.Oci

open Banlieue.Data

inductive Error where
  | reference (message : String)
  | registry (status : Nat) (url body : String)
  | digestMismatch (expected actual : String)
  | manifest (message : String)
  | auth (message : String)
  | http (message : String)
  | io (message : String)
deriving DecidableEq

/-! # References -/

def sha256Prefix : String := "sha256:"

def sha256HexLen : Nat := 64

/-- `registry/repository[:tag][@sha256:<hex>]`.  The registry is always explicit. -/
structure Reference where
  registry : String
  repository : String
  tag : Option String := none
  digest : Option String := none
deriving DecidableEq

def isLowerHexDigit (character : Char) : Bool :=
  character.isDigit || ('a' ≤ character && character ≤ 'f')

def isSha256Hex (text : List Char) : Bool :=
  text.length == sha256HexLen && text.all isLowerHexDigit

def isDigest (text : String) : Bool :=
  sha256Prefix.toList.isPrefixOf text.toList && isSha256Hex (text.toList.drop sha256Prefix.length)

def requireDigest (text : String) : Except Error Unit :=
  if isDigest text then .ok ()
  else .error (.reference (debugText text.toList ++ " is not a sha256 digest"))

namespace Reference

def isHost (registry : List Char) : Bool :=
  registry.contains '.' || registry.contains ':' || registry == "localhost".toList

def isRepository (repository : List Char) : Bool :=
  !repository.isEmpty && (repository.splitOn '/').all fun component =>
    !component.isEmpty && component.all fun character =>
      character.isLower || character.isDigit || ['.', '_', '-'].contains character

def isTag (tag : List Char) : Bool :=
  !tag.isEmpty && tag.length ≤ 128 && tag.all fun character =>
    character.isAlphanum || ['.', '_', '-'].contains character

/-- A tag stands after the last colon of the last component of the path. -/
def splitTag (path : List Char) : List Char × Option (List Char) :=
  match rsplitOnce ':' path with
  | some (repository, tag) => if tag.contains '/' then (path, none) else (repository, some tag)
  | none => (path, none)

def splitDigest (text : List Char) : Except String (List Char × Option (List Char)) :=
  match splitOnce '@' text with
  | some (rest, digest) =>
    if isDigest (String.ofList digest) then .ok (rest, some digest)
    else .error "digest must be sha256:<64 hex>"
  | none => .ok (text, none)

def parse (text : String) : Except Error Reference :=
  let bad (why : String) : Except Error Reference :=
    .error (.reference (debugText text.toList ++ ": " ++ why))
  match splitDigest text.toList with
  | .error why => bad why
  | .ok (rest, digest) =>
    match splitOnce '/' rest with
    | none => bad "must start with a registry host"
    | some (registry, path) =>
      if !isHost registry then
        bad "the first component must be a registry host (no implicit Docker Hub)"
      else if !isRepository (splitTag path).1 then bad "repository must be lowercase path components"
      else if !(splitTag path).2.all isTag then bad "invalid tag"
      else
        .ok { registry := String.ofList registry
              repository := String.ofList (splitTag path).1
              tag := (splitTag path).2.map String.ofList
              digest := digest.map String.ofList }

def withDigest (reference : Reference) (digest : String) : Reference :=
  { reference with tag := none, digest := some digest }

def text (reference : Reference) : String :=
  reference.registry ++ "/" ++ reference.repository ++
    (reference.tag.elim "" fun tag => ":" ++ tag) ++ (reference.digest.elim "" fun digest => "@" ++ digest)

end Reference

/-! # Manifests -/

def manifestMediaType : String := "application/vnd.oci.image.manifest.v1+json"

def emptyMediaType : String := "application/vnd.oci.empty.v1+json"

/-- The two bytes of an empty object. -/
def emptyConfig : List UInt8 := [123, 125]

def layerMediaTypeGzip : String := "application/vnd.banlieue.disk.v1+gzip"

/-- The decompressed length.  It is part of the layer's descriptor, so the digest of
the manifest covers it. -/
def annotationUncompressedSize : String := "io.banlieue.disk.size"

def schemaVersion : Nat := 2

structure Descriptor where
  mediaType : String
  digest : String
  size : Nat
  annotations : SortedMap String String := SortedMap.empty
deriving DecidableEq

structure Manifest where
  schemaVersion : Nat
  mediaType : String
  artifactType : Option String
  config : Descriptor
  layers : List Descriptor
  annotations : SortedMap String String := SortedMap.empty
deriving DecidableEq

def sha256Digest (sha256 : List UInt8 → List UInt8) (bytes : List UInt8) : String :=
  sha256Prefix ++ hexEncode (sha256 bytes)

def Manifest.artifact (sha256 : List UInt8 → List UInt8) (artifactType : String) (layer : Descriptor)
    (annotations : SortedMap String String) : Manifest where
  schemaVersion := Oci.schemaVersion
  mediaType := manifestMediaType
  artifactType := some artifactType
  config :=
    { mediaType := emptyMediaType, digest := sha256Digest sha256 emptyConfig, size := emptyConfig.length }
  layers := [layer]
  annotations := annotations

def Manifest.singleLayer (manifest : Manifest) : Except Error Descriptor :=
  match manifest.layers with
  | [layer] =>
    if layer.mediaType = layerMediaTypeGzip then .ok layer
    else .error (.manifest s!"layer media type {layer.mediaType} is not {layerMediaTypeGzip}")
  | layers => .error (.manifest s!"expected one layer, found {layers.length}")

def uncompressedSize (layer : Descriptor) : Except Error Nat :=
  match layer.annotations.get annotationUncompressedSize with
  | none => .error (.manifest s!"layer has no {annotationUncompressedSize}")
  | some text =>
    match parseUnsigned (2 ^ 64) text with
    | none => .error (.manifest s!"{annotationUncompressedSize} is not a size")
    | some size => .ok size

theorem sha256Digest_injective {sha256 : List UInt8 → List UInt8} (injective : Function.Injective sha256) :
    Function.Injective (sha256Digest sha256) := by
  intro first second same
  exact injective (hexEncode_injective ((String.append_right_inj _).mp same))

end Banlieue.Oci
