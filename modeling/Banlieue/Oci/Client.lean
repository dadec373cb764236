import Banlieue.Oci.Sparse

namespace Banlieue.Oci

open Banlieue.Data Banlieue.Data.Program

/-! # Authentication -/

structure Credentials where
  username : Option String := none
  password : Option String := none
deriving DecidableEq

inductive Challenge where
  | basic
  | bearer (realm : String) (service scope : Option String)
deriving DecidableEq

def trimStart (text : List Char) : List Char := text.dropWhile Char.isWhitespace

def trim (text : List Char) : List Char := (trimStart (trimStart text).reverse).reverse

/-- A value, which may be quoted and then hold commas, and what follows it. -/
def splitValue (text : List Char) : List Char × List Char :=
  match text with
  | '"' :: quoted => (splitOnce '"' quoted).getD (quoted, [])
  | plain =>
    match splitOnce ',' plain with
    | some (value, rest) => (trim value, rest)
    | none => (trim plain, [])

/-- Every pair takes at least its equals sign, so the text is long enough as fuel. -/
def splitPairs : Nat → List Char → List (List Char × List Char)
  | 0, _ => []
  | fuel + 1, text =>
    if text.isEmpty then []
    else
      match splitOnce '=' text with
      | none => []
      | some (key, after) =>
        let (value, rest) := splitValue (trimStart after)
        (trim ((trim key).dropWhile (· == ',')), value) ::
          splitPairs fuel (trimStart ((trimStart rest).dropWhile (· == ',')))

def splitParams (params : List Char) : List (List Char × List Char) :=
  splitPairs params.length (trim params)

/-- The last value given for a key, whatever its case. -/
def paramOf (params : List (List Char × List Char)) (key : String) : Option String :=
  (params.reverse.find? fun param => param.1.map Char.toLower == key.toList).map
    fun param => String.ofList param.2

def parseChallenge (header : String) : Except Error Challenge :=
  let (scheme, params) := (splitOnce ' ' (trim header.toList)).getD (trim header.toList, [])
  if scheme.map Char.toLower = "basic".toList then .ok .basic
  else if scheme.map Char.toLower ≠ "bearer".toList then
    .error (.auth ("unsupported scheme " ++ debugText scheme))
  else
    let pairs := splitParams params
    match paramOf pairs "realm" with
    | none => .error (.auth "Bearer challenge without realm")
    | some realm => .ok (.bearer realm (paramOf pairs "service") (paramOf pairs "scope"))

def percentEncode (value : String) : String :=
  let upper (digit : Nat) : Char := if digit < 10 then .ofNat (48 + digit) else .ofNat (55 + digit)
  let encode (byte : UInt8) : List Char :=
    let character := Char.ofNat byte.toNat
    if character.isAlphanum || ['-', '_', '.', '~'].contains character then [character]
    else ['%', upper (byte.toNat / 16), upper (byte.toNat % 16)]
  String.ofList (value.toUTF8.toList.flatMap encode)

/-! # What the client is built on -/

/-- A decoder takes chunks in and passes pieces on. -/
structure GzStream where
  State : Type
  start : State
  write : State → List UInt8 → Except String (State × List (List UInt8))
  finish : State → Except String (List (List UInt8))

def GzStream.feed (stream : GzStream) :
    stream.State → List (List UInt8) → Except String (stream.State × List (List UInt8))
  | state, [] => .ok (state, [])
  | state, chunk :: chunks => do
    let (state, first) ← stream.write state chunk
    let (state, rest) ← stream.feed state chunks
    return (state, first ++ rest)

def GzStream.decode (stream : GzStream) (chunks : List (List UInt8)) : Except String (List (List UInt8)) := do
  let (state, pieces) ← stream.feed stream.start chunks
  return pieces ++ (← stream.finish state)

/-- However the stream is cut into chunks, the pieces are its decompression. -/
structure GzDecoder extends GzStream where
  decompress : List UInt8 → Option (List UInt8)
  sound : ∀ chunks pieces, toGzStream.decode chunks = .ok pieces →
    decompress chunks.flatten = some pieces.flatten

structure Codecs where
  sha256 : List UInt8 → List UInt8
  gzip : GzDecoder
  /-- The text of a body, as far as it is one. -/
  text : List UInt8 → String
  parseManifest : List UInt8 → Except String Manifest
  encodeManifest : Manifest → Except String (List UInt8)
  /-- The fields `token` and `access_token` of a reply. -/
  parseToken : List UInt8 → Except String (Option String × Option String)

structure Client where
  codecs : Codecs
  credentials : Credentials
  plainHttp : Bool

abbrev Tokens := String → Option Authorization

structure Pushed where
  reference : Reference
  layerDigest : String
  layerSize : Nat

structure Pulled where
  path : String
  len : Nat
  annotations : SortedMap String String
deriving DecidableEq

def errorBodyMax : Nat := 512

def manifestMax : Nat := 4 * 1024 * 1024

def partialSuffix : String := ".partial"

def collect : List (Except String (List UInt8)) → Except String (List UInt8)
  | [] => .ok []
  | .error why :: _ => .error why
  | .ok chunk :: chunks => (collect chunks).map (chunk ++ ·)

def Response.bytes (response : Response) : Except Error (List UInt8) :=
  (collect response.body).mapError .http

def Response.isSuccess (response : Response) : Bool := 200 ≤ response.status && response.status < 300

namespace Client

variable (client : Client)

def scheme : String := if client.plainHttp then "http" else "https"

def origin (reference : Reference) : String := client.scheme ++ "://" ++ reference.registry

def base (reference : Reference) : String :=
  client.scheme ++ "://" ++ reference.registry ++ "/v2/" ++ reference.repository

def basic : Option Authorization :=
  client.credentials.password.map (.basic (client.credentials.username.getD ""))

def check (response : Response) (url : String) : Except Error Response :=
  if response.isSuccess then .ok response
  else
    let body := (collect response.body).toOption.elim "" client.codecs.text
    .error (.registry response.status url (String.ofList (body.toList.take errorBodyMax)))

def tokenUrl (realm : String) (service : Option String) (scope : String) : String :=
  realm ++ (if realm.toList.contains '?' then "&" else "?") ++ "scope=" ++ percentEncode scope ++
    (service.elim "" fun name => "&service=" ++ percentEncode name)

def readToken (realm : String) (response : Response) : Except Error Authorization := do
  let response ← client.check response realm
  let bytes ← response.bytes
  let (token, accessToken) ← (client.codecs.parseToken bytes).mapError fun why => .auth s!"token response: {why}"
  match token.or accessToken with
  | some token => .ok (.bearer token)
  | none => .error (.auth s!"{realm} returned no token")

def authorize (challenge : Challenge) (scope : String) (tokens : Tokens) : Pass (Authorization × Tokens) :=
  match challenge with
  | .basic =>
    match client.basic with
    | some authorization => pure (authorization, tokens)
    | none => throw (.auth "registry wants Basic auth; no credentials configured")
  | .bearer realm service challenged => do
    let scope := challenged.getD scope
    let response ← exchange
      { method := .get, url := tokenUrl realm service scope, authorization := client.basic }
    let authorization ← ofExcept (client.readToken realm response)
    return (authorization, fun other => if other = scope then some authorization else tokens other)

def challengeOf (response : Response) : Except Error Challenge :=
  match response.wwwAuthenticate with
  | none => .error (.auth "401 without WWW-Authenticate")
  | some header => parseChallenge header

/-- Ask again with what the challenge wants. -/
def answerChallenge (scope : String) (asked : Request) (tokens : Tokens) (refused : Response) :
    Pass (Response × Tokens) := do
  let challenge ← ofExcept (challengeOf refused)
  let (authorization, tokens) ← client.authorize challenge scope tokens
  let response ← exchange { asked with authorization := some authorization }
  return (response, tokens)

def unauthorized : Nat := 401

/-- Send a request, answering one challenge. -/
def send (scope : String) (asked : Request) (tokens : Tokens) : Pass (Response × Tokens) := do
  let response ← exchange { asked with authorization := tokens scope }
  if response.status = unauthorized then client.answerChallenge scope asked tokens response
  else pure (response, tokens)

/-! ## Pushing -/

/-- Where an upload goes on, as the registry said. -/
def resolveLocation (reference : Reference) (location : String) : String :=
  if "http".toList.isPrefixOf location.toList then location else client.origin reference ++ location

def uploadUrl (reference : Reference) (digest location : String) : String :=
  let url := client.resolveLocation reference location
  url ++ (if url.toList.contains '?' then "&" else "?") ++ "digest=" ++ digest

def startUrl (reference : Reference) : String := client.base reference ++ "/blobs/uploads/"

def locationOf (response : Response) : Except Error String :=
  match response.location with
  | some location => .ok location
  | none => .error (.manifest "upload start returned no Location")

def pushScope (reference : Reference) : String := "repository:" ++ reference.repository ++ ":pull,push"

def pullScope (reference : Reference) : String := "repository:" ++ reference.repository ++ ":pull"

def uploadBlob (reference : Reference) (digest : String) (bytes : List UInt8) (tokens : Tokens) :
    Pass Tokens := do
  let (started, tokens) ← client.send (pushScope reference)
    { method := .post, url := client.startUrl reference, contentLength := some 0 } tokens
  let started ← ofExcept (client.check started (client.startUrl reference))
  let location ← ofExcept (locationOf started)
  let url := client.uploadUrl reference digest location
  let (response, tokens) ← client.send (pushScope reference)
    { method := .put, url := url, contentType := some "application/octet-stream",
      contentLength := some bytes.length, body := bytes } tokens
  let _ ← ofExcept (client.check response url)
  return tokens

/-- Upload a blob unless the registry has it. -/
def putBlob (reference : Reference) (digest : String) (bytes : List UInt8) (tokens : Tokens) : Pass Tokens := do
  let (found, tokens) ← client.send (pushScope reference)
    { method := .head, url := client.base reference ++ "/blobs/" ++ digest } tokens
  if found.isSuccess then pure tokens else client.uploadBlob reference digest bytes tokens

def pushFile (target : Reference) (path scratch artifactType : String) (annotations : SortedMap String String)
    (tokens : Tokens) : Pass Pushed := do
  let (sourceLen, compressed) ← consult (.compressedCopy path scratch) (Except.mapError .io)
  let layerDigest := sha256Digest client.codecs.sha256 compressed
  let tokens ← client.putBlob target (sha256Digest client.codecs.sha256 emptyConfig) emptyConfig tokens
  let tokens ← client.putBlob target layerDigest compressed tokens
  let manifest := Manifest.artifact client.codecs.sha256 artifactType
    { mediaType := layerMediaTypeGzip, digest := layerDigest, size := compressed.length,
      annotations := SortedMap.empty.insert annotationUncompressedSize (toString sourceLen) } annotations
  let body ← ofExcept ((client.codecs.encodeManifest manifest).mapError .manifest)
  let manifestDigest := sha256Digest client.codecs.sha256 body
  let url := client.base target ++ "/manifests/" ++ target.tag.getD manifestDigest
  let (response, _) ← client.send (pushScope target)
    { method := .put, url := url, contentType := some manifestMediaType, body := body } tokens
  let _ ← ofExcept (client.check response url)
  return { reference := target.withDigest manifestDigest, layerDigest := layerDigest,
           layerSize := compressed.length }

/-! ## Pulling -/

def addressedBy (reference : Reference) : Except Error String :=
  match reference.digest with
  | none => .error (.reference s!"{reference.text}: pull is by digest only")
  | some digest => (requireDigest digest).map fun _ => digest

/-- The manifest in a response, when it is what the digest stands for. -/
def verifyManifest (digest : String) (bytes : List UInt8) : Except Error Manifest :=
  if bytes.length > manifestMax then .error (.manifest s!"{bytes.length} bytes is too large")
  else
    let actual := sha256Digest client.codecs.sha256 bytes
    if actual ≠ digest then .error (.digestMismatch digest actual)
    else (client.codecs.parseManifest bytes).mapError .manifest

def manifest (reference : Reference) (tokens : Tokens) : Pass (Manifest × Tokens) := do
  let digest ← ofExcept (addressedBy reference)
  let url := client.base reference ++ "/manifests/" ++ digest
  let (response, tokens) ← client.send (pullScope reference)
    { method := .get, url := url, accept := some manifestMediaType } tokens
  let response ← ofExcept (client.check response url)
  let bytes ← ofExcept response.bytes
  let found ← ofExcept (client.verifyManifest digest bytes)
  return (found, tokens)

/-- What the loop over the chunks of a layer carries along. -/
structure Download (State : Type) where
  hashed : List UInt8 := []
  decoder : State
  writer : SparseWriter

/-- Take in one chunk: no more than the declared size is accepted. -/
def receive (layer : Descriptor) (download : Download client.codecs.gzip.State)
    (chunk : Except String (List UInt8)) : Pass (Download client.codecs.gzip.State) := do
  let chunk ← ofExcept (chunk.mapError .http)
  if download.hashed.length + chunk.length > layer.size then
    throw (.manifest s!"layer is larger than its declared {layer.size} bytes")
  else do
    let (decoder, pieces) ← ofExcept ((client.codecs.gzip.write download.decoder chunk).mapError .io)
    let writer ← download.writer.writeEach pieces
    return { hashed := download.hashed ++ chunk, decoder := decoder, writer := writer }

def receiveAll (layer : Descriptor) :
    Download client.codecs.gzip.State → List (Except String (List UInt8)) →
      Pass (Download client.codecs.gzip.State)
  | download, [] => pure download
  | download, chunk :: chunks => do
    let download ← client.receive layer download chunk
    receiveAll layer download chunks

/-- Check the digest before the last pieces are written, and the length after them. -/
def conclude (layer : Descriptor) (expectedLen : Nat) (download : Download client.codecs.gzip.State) :
    Pass Nat := do
  let actual := sha256Digest client.codecs.sha256 download.hashed
  if actual ≠ layer.digest then throw (.digestMismatch layer.digest actual)
  else do
    let pieces ← ofExcept ((client.codecs.gzip.finish download.decoder).mapError .io)
    let writer ← download.writer.writeEach pieces
    let len ← writer.finish
    if len ≠ expectedLen then
      throw (.manifest s!"layer decompressed to {len} bytes, declared {expectedLen}")
    else do
      perform (.syncAll writer.path)
      return len

def fetchLayer (layer : Descriptor) (expectedLen : Nat) (path : String)
    (chunks : List (Except String (List UInt8))) : Pass Nat := do
  let download ← client.receiveAll layer
    { decoder := client.codecs.gzip.start, writer := { path := path, limit := expectedLen } } chunks
  client.conclude layer expectedLen download

/-- An operation whose result is not looked at. -/
def attempt (call : FileCall) : Pass Unit := consult (.file call) fun _ => .ok ()

/-- Only a layer that was verified gets its name. -/
def place (path dest : String) (manifest : Manifest) : Except Error Nat → Pass Pulled
  | .ok len => do
    perform (.rename path dest)
    return { path := dest, len := len, annotations := manifest.annotations }
  | .error reason => do
    attempt (.removeFile path)
    throw reason

def pullFile (reference : Reference) (dest : String) (tokens : Tokens) : Pass Pulled := do
  let (manifest, tokens) ← client.manifest reference tokens
  let layer ← ofExcept manifest.singleLayer
  ofExcept (requireDigest layer.digest)
  let expectedLen ← ofExcept (uncompressedSize layer)
  let url := client.base reference ++ "/blobs/" ++ layer.digest
  let (response, _) ← client.send (pullScope reference) { method := .get, url := url } tokens
  let response ← ofExcept (client.check response url)
  let path := dest ++ partialSuffix
  attempt (.removeFile path)
  perform (.createNew path)
  let outcome ← ExceptT.lift (client.fetchLayer layer expectedLen path response.body).run
  place path dest manifest outcome

end Client

end Banlieue.Oci
