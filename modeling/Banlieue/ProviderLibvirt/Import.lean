import Banlieue.ProviderLibvirt.Calls

namespace Banlieue.ProviderLibvirt.Import

open Banlieue.Data Banlieue.Data.Program Banlieue.Libvirt

/-! # Importing an image -/

structure ImportArgs where
  vmimage : String
  provider : String
  providerNamespace : String
  pool : String
  source : String
  volumeName : Option String := none
  checksum : Option String := none

inductive ImportPlan where
  | alreadyPresent (key : String)
  | upload
deriving DecidableEq

def rawSuffix : String := ".raw"

def volumeName (vmimage : String) (explicit : Option String) : String :=
  match explicit with
  | some name => name
  | none => if rawSuffix.toList.isSuffixOf vmimage.toList then vmimage else vmimage ++ rawSuffix

def ImportArgs.volume (args : ImportArgs) : String := Import.volumeName args.vmimage args.volumeName

def findPool (pools : List StoragePool) (name : String) : Except Error StoragePool :=
  match pools.find? (·.name == name) with
  | some pool => .ok pool
  | none =>
    .error (.invalid "--pool" ("pool " ++ debugText name.toList ++
      " does not exist on this host; available: [" ++ ", ".intercalate (pools.map StoragePool.name) ++ "]"))

/-- Only the name of the volume is looked at. -/
def plan (volumes : List StorageVol) (volume : String) : ImportPlan :=
  match volumes.find? (·.name == volume) with
  | some found => .alreadyPresent found.key
  | none => .upload

/-! ## Where the host is -/

def defaultTlsPort : Nat := 16514

def localDriverUri : String := "qemu:///system"

/-- An address without a scheme, or with the one that is supported. -/
def endpointRest (endpoint : String) : Except Error (List Char) :=
  match splitOnceText "://".toList endpoint.toList with
  | some (scheme, rest) =>
    if scheme = "qemu+tls".toList then .ok rest
    else
      .error (.invalid "connection.endpoint" ("scheme " ++ debugText scheme ++
        " is not supported; banlieue speaks libvirt over mutual TLS only (qemu+tls://host/system)."))
  | none => .ok endpoint.toList

def parseEndpoint (endpoint : String) : Except Error (String × Nat) :=
  match endpointRest endpoint with
  | .error reason => .error reason
  | .ok rest =>
    -- the path is dropped
    let authority := rest.takeWhile (· != '/')
    if authority.isEmpty then
      .error (.invalid "connection.endpoint" ("no host in " ++ debugText endpoint.toList))
    else
      match rsplitOnce ':' authority with
      | some (host, port) =>
        match parseUnsigned 65536 (String.ofList port) with
        | some port => .ok (String.ofList host, port)
        | none =>
          .error (.invalid "connection.endpoint" ("port " ++ debugText port ++ " in " ++
            debugText endpoint.toList ++ " is not a number"))
      | none => .ok (String.ofList authority, defaultTlsPort)

/-! ## The calls of a run -/

inductive Call where
  | metadata (path : String)
  | openToHash (path : String)
  | readToHash (path : String)
  | buildClient
  | getProvider (providerNamespace name : String)
  | resolveIdentity (providerNamespace provider : String)
  | connectTls (host : String) (port : Nat)
  | connectOpen (uri : String)
  | listAllStoragePools
  | listAllVolumes (pool : StoragePool)
  | createVolume (pool : StoragePool) (document : VolumeDocument)
  | openToUpload (path : String)
  | uploadFile (volume : StorageVol) (path : String) (length : Nat)

def Reply : Call → Type
  | .metadata _ => Except String Nat
  | .openToHash _ => Except String Unit
  | .readToHash _ => Except String (List UInt8)
  | .buildClient => Except String Unit
  | .getProvider _ _ => Except String String
  | .resolveIdentity _ _ => Except String Unit
  | .connectTls _ _ => Except Error Unit
  | .connectOpen _ => Except Error Unit
  | .listAllStoragePools => Except Error (List StoragePool)
  | .listAllVolumes _ => Except Error (List StorageVol)
  | .createVolume _ _ => Except Error StorageVol
  | .openToUpload _ => Except String Unit
  | .uploadFile _ _ _ => Except Error Unit

/-- What went wrong, and while doing what. -/
structure Failure where
  context : Option String := none
  cause : String
deriving DecidableEq

abbrev Run := ExceptT Failure (Program Call Reply)

def ofError {α : Type} (context : Option String) : Except Error α → Except Failure α
  | .ok value => .ok value
  | .error reason => .error ⟨context, reason.text⟩

def ofText {α : Type} (context : String) : Except String α → Except Failure α
  | .ok value => .ok value
  | .error reason => .error ⟨some context, reason⟩

/-- A call, whose reply is read as one that may have failed. -/
def ask {α : Type} (call : Call) (read : Reply call → Except Failure α) : Run α :=
  .mk (do return read (← request call))

def ofPure {α : Type} (value : Except Error α) : Run α := .mk (pure (ofError none value))

def unreadable (path reason : String) : Failure :=
  ⟨none, Error.text (.invalid "--source" ("cannot read " ++ path ++ ": " ++ reason))⟩

def ofRead {α : Type} (path : String) : Except String α → Except Failure α
  | .ok value => .ok value
  | .error reason => .error (unreadable path reason)

/-- An empty file means that nothing was built. -/
def checkLength (path : String) (length : Nat) : Except Error Nat :=
  if length = 0 then .error (.invalid "--source" (path ++ " is empty; the build produced no disk"))
  else .ok length

def sourceLength (path : String) : Run Nat := do
  let length ← ask (.metadata path) (ofRead path)
  ofPure (checkLength path length)

section

variable (sha256 sha512 : List UInt8 → List UInt8)

/-- An algorithm that is not known is refused, not skipped. -/
def digestFor (algorithm : String) : Except Error (List UInt8 → List UInt8) :=
  if algorithm = "sha256" then .ok sha256
  else if algorithm = "sha512" then .ok sha512
  else
    .error (.invalid "--checksum" ("unsupported algorithm " ++ debugText algorithm.toList ++
      " (supported: sha256, sha512); refusing to import an unverified artifact"))

/-- Case does not matter in a digest. -/
def checkDigest (path expected algorithm expectedHex actual : String) : Except Error Unit :=
  if actual.toList.map Char.toLower = expectedHex.toList.map Char.toLower then .ok ()
  else
    .error (.invalid "--checksum" ("checksum mismatch for " ++ path ++ ": expected " ++ expected ++
      ", computed " ++ algorithm ++ ":" ++ actual ++
      "; refusing to import a corrupted or substituted artifact"))

def verifyChecksum (path expected : String) : Run Unit :=
  match splitOnce ':' expected.toList with
  | none =>
    ofPure (.error (.invalid "--checksum" ("expected \x60<alg>:<hex>\x60, got " ++ debugText expected.toList)))
  | some (algorithm, expectedHex) => do
    ask (.openToHash path) (ofRead path)
    let hash ← ofPure (digestFor sha256 sha512 (String.ofList algorithm))
    let bytes ← ask (.readToHash path) (ofRead path)
    ofPure (checkDigest path expected (String.ofList algorithm) (String.ofList expectedHex)
      (hexEncode (hash bytes)))

def verifyIfGiven (path : String) : Option String → Run Unit
  | some expected => verifyChecksum sha256 sha512 path expected
  | none => pure ()

def connect (args : ImportArgs) : Run Unit := do
  ask .buildClient (ofText "constructing kube client")
  let endpoint ← ask (.getProvider args.providerNamespace args.provider)
    (ofText ("reading Provider " ++ args.provider))
  ask (.resolveIdentity args.providerNamespace args.provider) (ofText "resolving libvirt TLS credentials")
  let (host, port) ← ofPure (parseEndpoint endpoint)
  ask (.connectTls host port) (ofError (some ("connecting to " ++ host ++ ":" ++ toString port)))
  ask (.connectOpen localDriverUri) (ofError (some "opening libvirt session"))

/-- The volume is created with the size of the file, and then filled. -/
def uploadSource (args : ImportArgs) (pool : StoragePool) (length : Nat) : Run Unit := do
  let volume ← ask (.createVolume pool (rawVolumeXml args.volume length))
    (ofError (some ("creating volume " ++ args.volume ++ " in pool " ++ pool.name)))
  ask (.openToUpload args.source) (ofText ("opening " ++ args.source))
  ask (.uploadFile volume args.source length)
    (ofError (some ("uploading " ++ toString length ++ " bytes to " ++ args.volume)))

/-- A volume that is there is left alone. -/
def run (args : ImportArgs) : Run Unit := do
  let length ← sourceLength args.source
  verifyIfGiven sha256 sha512 args.source args.checksum
  connect args
  let pools ← ask .listAllStoragePools (ofError (some "listing storage pools"))
  let pool ← ofPure (findPool pools args.pool)
  let existing ← ask (.listAllVolumes pool) (ofError (some ("listing volumes in pool " ++ pool.name)))
  match plan existing args.volume with
  | .alreadyPresent _ => return ()
  | .upload => uploadSource args pool length

end

/-! ## Where a run takes place -/

/-- The host, and the files of the run. -/
structure Site where
  host : Host
  files : String → Option (List UInt8)

/-- What becomes of a call, and the address of the host for the one that asks for it. -/
structure Answer extends Decision where
  endpoint : String := "qemu+tls://kvm-1/system"

def Answer.told {ρ : Type} (answer : Answer) (carriedOut : Except String ρ) : Except String ρ :=
  match answer.fate with
  | .answered => carriedOut
  | _ => .error answer.reason

def streamChunkMax : Nat := 262120

namespace Site

variable (site : Site)

def file (path : String) : Except String (List UInt8) :=
  match site.files path with
  | some bytes => .ok bytes
  | none => .error "No such file or directory (os error 2)"

def listVolumes (pool : StoragePool) : List StorageVol :=
  (site.host.volumes.keys.filter (·.1 == pool.name)).map fun key => site.host.handle key.1 key.2

/-- A file that is shorter than announced ends the transfer after its last full chunk. -/
def uploadFile (answer : Answer) (volume : StorageVol) (path : String) (length : Nat) :
    Except Error Unit × Host :=
  let bytes := (site.files path).getD []
  if bytes.length < length then
    let sent := bytes.length / streamChunkMax * streamChunkMax
    (.error (.libvirt ("protocol violation: source ended after " ++ toString sent ++ " of " ++ toString length ++
      " bytes: early eof")), (site.host.writeVolume volume (bytes.take sent)).2)
  else site.host.uploadVolume answer.toDecision volume (bytes.take length)

/-- The site with the host that a call leaves. -/
def onHost {ρ : Type} (outcome : ρ × Host) : ρ × Site := (outcome.1, { site with host := outcome.2 })

def serve (answer : Answer) : (call : Call) → Reply call × Site
  | .metadata path => (answer.told ((site.file path).map List.length), site)
  | .openToHash path | .openToUpload path => (answer.told ((site.file path).map fun _ => ()), site)
  | .readToHash path => (answer.told (site.file path), site)
  | .buildClient => (answer.told (.ok ()), site)
  | .getProvider _ _ => (answer.told (.ok answer.endpoint), site)
  | .resolveIdentity _ _ => (answer.told (.ok ()), site)
  | .connectTls _ _ | .connectOpen _ => site.onHost (answer.deliver site.host (.ok (), site.host))
  | .listAllStoragePools =>
    site.onHost (answer.deliver site.host (.ok (site.host.pools.map StoragePool.mk), site.host))
  | .listAllVolumes pool => site.onHost (answer.deliver site.host (.ok (site.listVolumes pool), site.host))
  | .createVolume pool document =>
    site.onHost (answer.deliver site.host (site.host.createVolume pool document))
  | .uploadFile volume path length => site.onHost (site.uploadFile answer volume path length)

end Site

abbrev siteBackend : Backend Call Reply := ⟨Site, Answer, Site.serve⟩

/-! ## Runs that fill what they create -/

/-- A volume that was created is filled to its end: the run hears of the volume, and
nothing stops it or cuts the upload short. -/
def Uncut (_ : Site) (call : Call) (answer : Option Answer) : Prop :=
  match call with
  | .createVolume _ _ => answer.map (·.fate) ≠ some .unanswered
  | .openToUpload _ => answer.map (·.fate) = some .answered
  | .uploadFile _ _ _ => answer.map (·.fate) = some .answered ∨ answer.map (·.fate) = some .unanswered
  | _ => True

instance (site : Site) (call : Call) (answer : Option Answer) : Decidable (Uncut site call answer) :=
  match call with
  | .createVolume _ _ => inferInstanceAs (Decidable (_ ≠ _))
  | .openToUpload _ => inferInstanceAs (Decidable (_ = _))
  | .uploadFile _ _ _ => inferInstanceAs (Decidable (_ ∨ _))
  | .metadata _ | .openToHash _ | .readToHash _ | .buildClient | .getProvider _ _ | .resolveIdentity _ _
  | .connectTls _ _ | .connectOpen _ | .listAllStoragePools | .listAllVolumes _ =>
    inferInstanceAs (Decidable True)

abbrev Secured {α : Type} (safe : Site → Prop) (run : Run α) (site : Site) (post : α → Site → Prop) : Prop :=
  @Secures Call Reply α Failure siteBackend Uncut safe run site post

/-- The volume, if it is there, holds the image. -/
structure Held (files : String → Option (List UInt8)) (pool volume : String) (image : List UInt8)
    (site : Site) : Prop where
  files : site.files = files
  whole : ∀ stored, site.host.volumes.lookup (pool, volume) = some stored → stored.content = image

/-- The calls that change nothing. -/
def Reads : Call → Prop
  | .createVolume _ _ | .uploadFile _ _ _ => False
  | _ => True

variable {site : Site} {safe : Site → Prop} {answer : Answer}
  {call : Call} {result : Except Error α} {value : α} {args : ImportArgs}
  {context : String} {length : Nat}

theorem serve_reads (reads : Reads call) : (site.serve answer call).2 = site := by
  cases call
  case createVolume => exact reads.elim
  case uploadFile => exact reads.elim
  case connectTls | connectOpen | listAllStoragePools | listAllVolumes =>
    exact Decision.deliver_state (P := fun last => { site with host := last } = site) rfl rfl
  all_goals rfl

variable {α : Type}

theorem secured_ask {read : Reply call → Except Failure α} {post : α → Site → Prop}
    (stopped : Uncut site call none → safe site) (served : ∀ answer, Uncut site call (some answer) →
      either post (fun _ => safe) (read (site.serve answer call).1) (site.serve answer call).2) :
    Secured safe (ask call read) site post :=
  Secures.consult stopped served

theorem secured_reads {read : Reply call → Except Failure α} (reads : Reads call) (holds : safe site) :
    Secured safe (ask call read) site fun value last =>
      last = site ∧ ∃ answer, read (site.serve answer call).1 = .ok value :=
  secured_ask (fun _ => holds) fun answer _ =>
    either_intro (fun _ same => ⟨serve_reads reads, answer, same⟩) fun _ _ => (serve_reads reads).symm ▸ holds

theorem secured_ofPure {value : Except Error α} (holds : safe site) :
    Secured safe (ofPure value) site fun result last => last = site ∧ value = .ok result := by
  cases value with
  | ok value => exact Secures.pure ⟨rfl, rfl⟩
  | error reason => exact Secures.throw holds

/-! ### What comes before the volume -/

theorem secured_quiet {run : Run α} (quiet : Heeds (permitting Reads) run) (holds : safe site) :
    Secured safe run site fun _ last => last = site := by
  refine quiet.stays (fun call reads => ⟨fun _ => holds, ?_⟩) (fun _ => rfl) fun _ => holds
  rintro _ _ ⟨answer, -, -, rfl⟩
  exact serve_reads reads

@[local simp]
theorem heeds_ofPure (value : Except Error α) : Heeds (permitting Reads) (ofPure value) := by
  cases value <;> rfl

attribute [local simp] ask Reads

theorem Answer.told_ok {ρ : Type} {carriedOut : Except String ρ} {value : ρ}
    (replied : answer.told carriedOut = .ok value) : carriedOut = .ok value := by
  unfold Answer.told at replied
  split at replied
  · exact replied
  · cases replied

theorem ofError_ok {context : Option String} (same : ofError context result = .ok value) : result = .ok value := by
  cases result with
  | ok result => exact congrArg _ (Except.ok.inj same)
  | error reason => cases same

theorem ofError_error {context : Option String} {failure : Failure}
    (same : ofError context result = .error failure) : ∃ reason, result = .error reason := by
  cases result with
  | ok result => cases same
  | error reason => exact ⟨reason, rfl⟩

variable {path : String}

theorem ofRead_ok {result : Except String α} {value : α} (same : ofRead path result = .ok value) : result = .ok value := by
  cases result with
  | ok result => exact congrArg _ (Except.ok.inj same)
  | error reason => cases same

theorem secured_sourceLength {image : List UInt8} (found : site.files path = some image) (holds : safe site) :
    Secured safe (sourceLength path) site fun length last => last = site ∧ length = image.length := by
  refine Secures.bind (secured_reads (by trivial) holds) ?_
  rintro length last ⟨rfl, answer, told⟩
  have same : (last.file path).map List.length = .ok length := Answer.told_ok (ofRead_ok told)
  simp only [Site.file, found, Except.map, Except.ok.injEq] at same
  refine (secured_ofPure holds).mono ?_
  rintro checked last ⟨rfl, passed⟩
  refine ⟨rfl, ?_⟩
  rw [checkLength] at passed
  split at passed
  · cases passed
  · exact (Except.ok.inj passed).symm.trans same.symm

theorem secured_verifyIfGiven {sha256 sha512 : List UInt8 → List UInt8} {checksum : Option String} (holds : safe site) :
    Secured safe (verifyIfGiven sha256 sha512 path checksum) site fun _ last => last = site := by
  refine secured_quiet ?_ holds
  cases checksum with
  | none => rfl
  | some expected =>
    simp only [verifyIfGiven, verifyChecksum]
    split <;> simp

theorem secured_connect (holds : safe site) : Secured safe (connect args) site fun _ last => last = site :=
  secured_quiet (by simp [connect]) holds

theorem findPool_name {pools : List StoragePool} {name : String} {pool : StoragePool}
    (found : findPool pools name = .ok pool) : pool.name = name := by
  unfold findPool at found
  split at found
  · rename_i first
    obtain rfl := Except.ok.inj found
    simpa using List.find?_some first
  · cases found

/-! ### The volume -/

theorem plan_listVolumes (pool : StoragePool) (volume : String) :
    (∃ key, plan (site.listVolumes pool) volume = .alreadyPresent key) ↔
      (site.host.volumes.lookup (pool.name, volume)).isSome := by
  have listed : (∃ found ∈ site.listVolumes pool, found.name = volume) ↔
      (pool.name, volume) ∈ site.host.volumes.keys := by
    simp only [Site.listVolumes, List.mem_map, List.mem_filter, beq_iff_eq]
    constructor
    · rintro ⟨_, ⟨key, ⟨member, same⟩, rfl⟩, rfl⟩
      rwa [← same]
    · intro member
      exact ⟨_, ⟨_, ⟨member, rfl⟩, rfl⟩, rfl⟩
  rw [AList.lookup_isSome, AList.mem_keys, ← listed, plan]
  cases found : (site.listVolumes pool).find? (·.name == volume) with
  | some first =>
    have named : first.name = volume := by simpa using List.find?_some found
    exact ⟨fun _ => ⟨first, List.mem_of_find?_eq_some found, named⟩, fun _ => ⟨_, rfl⟩⟩
  | none =>
    refine ⟨fun present => by simp at present, ?_⟩
    rintro ⟨first, member, named⟩
    exact absurd named (by simpa using List.find?_eq_none.mp found first member)

variable {files : String → Option (List UInt8)} {image : List UInt8}

/-- The volume is there and holds the image. -/
def Stored (pool volume : String) (image : List UInt8) (site : Site) : Prop :=
  ∃ stored, site.host.volumes.lookup (pool, volume) = some stored ∧ stored.content = image

def Site.withVolume (site : Site) (pool volume : String) (stored : Volume) : Site :=
  { site with host := { site.host with volumes := site.host.volumes.insert (pool, volume) stored } }

/-- A volume that was just created for the image. -/
def Site.withBlank (site : Site) (pool volume : String) (length : Nat) : Site :=
  site.withVolume pool volume (.blank (rawVolumeXml volume length))

variable {volume : String} {pool : String}

theorem Stored.held (stored : Stored pool volume image site) (same : site.files = files) :
    Held files pool volume image site := by
  obtain ⟨volume, found, whole⟩ := stored
  exact ⟨same, fun other present => (Option.some.inj (found.symm.trans present)) ▸ whole⟩

theorem secured_create {pool : StoragePool} (held : Held files pool.name volume image site) :
    Secured (Held files pool.name volume image)
      (ask (.createVolume pool (rawVolumeXml volume length)) (ofError (some context))) site fun created last =>
        created = site.host.handle pool.name volume ∧ last = site.withBlank pool.name volume length := by
  refine secured_ask (fun _ => held) fun answer heard =>
    either_intro (fun created same => ?_) fun reason same => ?_
  · obtain ⟨-, kept, replied⟩ := Decision.deliver_ok (ofError_ok same)
    obtain ⟨rfl, last⟩ := Host.createVolume_ok replied
    refine ⟨rfl, ?_⟩
    change Site.mk _ _ = _
    rw [congrArg Prod.snd kept, last]
    rfl
  · obtain ⟨_, failed⟩ := ofError_error same
    have unchanged := Host.deliver_createVolume_error (fun lost => heard (congrArg some lost)) failed
    have last : (site.serve answer (.createVolume pool (rawVolumeXml volume length))).2 = site := by
      simp only [Site.serve, Site.onHost, unchanged]
    exact last.symm ▸ held

variable (found : site.files path = some image)

include found

theorem secured_open : Secured (Held files pool volume image) (ask (.openToUpload path) (ofText context))
      (site.withBlank pool volume length) fun _ last => last = site.withBlank pool volume length := by
  refine secured_ask (fun stopped => absurd stopped nofun) fun answer answered =>
    either_intro (fun _ _ => rfl) fun reason failed => ?_
  have fate : answer.fate = .answered := Option.some.inj answered
  have told : ofText context (answer.told ((site.file path).map fun _ => ())) = .error reason := failed
  simp only [Answer.told, fate, Site.file, found, Except.map, ofText] at told
  cases told

theorem serve_uploadFile (arrived : answer.fate = .answered ∨ answer.fate = .unanswered) :
    ((site.withBlank pool volume image.length).serve answer
        (.uploadFile (site.host.handle pool volume) path image.length)).2 =
      site.withVolume pool volume ((Volume.blank (rawVolumeXml volume image.length)).write image) := by
  rcases arrived with fate | fate <;>
    simp [Site.serve, Site.onHost, Site.uploadFile, Site.withBlank, Site.withVolume, found, Host.uploadVolume,
      Decision.deliver, fate, Host.writeVolume, Host.handle, AList.insert_insert]

theorem secured_upload (held : Held files pool volume image site) : Secured (Held files pool volume image)
      (ask (.uploadFile (site.host.handle pool volume) path image.length) (ofError (some context)))
      (site.withBlank pool volume image.length) fun _ last =>
        Held files pool volume image last ∧ Stored pool volume image last := by
  refine secured_ask (fun stopped => absurd stopped (by rintro (lost | lost) <;> cases lost)) fun answer arrived => ?_
  have stored : Stored pool volume image
      (site.withVolume pool volume ((Volume.blank (rawVolumeXml volume image.length)).write image)) :=
    ⟨_, AList.lookup_insert _, Host.write_blank volume image⟩
  rw [serve_uploadFile found (arrived.imp Option.some.inj Option.some.inj)]
  exact either_intro (fun _ _ => ⟨stored.held held.files, stored⟩) fun _ _ => stored.held held.files

omit found

theorem secured_uploadSource {pool : StoragePool}
    (found : site.files args.source = some image) (held : Held files pool.name args.volume image site) :
    Secured (Held files pool.name args.volume image) (uploadSource args pool image.length) site fun _ last =>
      Held files pool.name args.volume image last ∧ Stored pool.name args.volume image last := by
  refine Secures.bind (secured_create held) ?_
  rintro created last ⟨rfl, rfl⟩
  refine Secures.bind (secured_open found) ?_
  rintro _ last rfl
  exact secured_upload found held

/-! ### Whole runs -/

section

variable {sha256 sha512 : List UInt8 → List UInt8}

theorem secured_run {args : ImportArgs} (found : files args.source = some image)
    (held : Held files args.pool args.volume image site) :
    Secured (Held files args.pool args.volume image) (run sha256 sha512 args) site fun _ last =>
      Held files args.pool args.volume image last ∧ Stored args.pool args.volume image last := by
  have source : site.files args.source = some image := held.files ▸ found
  refine Secures.bind (secured_sourceLength source held) ?_
  rintro length last ⟨rfl, rfl⟩
  refine Secures.bind (secured_verifyIfGiven held) ?_
  rintro _ last rfl
  refine Secures.bind (secured_connect held) ?_
  rintro _ last rfl
  refine Secures.bind (secured_reads (by trivial) held) ?_
  rintro pools last ⟨rfl, -⟩
  refine Secures.bind (secured_ofPure held) ?_
  rintro pool last ⟨rfl, chosen⟩
  have named := findPool_name chosen
  refine Secures.bind (secured_reads (by trivial) held) ?_
  rintro existing last ⟨rfl, answer, told⟩
  obtain ⟨-, -, told⟩ := Decision.deliver_ok (ofError_ok told)
  obtain rfl := Except.ok.inj told
  rw [← named] at held ⊢
  cases planned : plan (last.listVolumes pool) args.volume with
  | alreadyPresent key =>
    obtain ⟨stored, present⟩ := Option.isSome_iff_exists.mp ((plan_listVolumes pool args.volume).mp ⟨key, planned⟩)
    exact Secures.pure ⟨held, stored, present, held.whole stored present⟩
  | upload => exact secured_uploadSource source held

structure ImportRun where
  args : ImportArgs
  answers : List Answer

def ImportRun.attempt (sha256 sha512 : List UInt8 → List UInt8) (importRun : ImportRun) :
    Attempt siteBackend (Except Failure Unit) :=
  ⟨(run sha256 sha512 importRun.args).run, importRun.answers⟩

/-- The run is one for this volume, from a file with this image. -/
structure ImportRun.For (files : String → Option (List UInt8)) (pool volume : String) (image : List UInt8)
    (importRun : ImportRun) : Prop where
  pool : importRun.args.pool = pool
  volume : importRun.args.volume = volume
  source : files importRun.args.source = some image

/-- Where every run that creates the volume goes on to fill it, a run that succeeds leaves
the image in it, whatever became of the runs before. -/
theorem imported_whole (sha256 sha512 : List UInt8 → List UInt8) (pool volume : String) (image : List UInt8)
    (site : Site) (runs : List ImportRun) (last : ImportRun)
    (own : ∀ importRun ∈ runs ++ [last], importRun.For site.files pool volume image)
    (fresh : site.host.volumes.lookup (pool, volume) = none)
    (uncut : Attempt.AllWithin Uncut ((runs ++ [last]).map (ImportRun.attempt sha256 sha512)) site)
    (returned : (last.attempt sha256 sha512).result
      (Attempt.lastOf (runs.map (ImportRun.attempt sha256 sha512)) site) = some (.ok ())) :
    Stored pool volume image ((last.attempt sha256 sha512).last
      (Attempt.lastOf (runs.map (ImportRun.attempt sha256 sha512)) site)) := by
  rw [List.map_append] at uncut
  obtain ⟨before, within, -⟩ := Attempt.AllWithin.split uncut
  have held : Held site.files pool volume image
      (Attempt.lastOf (runs.map (ImportRun.attempt sha256 sha512)) site) := by
    refine before.safe_lastOf ?_ ⟨rfl, fun stored present => ?_⟩
    · intro attempt member site held
      obtain ⟨importRun, listed, rfl⟩ := List.mem_map.mp member
      obtain ⟨rfl, rfl, found⟩ := own importRun (List.mem_append_left _ listed)
      exact Secures.mono (secured_run found held) fun _ _ reached => reached.1
    · rw [fresh] at present
      cases present
  obtain ⟨rfl, rfl, found⟩ := own last (List.mem_append_right _ List.mem_cons_self)
  exact ((Secures.attempt (secured_run found held) within).1 () returned).2

end

/-! ### An upload that fails -/

/-- A host without volumes, and an image of three bytes. -/
def smallSite : Site where
  host :=
    { path := fun pool name => "/var/lib/" ++ pool ++ "/" ++ name
      pools := ["default"]
      volumes := ∅
      domains := ∅ }
  files path := if path = "/artifacts/alpine.raw" then some [1, 2, 3] else none

def alpineArgs : ImportArgs where
  vmimage := "alpine"
  provider := "kvm-1"
  providerNamespace := "banlieue-system"
  pool := "default"
  source := "/artifacts/alpine.raw"

/-- A run whose calls meet these fates, one after the other. -/
def runOf (fates : List Fate) : ImportRun := ⟨alpineArgs, fates.map fun fate => { fate := fate }⟩

theorem runOf_for (fates : List Fate) : (runOf fates).For smallSite.files "default" "alpine.raw" [1, 2, 3] := by
  have named : alpineArgs.volume = "alpine.raw" := by decide +kernel
  exact ⟨rfl, named, rfl⟩

/-- A first run whose volume is never created, and one that goes through. -/
theorem imported_after_failed_create :
    Stored "default" "alpine.raw" [1, 2, 3] (((runOf (List.replicate 11 .answered)).attempt id id).last
      (Attempt.lastOf ([runOf (List.replicate 8 .answered ++ [.dropped])].map (ImportRun.attempt id id))
        smallSite)) := by
  have own : ∀ importRun ∈ [runOf (List.replicate 8 .answered ++ [.dropped])] ++
      [runOf (List.replicate 11 .answered)], importRun.For smallSite.files "default" "alpine.raw" [1, 2, 3] := by
    intro importRun member
    rcases List.mem_append.mp member with own | own <;> rw [List.mem_singleton.mp own] <;> exact runOf_for _
  exact imported_whole id id "default" "alpine.raw" [1, 2, 3] smallSite _ _ own (AList.lookup_empty _)
    (by decide +kernel) (by decide +kernel)

/-- After an upload that never arrived, the next run succeeds and leaves zeros. -/
theorem blank_import_succeeds :
    ((runOf (List.replicate 8 .answered)).attempt id id).result
        (Attempt.lastOf ([runOf (List.replicate 10 .answered ++ [.dropped])].map (ImportRun.attempt id id))
          smallSite) = some (.ok ()) ∧
      ¬ Stored "default" "alpine.raw" [1, 2, 3] (((runOf (List.replicate 8 .answered)).attempt id id).last
        (Attempt.lastOf ([runOf (List.replicate 10 .answered ++ [.dropped])].map (ImportRun.attempt id id))
          smallSite)) := by
  refine ⟨by decide +kernel, ?_⟩
  have content : ((((runOf (List.replicate 8 .answered)).attempt id id).last
      (Attempt.lastOf ([runOf (List.replicate 10 .answered ++ [.dropped])].map (ImportRun.attempt id id))
        smallSite)).host.volumes.lookup ("default", "alpine.raw")).map Volume.content = some [0, 0, 0] := by
    decide +kernel
  rintro ⟨stored, found, whole⟩
  rw [found, Option.map_some, whole] at content
  exact absurd content (by decide)

end Banlieue.ProviderLibvirt.Import
