import Banlieue.Oci.Client

namespace Banlieue.Oci

open Banlieue.Data Banlieue.Data.Program

/-! # What a pull leaves -/

/-- The contents are the decompression of the layer a manifest names, as long as the
manifest says, and the digest is that of the manifest. -/
def Verified (codecs : Codecs) (digest : String) (contents : List UInt8) : Prop :=
  ∃ manifestBytes manifest layer layerBytes,
    sha256Digest codecs.sha256 manifestBytes = digest ∧
    codecs.parseManifest manifestBytes = .ok manifest ∧ manifest.singleLayer = .ok layer ∧
    sha256Digest codecs.sha256 layerBytes = layer.digest ∧
    codecs.gzip.decompress layerBytes = some contents ∧ uncompressedSize layer = .ok contents.length

variable {digest : String}

theorem Verified.unique {codecs : Codecs} (injective : Function.Injective codecs.sha256)
    {contents contents' : List UInt8} (verified : Verified codecs digest contents)
    (verified' : Verified codecs digest contents') : contents = contents' := by
  obtain ⟨bytes, manifest, layer, stored, hashed, parsed, single, hashedLayer, unpacked, _⟩ := verified
  obtain ⟨bytes', manifest', layer', stored', hashed', parsed', single', hashedLayer', unpacked', _⟩ := verified'
  have digests := sha256Digest_injective injective
  obtain rfl : bytes = bytes' := digests (hashed.trans hashed'.symm)
  obtain rfl : manifest = manifest' := Except.ok.inj (parsed.symm.trans parsed')
  obtain rfl : layer = layer' := Except.ok.inj (single.symm.trans single')
  obtain rfl : stored = stored' := digests (hashedLayer.trans hashedLayer'.symm)
  exact Option.some.inj (unpacked.symm.trans unpacked')

variable {chunks : List (List UInt8)}

theorem GzStream.feed_concat (stream : GzStream) {state middle last : stream.State}
    {chunk : List UInt8} {pieces more : List (List UInt8)}
    (fed : stream.feed state chunks = .ok (middle, pieces)) (written : stream.write middle chunk = .ok (last, more)) :
    stream.feed state (chunks ++ [chunk]) = .ok (last, pieces ++ more) := by
  induction chunks generalizing state pieces with
  | nil =>
    cases fed
    simp only [List.nil_append, GzStream.feed, written, Bind.bind, Except.bind, Pure.pure, Except.pure, List.append_nil]
  | cons first chunks ih =>
    obtain ⟨⟨next, head⟩, wrote, rest⟩ := exists_of_bind_eq_ok fed
    obtain ⟨⟨after, tail⟩, fedRest, returned⟩ := exists_of_bind_eq_ok rest
    obtain ⟨rfl, rfl⟩ := Prod.mk.inj (Except.ok.inj returned)
    simp only [List.cons_append, GzStream.feed, wrote, ih fedRest, Bind.bind, Except.bind, Pure.pure,
      Except.pure, List.append_assoc]

namespace Client

variable (client : Client) {dest path : String} {before : Option (List UInt8)} {world : World}
  {allowed : World → Call → Option Answer → Prop}

/-- The destination is as it was. -/
abbrev Kept (dest : String) (before : Option (List UInt8)) (world : World) : Prop := world.files dest = before

/-- Nothing but an exchange with a server. -/
def Sends : Call → Prop
  | .send _ => True
  | _ => False

attribute [local simp] Sends exchange

theorem settles_sends {α : Type} {pass : Pass α} (sends : Heeds (permitting Sends) pass) (kept : Kept dest before world) :
    Settles allowed (Kept dest before) pass world fun _ => Kept dest before := by
  refine Secures.mono (Keeps.secures sends (fun _ _ _ => trivial) ?_ (fun _ => id) kept) fun _ _ reached => reached.2
  intro state call answer sends _ kept
  cases call with
  | send asked => exact kept
  | _ => exact sends.elim

theorem heeds_send (scope : String) (asked : Request) (tokens : Tokens) :
    Heeds (permitting Sends) (client.send scope asked tokens) := by
  have plain {α : Type} (result : Except Error α) : Heeds (permitting Sends) (ofExcept result) := by
    cases result <;> rfl
  have authorized (challenge : Challenge) : Heeds (permitting Sends) (client.authorize challenge scope tokens) := by
    cases challenge with
    | basic =>
      rw [authorize]
      cases client.basic <;> rfl
    | bearer realm service challenged => simp [authorize, plain]
  simp [send, answerChallenge, plain, authorized]

theorem parsed_of_verifyManifest {bytes : List UInt8} {found : Manifest}
    (verified : client.verifyManifest digest bytes = .ok found) :
    sha256Digest client.codecs.sha256 bytes = digest ∧ client.codecs.parseManifest bytes = .ok found := by
  simp only [verifyManifest] at verified
  split at verified
  · contradiction
  · split at verified
    · contradiction
    · rename_i same
      refine ⟨not_not.mp same, ?_⟩
      cases parsed : client.codecs.parseManifest bytes with
      | error why => simp [parsed, Except.mapError] at verified
      | ok manifest => simpa [parsed, Except.mapError] using verified

variable {reference : Reference}

theorem settles_manifest (addressed : reference.digest = some digest)
    (tokens : Tokens) (kept : Kept dest before world) :
    Settles allowed (Kept dest before) (client.manifest reference tokens) world fun found last =>
      Kept dest before last ∧ ∃ bytes, sha256Digest client.codecs.sha256 bytes = digest ∧
        client.codecs.parseManifest bytes = .ok found.1 := by
  refine settles_ofExcept kept fun value named => ?_
  simp only [addressedBy, addressed] at named
  obtain ⟨_, _, rfl⟩ := exists_of_map_eq_ok named
  refine Secures.bind (settles_sends (client.heeds_send _ _ _) kept) fun answered last kept => ?_
  refine settles_ofExcept kept fun response _ => ?_
  refine settles_ofExcept kept fun bytes _ => ?_
  refine settles_ofExcept kept fun found verified => ?_
  exact Secures.pure ⟨kept, bytes, client.parsed_of_verifyManifest verified⟩

/-- After some chunks: what was hashed, what the decoder passed on, and what was written
belong to them. -/
structure Downloaded (dest path : String) (before : Option (List UInt8)) (chunks : List (List UInt8))
    (download : Download client.codecs.gzip.State) (world : World) : Prop where
  hashed : download.hashed = chunks.flatten
  samePath : download.writer.path = path
  fed : ∃ pieces, client.codecs.gzip.feed client.codecs.gzip.start chunks = .ok (download.decoder, pieces) ∧
    SparseWriter.Given dest before download.writer pieces.flatten world

variable {download : Download client.codecs.gzip.State}

theorem Downloaded.kept
    (downloaded : client.Downloaded dest path before chunks download world) : Kept dest before world := by
  obtain ⟨_, _, given⟩ := downloaded.fed
  obtain ⟨_, _, _, held⟩ := given.flushed
  exact held.kept

theorem bears (apart : path ≠ dest) : SparseWriter.Bears allowed (Kept dest before) dest before path where
  apart := apart
  stopped held _ := held.kept
  failed held _ _ := ⟨held.kept, fun _ => (World.store_files_of_ne _ _ apart.symm).trans held.kept⟩

variable (layer : Descriptor) (expectedLen : Nat)

theorem settles_receive (apart : path ≠ dest) (chunk : Except String (List UInt8))
    (downloaded : client.Downloaded dest path before chunks download world) :
    Settles allowed (Kept dest before) (client.receive layer download chunk) world fun after last =>
      ∃ bytes, chunk = .ok bytes ∧ client.Downloaded dest path before (chunks ++ [bytes]) after last := by
  have kept := downloaded.kept
  refine settles_ofExcept kept fun bytes received => ?_
  split
  · exact Secures.throw kept
  · refine settles_ofExcept kept fun ⟨decoder, more⟩ written => ?_
    obtain ⟨pieces, fed, given⟩ := downloaded.fed
    refine Secures.bind (SparseWriter.settles_writeEach more download.writer (bears (downloaded.samePath ▸ apart)) given
      fun _ _ _ held => held.kept) ?_
    rintro writer final ⟨path, -, given⟩
    refine Secures.pure ⟨bytes, ok_of_mapError received, ?_, path.trans downloaded.samePath, _,
      GzStream.feed_concat _ fed (ok_of_mapError written), ?_⟩
    · rw [downloaded.hashed, List.flatten_append, List.flatten_singleton]
    · rw [List.flatten_append]
      exact given

theorem settles_receiveAll (apart : path ≠ dest) (stream : List (Except String (List UInt8)))
    (downloaded : client.Downloaded dest path before chunks download world) :
    Settles allowed (Kept dest before) (client.receiveAll layer download stream) world fun after last =>
      ∃ chunks, client.Downloaded dest path before chunks after last := by
  induction stream generalizing chunks download world with
  | nil => exact Secures.pure ⟨chunks, downloaded⟩
  | cons chunk stream ih =>
    refine Secures.bind (client.settles_receive layer apart chunk downloaded) ?_
    rintro after last ⟨bytes, _, downloaded⟩
    exact ih downloaded

/-- What was downloaded is in the file, and it is what the layer promises. -/
structure Complete (layer : Descriptor) (expectedLen : Nat) (dest path : String)
    (before : Option (List UInt8)) (length : Nat) (world : World) : Prop where
  kept : Kept dest before world
  written : ∃ bytes contents, world.files path = some contents ∧ length = contents.length ∧
    expectedLen = contents.length ∧ sha256Digest client.codecs.sha256 bytes = layer.digest ∧
    client.codecs.gzip.decompress bytes = some contents

theorem settles_conclude (apart : path ≠ dest) (downloaded : client.Downloaded dest path before chunks download world) :
    Settles allowed (Kept dest before) (client.conclude layer expectedLen download) world
      (client.Complete layer expectedLen dest path before) := by
  have kept := downloaded.kept
  rw [conclude]
  split
  · exact Secures.throw kept
  · rename_i same
    refine settles_ofExcept kept fun last finished => ?_
    obtain ⟨pieces, fed, given⟩ := downloaded.fed
    have decoded : client.codecs.gzip.decode chunks = .ok (pieces ++ last) := by
      simp only [GzStream.decode, fed, ok_of_mapError finished, Bind.bind, Except.bind, Pure.pure, Except.pure]
    refine Secures.bind (SparseWriter.settles_writeEach last download.writer (bears (downloaded.samePath ▸ apart)) given
      fun _ _ _ held => held.kept) ?_
    rintro writer after ⟨samePath, -, given⟩
    rw [downloaded.samePath] at samePath
    refine Secures.bind (SparseWriter.settles_finish writer (bears (samePath ▸ apart)) given) ?_
    rintro length final ⟨rfl, written, kept⟩
    split
    · exact Secures.throw kept
    · rename_i expected
      refine Secures.bind (settles_perform (fun _ => kept) (fun _ _ => kept) (fun _ _ => kept) fun _ => ?_)
        fun _ _ complete => Secures.pure complete
      refine ⟨kept, chunks.flatten, _, samePath ▸ written, rfl, (not_not.mp expected).symm, ?_, ?_⟩
      · rw [← downloaded.hashed]
        exact not_not.mp same
      · rw [client.codecs.gzip.sound _ _ decoded, List.flatten_append]

theorem settles_fetchLayer (apart : path ≠ dest) (stream : List (Except String (List UInt8)))
    (opened : SparseWriter.Flushed dest before path [] world) :
    Settles allowed (Kept dest before) (client.fetchLayer layer expectedLen path stream) world
      (client.Complete layer expectedLen dest path before) := by
  have started : client.Downloaded dest path before []
      { decoder := client.codecs.gzip.start, writer := { path := path, limit := expectedLen } } world :=
    ⟨rfl, rfl, [], rfl, ⟨[], rfl, rfl, opened⟩, (by decide : 0 < blockSize)⟩
  refine Secures.bind (client.settles_receiveAll layer apart stream started) ?_
  rintro download last ⟨chunks, downloaded⟩
  exact client.settles_conclude layer expectedLen apart downloaded

theorem settles_attempt_removeFile (apart : path ≠ dest) (kept : Kept dest before world) :
    Settles allowed (Kept dest before) (attempt (.removeFile path)) world fun _ => Kept dest before := by
  refine Secures.consult (fun _ => kept) fun answer _ => ?_
  simp only [World.serve, either_ok]
  cases answer.failure with
  | some failure => exact kept
  | none =>
    simp only [World.carry]
    cases world.files path with
    | none => exact kept
    | some contents => exact (world.store_files_of_ne _ apart.symm).trans kept

theorem settles_createNew (apart : path ≠ dest) (kept : Kept dest before world) :
    Settles allowed (Kept dest before) (perform (.createNew path)) world fun _ =>
      SparseWriter.Flushed dest before path [] := by
  have fresh : Kept dest before (world.put path .new) := (world.store_files_of_ne _ apart.symm).trans kept
  refine settles_perform (fun _ => kept) (fun _ _ => kept) ?_ ?_
  · intro why refused
    simp only [World.carry] at refused ⊢
    cases found : world.files path with
    | none => exact fresh
    | some contents => exact kept
  · intro created
    simp only [World.carry] at created ⊢
    cases found : world.files path with
    | some contents => simp [found] at created
    | none =>
      refine ⟨fresh, by simp [World.put], ?_⟩
      rw [SparseWriter.opened_put]
      exact SparseFile.reads_new

theorem settles_place {layer : Descriptor} {expectedLen : Nat} (apart : path ≠ dest) (manifest : Manifest)
    {outcome : Except Error Nat}
    (settled : either (client.Complete layer expectedLen dest path before) (fun _ => Kept dest before) outcome world) :
    Settles allowed (Kept dest before) (place path dest manifest outcome) world fun pulled last =>
      ∃ bytes contents, last.files dest = some contents ∧ pulled.len = contents.length ∧
        expectedLen = contents.length ∧ sha256Digest client.codecs.sha256 bytes = layer.digest ∧
        client.codecs.gzip.decompress bytes = some contents := by
  cases outcome with
  | error reason =>
    exact Secures.bind (settles_attempt_removeFile apart settled) fun _ _ kept => Secures.throw kept
  | ok length =>
    obtain ⟨kept, bytes, contents, stored, counted, expected, hashed, unpacked⟩ := settled
    refine Secures.bind (settles_perform (fun _ => kept) (fun _ _ => kept) ?_ fun _ => ?_)
      fun _ final held => Secures.pure ⟨bytes, contents, held, counted, expected, hashed, unpacked⟩
    · intro why refused
      simp [World.carry, stored] at refused
    · simp only [World.carry, stored, World.store_files_self]

theorem partial_ne (dest : String) : dest ++ partialSuffix ≠ dest := by
  intro same
  have lengths := congrArg String.length same
  rw [String.length_append] at lengths
  have : 0 < partialSuffix.length := by decide
  omega

theorem settles_pullFile (addressed : reference.digest = some digest)
    (dest : String) (tokens : Tokens) (kept : Kept dest before world) :
    Settles allowed (Kept dest before) (client.pullFile reference dest tokens) world fun pulled last =>
      ∃ contents, last.files dest = some contents ∧ pulled.len = contents.length ∧
        Verified client.codecs digest contents := by
  have apart := partial_ne dest
  refine Secures.bind (client.settles_manifest addressed tokens kept) ?_
  rintro ⟨manifest, tokens⟩ last ⟨kept, bytes, hashed, parsed⟩
  refine settles_ofExcept kept fun layer single => ?_
  refine settles_ofExcept kept fun _ _ => ?_
  refine settles_ofExcept kept fun expectedLen declared => ?_
  refine Secures.bind (settles_sends (client.heeds_send _ _ _) kept) fun answered last kept => ?_
  refine settles_ofExcept kept fun response _ => ?_
  refine Secures.bind (settles_attempt_removeFile apart kept) fun _ last kept => ?_
  refine Secures.bind (settles_createNew apart kept) fun _ last opened => ?_
  refine Secures.bind (client.settles_fetchLayer layer expectedLen apart response.body opened).tried ?_
  intro outcome last settled
  refine Secures.mono (client.settles_place apart manifest settled) ?_
  rintro pulled final ⟨stored, contents, found, counted, expected, hashedLayer, unpacked⟩
  refine ⟨contents, found, counted, bytes, manifest, layer, stored, hashed, parsed, single, hashedLayer, unpacked, ?_⟩
  rw [declared, expected]

/-- The result of a pull, if it was not stopped, and what it leaves. -/
def pullOutcome (reference : Reference) (dest : String) (tokens : Tokens) (answers : List Answer) (world : World) :
    Option (Except Error Pulled) × World :=
  (client.pullFile reference dest tokens).run.attempt worldBackend answers world

theorem pullOutcome_cases (addressed : reference.digest = some digest)
    (dest : String) (tokens : Tokens) (answers : List Answer) (world : World) :
    (∀ pulled, (client.pullOutcome reference dest tokens answers world).1 = some (.ok pulled) →
      ∃ contents, (client.pullOutcome reference dest tokens answers world).2.files dest = some contents ∧
        pulled.len = contents.length ∧ Verified client.codecs digest contents) ∧
    ((∀ pulled, (client.pullOutcome reference dest tokens answers world).1 ≠ some (.ok pulled)) →
      (client.pullOutcome reference dest tokens answers world).2.files dest = world.files dest) := by
  have settles : Settles (fun _ _ _ => True) (Kept dest (world.files dest))
      (client.pullFile reference dest tokens) world _ := client.settles_pullFile addressed dest tokens rfl
  exact settles.attempt (@within_always Call Reply _ worldBackend _ (fun _ _ _ => trivial) _ answers world)

/-- A pull ends, whatever it is answered.  It leaves the destination alone unless it
succeeds; then there is what the digest of the reference stands for, and every other
successful pull of the reference leaves the same. -/
theorem pullFile_verified {reference : Reference} {digest : String} (addressed : reference.digest = some digest)
    (dest : String) (tokens : Tokens) (world : World) :
    (∀ answers : Nat → Answer, ∃ count result,
      (client.pullOutcome reference dest tokens ((List.range count).map answers) world).1 = some result) ∧
    ∀ answers,
      ((∀ pulled, (client.pullOutcome reference dest tokens answers world).1 ≠ some (.ok pulled)) →
        (client.pullOutcome reference dest tokens answers world).2.files dest = world.files dest) ∧
      ∀ pulled, (client.pullOutcome reference dest tokens answers world).1 = some (.ok pulled) →
        ∃ contents, (client.pullOutcome reference dest tokens answers world).2.files dest = some contents ∧
          pulled.len = contents.length ∧ Verified client.codecs digest contents ∧
          ∀ (other : Client) (dest' : String) (tokens' : Tokens) (world' : World) (answers' : List Answer) pulled',
            Function.Injective client.codecs.sha256 → other.codecs = client.codecs →
            (other.pullOutcome reference dest' tokens' answers' world').1 = some (.ok pulled') →
            (other.pullOutcome reference dest' tokens' answers' world').2.files dest' = some contents := by
  refine ⟨fun answers => @attempt_returns Call Reply _ worldBackend _ answers world, fun answers => ?_⟩
  obtain ⟨returned, failed⟩ := client.pullOutcome_cases addressed dest tokens answers world
  refine ⟨failed, fun pulled succeeded => ?_⟩
  obtain ⟨contents, stored, counted, verified⟩ := returned pulled succeeded
  refine ⟨contents, stored, counted, verified, ?_⟩
  intro other dest' tokens' world' answers' pulled' injective same succeeded'
  obtain ⟨contents', stored', _, verified'⟩ :=
    (other.pullOutcome_cases addressed dest' tokens' answers' world').1 pulled' succeeded'
  rw [same] at verified'
  rw [verified.unique injective verified']
  exact stored'

/-! ## A pull in two chunks -/

/-- A stream that is passed on as it comes. -/
def storedStream : GzDecoder where
  State := Unit
  start := ()
  write := fun _ chunk => .ok ((), [chunk])
  finish := fun _ => .ok []
  decompress := some
  sound := by
    intro chunks pieces decoded
    have fed (chunks : List (List UInt8)) :
        GzStream.feed ⟨Unit, (), fun _ chunk => .ok ((), [chunk]), fun _ => .ok []⟩ () chunks = .ok ((), chunks) := by
      induction chunks with
      | nil => rfl
      | cons chunk chunks ih => simp only [GzStream.feed, ih, Bind.bind, Except.bind, Pure.pure, Except.pure,
          List.singleton_append]
    simp only [GzStream.decode, fed, Bind.bind, Except.bind, Pure.pure, Except.pure, List.append_nil] at decoded
    rw [Except.ok.inj decoded]

def storedLayer : List UInt8 := List.replicate 32 7

def storedManifest : Manifest :=
  Manifest.artifact id "application/vnd.banlieue.disk.raw.v1"
    { mediaType := layerMediaTypeGzip, digest := sha256Digest id storedLayer, size := 32,
      annotations := SortedMap.empty.insert annotationUncompressedSize "32" } SortedMap.empty

def storedClient : Client where
  codecs :=
    { sha256 := id, gzip := storedStream, text := fun _ => "", parseManifest := fun _ => .ok storedManifest,
      encodeManifest := fun _ => .error "", parseToken := fun _ => .error "" }
  credentials := {}
  plainHttp := false

def storedReference : Reference :=
  { registry := "registry.example", repository := "disk", digest := some (sha256Digest id (List.replicate 32 1)) }

def storedAnswers : List Answer :=
  { response := .ok { status := 200, body := [.ok (List.replicate 32 1)] } } ::
    { response := .ok { status := 200, body := [.ok (storedLayer.take 20), .ok (storedLayer.drop 20)] } } ::
    List.replicate 6 {}

theorem pulled_in_two_chunks :
    ∃ contents, (storedClient.pullOutcome storedReference "disk.raw" (fun _ => none) storedAnswers
        { files := fun _ => none }).2.files "disk.raw" = some contents ∧
      Verified storedClient.codecs (sha256Digest id (List.replicate 32 1)) contents := by
  have succeeded : (storedClient.pullOutcome storedReference "disk.raw" (fun _ => none) storedAnswers
      { files := fun _ => none }).1 = some (.ok ⟨"disk.raw", 32, SortedMap.empty⟩) := by
    decide +kernel
  obtain ⟨contents, stored, _, verified, same⟩ := ((storedClient.pullFile_verified rfl "disk.raw" (fun _ => none)
    { files := fun _ => none }).2 storedAnswers).2 _ succeeded
  have again := same storedClient "disk.raw" (fun _ => none) { files := fun _ => none } storedAnswers _
    Function.injective_id rfl succeeded
  exact ⟨contents, again, verified⟩

end Client

end Banlieue.Oci
