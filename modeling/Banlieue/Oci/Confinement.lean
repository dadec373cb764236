import Banlieue.Oci.Client

namespace Banlieue.Oci

open Banlieue.Data Banlieue.Data.Program

/-! # Where a request goes -/

/-- The authority of a URL ends where its path, query or fragment begins. -/
def endsAuthority (character : Char) : Bool := ['/', '?', '#', '\\'].contains character

def dropDefaultPort (scheme host : List Char) : List Char :=
  let port := if scheme = "https".toList then ":443".toList else ":80".toList
  if port.isSuffixOf host then host.take (host.length - port.length) else host

/-- Scheme, host and port; what stands before the last at sign is not part of the host. -/
def originOf (url : List Char) : Option (List Char × List Char) :=
  (splitOnceText "://".toList url).map fun (scheme, rest) =>
    let authority := rest.takeWhile fun character => !endsAuthority character
    let host := (rsplitOnce '@' authority).elim authority Prod.snd
    (scheme.map Char.toLower, dropDefaultPort (scheme.map Char.toLower) (host.map Char.toLower))

theorem takeWhile_append_stop {τ : Type} (keeps : τ → Bool) (text rest : List τ) {stop : τ}
    (stops : stop ∈ text ∨ rest.head? = some stop) (ends : keeps stop = false) :
    (text ++ rest).takeWhile keeps = text.takeWhile keeps := by
  induction text with
  | nil =>
    cases rest with
    | nil => rfl
    | cons first rest =>
      obtain rfl : first = stop := by simpa using stops
      simp [ends]
  | cons first text ih =>
    cases kept : keeps first with
    | false => simp [kept]
    | true =>
      have apart : stop ≠ first := by
        rintro rfl
        rw [ends] at kept
        contradiction
      rw [List.cons_append, List.takeWhile_cons_of_pos kept, List.takeWhile_cons_of_pos kept, ih]
      exact stops.imp_left fun member => (List.mem_cons.mp member).resolve_left apart

theorem originOf_append {url scheme authority rest : List Char} {stop : Char}
    (split : splitOnceText "://".toList url = some (scheme, authority))
    (stops : stop ∈ authority ∨ rest.head? = some stop) (ends : endsAuthority stop = true) :
    originOf (url ++ rest) = originOf url := by
  simp only [originOf, split, splitOnceText_append rest split, Option.map_some]
  rw [takeWhile_append_stop _ authority rest stops (by rw [ends]; rfl)]

namespace Client

variable (client : Client) (reference : Reference)

def own : Option (List Char × List Char) := originOf (client.origin reference).toList

theorem split_origin :
    splitOnceText "://".toList (client.origin reference).toList =
      some (client.scheme.toList, reference.registry.toList) := by
  rw [origin, scheme]
  cases client.plainHttp <;> simp [splitOnceText]

variable (path : String) (writer : SparseWriter) (layer : Descriptor)

theorem originOf_base : originOf (client.base reference ++ path).toList = client.own reference := by
  have text : (client.base reference ++ path).toList =
      (client.origin reference).toList ++ '/' :: ("v2/" ++ reference.repository ++ path).toList := by
    simp [base, origin]
  rw [text]
  exact originOf_append (client.split_origin reference) (.inr rfl) (by decide)

theorem originOf_under (name : String) :
    originOf (client.base reference ++ path ++ name).toList = client.own reference := by
  rw [String.append_assoc]
  exact client.originOf_base reference _

theorem originOf_uploadUrl {location : String} (digest : String)
    (leads : originOf (client.resolveLocation reference location).toList = client.own reference) :
    originOf (client.uploadUrl reference digest location).toList = client.own reference := by
  have found : (client.own reference).isSome := by
    rw [own, originOf, client.split_origin]
    rfl
  rw [← leads, originOf, Option.isSome_map, Option.isSome_iff_exists] at found
  obtain ⟨⟨scheme, authority⟩, split⟩ := found
  rw [uploadUrl, ← leads, String.append_assoc, String.append_assoc, String.toList_append]
  by_cases query : (client.resolveLocation reference location).toList.contains '?'
  · rw [if_pos query]
    refine originOf_append split (.inl ?_) (by decide : endsAuthority '?' = true)
    have schemes : scheme.map Char.toLower = client.scheme.toList.map Char.toLower := by
      rw [own, originOf, originOf, split, client.split_origin] at leads
      exact congrArg Prod.fst (Option.some.inj leads)
    have member := List.contains_iff_mem.mp query
    rw [eq_of_splitOnceText split, List.mem_append, List.mem_append] at member
    refine member.resolve_left fun earlier => ?_
    rcases earlier with inScheme | inSeparator
    · have lower := List.mem_map_of_mem inScheme (f := Char.toLower)
      rw [schemes, Client.scheme] at lower
      cases plain : client.plainHttp <;> rw [plain] at lower <;> revert lower <;> decide
    · revert inSeparator
      decide
  · rw [if_neg query]
    exact originOf_append split (.inr (by simp)) (by decide : endsAuthority '?' = true)

/-! # Who is told the credentials -/

abbrev Exchange := Request × Except String Response

/-- A URL for tokens at a realm that the registry itself named in a challenge. -/
def NamedRealm (earlier : List Exchange) (url : String) : Prop :=
  ∃ asked refused realm service challenged scope,
    (asked, .ok refused) ∈ earlier ∧ originOf asked.url.toList = client.own reference ∧
    refused.status = unauthorized ∧ challengeOf refused = .ok (.bearer realm service challenged) ∧
    url = tokenUrl realm service scope

/-- One request tells no one its authorization who may not know it. -/
def Discreet (earlier : List Exchange) (asked : Request) : Prop :=
  match asked.authorization with
  | none => True
  | some (.bearer _) => originOf asked.url.toList = client.own reference
  | some (.basic _ _) =>
    originOf asked.url.toList = client.own reference ∨ client.NamedRealm reference earlier asked.url

def Confined (exchanges : List Exchange) : Prop :=
  ∀ index exchange, exchanges[index]? = some exchange →
    client.Discreet reference (exchanges.take index) exchange.1

/-- Every upload the registry accepts goes on at the registry. -/
def UploadsAtHome (_ : World) : Call → Option Answer → Prop
  | .send asked, some ⟨.ok response, _, _⟩ =>
    asked.method = .post → response.isSuccess = true → ∀ location ∈ response.location,
      originOf (client.resolveLocation reference location).toList = client.own reference
  | _, _ => True

instance UploadsAtHome.decidable (world : World) :
    (call : Call) → (answer : Option Answer) → Decidable (client.UploadsAtHome reference world call answer)
  | .send _, some ⟨.ok _, _, _⟩ => inferInstanceAs (Decidable (_ → _ → ∀ location ∈ _, _ = _))
  | .send _, some ⟨.error _, _, _⟩ | .send _, none | .compressedCopy _ _, _ | .file _, _ =>
    inferInstanceAs (Decidable True)

variable {client reference}

theorem Discreet.at_home {earlier : List Exchange} (asked : Request)
    (home : originOf asked.url.toList = client.own reference) (authorization : Option Authorization) :
    client.Discreet reference earlier { asked with authorization := authorization } := by
  match authorization with
  | none => trivial
  | some (.bearer _) => exact home
  | some (.basic _ _) => exact .inl home

theorem Confined.concat {exchanges : List Exchange} {asked : Request}
    (confined : client.Confined reference exchanges) (discreet : client.Discreet reference exchanges asked)
    (response : Except String Response) :
    client.Confined reference (exchanges ++ [(asked, response)]) := by
  intro index exchange found
  rcases Nat.lt_or_ge index exchanges.length with inside | beyond
  · rw [List.getElem?_append_left inside] at found
    rw [List.take_append_of_le_length (Nat.le_of_lt inside)]
    exact confined index exchange found
  · rw [List.getElem?_append_right beyond, List.getElem?_singleton] at found
    split at found
    · rename_i last
      obtain rfl := Option.some.inj found
      have same : index = exchanges.length := by omega
      rw [same, List.take_left]
      exact discreet
    · contradiction

section

variable {world : World} {allowed : World → Call → Option Answer → Prop}

/-- Told so far only to those who may know. -/
abbrev Silent (client : Client) (reference : Reference) (world : World) : Prop :=
  client.Confined reference world.exchanges

theorem settles_exchange_discreet {asked : Request} (silent : Silent client reference world)
    (discreet : client.Discreet reference world.exchanges asked) :
    Settles allowed (Silent client reference) (exchange asked) world fun response last =>
      Silent client reference last ∧ (asked, .ok response) ∈ last.exchanges ∧
        ∃ answer, allowed world (.send asked) (some answer) ∧ answer.response = .ok response := by
  refine settles_exchange silent (silent.concat discreet) fun answer response permitted outcome => ?_
  exact ⟨silent.concat discreet _, List.mem_append_right _ List.mem_cons_self, answer, permitted, outcome⟩

theorem settles_authorize_discreet {asked : Request} {refused : Response} {challenge : Challenge}
    (silent : Silent client reference world) (recorded : (asked, .ok refused) ∈ world.exchanges)
    (home : originOf asked.url.toList = client.own reference) (status : refused.status = unauthorized)
    (challenged : challengeOf refused = .ok challenge) (scope : String) (tokens : Tokens) :
    Settles allowed (Silent client reference) (client.authorize challenge scope tokens) world fun _ =>
      Silent client reference := by
  cases challenge with
  | basic =>
    rw [authorize]
    cases client.basic with
    | none => exact Secures.throw silent
    | some authorization => exact Secures.pure silent
  | bearer realm service named =>
    have discreet : client.Discreet reference world.exchanges
        { method := .get, url := tokenUrl realm service (named.getD scope), authorization := client.basic } := by
      rw [Discreet, basic]
      cases client.credentials.password with
      | none => trivial
      | some password => exact .inr ⟨asked, refused, realm, service, named, _, recorded, home, status, challenged, rfl⟩
    refine Secures.bind (settles_exchange_discreet silent discreet) ?_
    rintro response last ⟨silent, _⟩
    refine settles_ofExcept silent fun authorization _ => ?_
    exact Secures.pure silent

theorem settles_send_discreet (asked : Request) (home : originOf asked.url.toList = client.own reference)
    (scope : String) (tokens : Tokens) (silent : Silent client reference world) :
    Settles allowed (Silent client reference) (client.send scope asked tokens) world fun answered last =>
      Silent client reference last ∧ ∃ world answer authorization,
        allowed world (.send { asked with authorization := authorization }) (some answer) ∧
          answer.response = .ok answered.1 := by
  refine Secures.bind (settles_exchange_discreet silent (.at_home asked home _)) ?_
  rintro response last ⟨silent, recorded, answer, permitted, replied⟩
  split
  · rename_i status
    refine settles_ofExcept silent fun challenge challenged => ?_
    refine Secures.bind (settles_authorize_discreet silent recorded home status challenged scope tokens) ?_
    rintro ⟨authorization, tokens⟩ middle silent
    refine Secures.bind (settles_exchange_discreet silent (.at_home asked home _)) ?_
    rintro again final ⟨silent, _, answer, permitted, replied⟩
    exact Secures.pure ⟨silent, middle, answer, _, permitted, replied⟩
  · exact Secures.pure ⟨silent, world, answer, _, permitted, replied⟩

end

section

variable {world : World}

/-- What a push or a pull keeps. -/
abbrev Confines {α : Type} (client : Client) (reference : Reference) (pass : Pass α) (world : World) : Prop :=
  Settles (client.UploadsAtHome reference) (Silent client reference) pass world fun _ =>
    Silent client reference

theorem confines_uploadBlob (digest : String) (bytes : List UInt8) (tokens : Tokens)
    (silent : Silent client reference world) :
    Confines client reference (client.uploadBlob reference digest bytes tokens) world := by
  have start : originOf (client.startUrl reference).toList = client.own reference :=
    client.originOf_base reference _
  refine Secures.bind (settles_send_discreet
    { method := .post, url := client.startUrl reference, contentLength := some 0 } start _ _ silent) ?_
  rintro ⟨started, tokens⟩ last ⟨silent, _, ⟨response, _, _⟩, authorization, uploads, (rfl : response = _)⟩
  refine settles_ofExcept silent fun accepted checked => ?_
  refine settles_ofExcept silent fun location located => ?_
  have home : originOf (client.resolveLocation reference location).toList = client.own reference := by
    simp only [check] at checked
    split at checked
    · rename_i success
      obtain rfl := Except.ok.inj checked
      simp only [locationOf] at located
      split at located
      · rename_i header
        obtain rfl := Except.ok.inj located
        exact uploads rfl success _ header
      · contradiction
    · contradiction
  refine Secures.bind (settles_send_discreet
    { method := .put, url := client.uploadUrl reference digest location,
      contentType := some "application/octet-stream", contentLength := some bytes.length, body := bytes }
    (client.originOf_uploadUrl reference digest home) _ _ silent) ?_
  rintro ⟨response, tokens⟩ final ⟨silent, _⟩
  refine settles_ofExcept silent fun _ _ => ?_
  exact Secures.pure silent

theorem confines_putBlob (digest : String) (bytes : List UInt8) (tokens : Tokens)
    (silent : Silent client reference world) :
    Confines client reference (client.putBlob reference digest bytes tokens) world := by
  refine Secures.bind (settles_send_discreet
    { method := .head, url := client.base reference ++ "/blobs/" ++ digest } (client.originOf_under reference _ _) _ _
    silent) ?_
  rintro ⟨found, tokens⟩ last ⟨silent, _⟩
  change Confines client reference
    (if found.isSuccess then pure tokens else client.uploadBlob reference digest bytes tokens) last
  split
  · exact Secures.pure silent
  · exact confines_uploadBlob digest bytes tokens silent

theorem confines_pushFile (path scratch artifactType : String) (annotations : SortedMap String String)
    (tokens : Tokens) (silent : Silent client reference world) :
    Confines client reference (client.pushFile reference path scratch artifactType annotations tokens) world := by
  have copied : Settles (client.UploadsAtHome reference) (Silent client reference)
      (consult (.compressedCopy path scratch) (Except.mapError .io)) world fun _ => Silent client reference :=
    Secures.consult (fun _ => silent) fun _ _ => either_intro (fun _ _ => silent) fun _ _ => silent
  refine Secures.bind copied fun copy last silent => ?_
  refine Secures.bind (confines_putBlob _ _ _ silent) fun tokens last silent => ?_
  refine Secures.bind (confines_putBlob _ _ _ silent) fun tokens last silent => ?_
  refine settles_ofExcept silent fun body _ => ?_
  refine Secures.bind (settles_send_discreet
    { method := .put, url := client.base reference ++ "/manifests/" ++ _, contentType := some manifestMediaType,
      body := body } (client.originOf_under reference _ _) _ _ silent) ?_
  rintro ⟨response, tokens⟩ last ⟨silent, _⟩
  refine settles_ofExcept silent fun _ _ => ?_
  exact Secures.pure silent

end

/-! ## Work on files tells nobody -/

def OnFiles : Call → Prop
  | .file _ => True
  | _ => False

@[simp]
abbrev Local {α : Type} (pass : Pass α) : Prop := Heeds (replying OnFiles fun _ _ => True) pass

attribute [local simp] OnFiles

theorem local_ofExcept {α : Type} (result : Except Error α) : Local (ofExcept result) := by
  cases result <;> rfl

theorem local_emit (block : List UInt8) : Local (writer.emit block) := by
  simp [SparseWriter.emit, perform]

theorem local_emitBlocks (count : Nat) (writer : SparseWriter) (buffer : List UInt8) :
    Local (SparseWriter.emitBlocks count writer buffer) := by
  induction count generalizing writer buffer with
  | zero => rfl
  | succ count ih => exact Heeds.bind (local_emit _ _) fun writer => ih writer _

theorem local_write (buffer : List UInt8) : Local (writer.write buffer) := by
  have begun : Local (writer.topUp buffer) := by
    simp [SparseWriter.topUp, SparseWriter.fill, local_emit]
  unfold SparseWriter.write
  split
  · rfl
  · exact Heeds.bind begun fun writer => Heeds.bind (local_emitBlocks _ writer _) fun _ => rfl

theorem local_writeEach (pieces : List (List UInt8)) (writer : SparseWriter) : Local (writer.writeEach pieces) := by
  induction pieces generalizing writer with
  | nil => rfl
  | cons piece pieces ih => exact Heeds.bind (local_write writer piece) ih

theorem local_receiveAll (stream : List (Except String (List UInt8)))
    (download : Download client.codecs.gzip.State) : Local (client.receiveAll layer download stream) := by
  induction stream generalizing download with
  | nil => rfl
  | cons chunk stream ih =>
    refine Heeds.bind (Heeds.bind (local_ofExcept _) fun bytes => ?_) ih
    split
    · rfl
    · exact Heeds.bind (local_ofExcept _) fun _ => Heeds.bind (local_writeEach _ _) fun _ => rfl

theorem local_fetchLayer (expectedLen : Nat) (path : String)
    (stream : List (Except String (List UInt8))) : Local (client.fetchLayer layer expectedLen path stream) := by
  refine Heeds.bind (local_receiveAll layer stream _) fun download => ?_
  rw [conclude]
  split
  · rfl
  · refine Heeds.bind (local_ofExcept _) fun _ => Heeds.bind (local_writeEach _ _) fun writer =>
      Heeds.bind (by simp [SparseWriter.finish, SparseWriter.emitTail, perform, local_emit]) fun len => ?_
    simp [perform]

theorem serve_file_exchanges (world : World) (answer : Answer) (call : FileCall) :
    (world.serve answer (.file call)).2.exchanges = world.exchanges := by
  simp only [World.serve]
  split
  · cases call <;> rfl
  · cases call <;> simp only [World.carry] <;> (try split) <;> rfl

variable {world : World}

theorem settles_local {α : Type} {pass : Pass α} (onFiles : Local pass) (silent : Silent client reference world) :
    Settles (fun _ _ _ => True) (Silent client reference) pass world fun _ => Silent client reference := by
  refine Secures.mono (Keeps.secures onFiles (fun _ _ _ => trivial) ?_ (fun _ kept => kept) silent) ?_
  · intro state call answer onFile _ silent
    cases call with
    | send asked => exact onFile.elim
    | compressedCopy path scratch => exact onFile.elim
    | file call =>
      change client.Confined reference (World.serve state answer (.file call)).2.exchanges
      rw [serve_file_exchanges]
      exact silent
  · exact fun _ _ held => held.2

theorem confines_pullFile (dest : String) (tokens : Tokens) (silent : Silent client reference world) :
    Settles (fun _ _ _ => True) (Silent client reference) (client.pullFile reference dest tokens) world fun _ =>
      Silent client reference := by
  have home := client.originOf_under reference
  have described : Settles (fun _ _ _ => True) (Silent client reference) (client.manifest reference tokens) world
      fun _ => Silent client reference := by
    refine settles_ofExcept silent fun digest _ => ?_
    refine Secures.bind (settles_send_discreet
      { method := .get, url := client.base reference ++ "/manifests/" ++ digest,
        accept := some manifestMediaType } (home _ _) _ _ silent) ?_
    rintro ⟨response, tokens⟩ last ⟨silent, _⟩
    exact settles_ofExcept silent fun _ _ => settles_ofExcept silent fun _ _ => settles_ofExcept silent fun _ _ =>
      Secures.pure silent
  refine Secures.bind described ?_
  rintro ⟨manifest, tokens⟩ last silent
  refine settles_ofExcept silent fun layer _ => ?_
  refine settles_ofExcept silent fun _ _ => ?_
  refine settles_ofExcept silent fun expectedLen _ => ?_
  refine Secures.bind (settles_send_discreet
    { method := .get, url := client.base reference ++ "/blobs/" ++ layer.digest } (home _ _) _ _ silent) ?_
  rintro ⟨response, tokens⟩ last ⟨silent, _⟩
  refine settles_ofExcept silent fun response _ => ?_
  refine Secures.bind (settles_local (by simp [attempt]) silent) fun _ last silent => ?_
  refine Secures.bind (settles_local (by simp [perform]) silent) fun _ last silent => ?_
  refine Secures.bind (settles_local (local_fetchLayer layer expectedLen _ response.body) silent).tried ?_
  intro outcome last settled
  have silent : Silent client reference last := by
    cases outcome <;> exact settled
  exact settles_local (by cases outcome <;> simp [place, attempt, perform]) silent

/-! ## The whole protocol -/

/-- The exchanges of a push, up to where it was stopped. -/
def pushed (client : Client) (reference : Reference) (path scratch artifactType : String)
    (annotations : SortedMap String String) (tokens : Tokens) (answers : List Answer) (world : World) :
    List Exchange :=
  ((client.pushFile reference path scratch artifactType annotations tokens).run.attempt worldBackend answers
    world).2.exchanges

/-- The exchanges of a pull, up to where it was stopped. -/
def pulled (client : Client) (reference : Reference) (dest : String) (tokens : Tokens) (answers : List Answer)
    (world : World) : List Exchange :=
  ((client.pullFile reference dest tokens).run.attempt worldBackend answers world).2.exchanges

def lentClient : Client where
  codecs :=
    { sha256 := id, gzip := ⟨⟨Unit, (), fun _ _ => .error "", fun _ => .error ""⟩, fun _ => none, by
        intro chunks pieces decoded
        cases chunks <;> contradiction⟩,
      text := fun _ => "", parseManifest := fun _ => .error "", encodeManifest := fun _ => .ok [],
      parseToken := fun _ => .ok (some "lent", none) }
  credentials := { username := some "user", password := some "secret" }
  plainHttp := false

def diskReference : Reference := { registry := "registry.example", repository := "disk", tag := some "v1" }

/-- The answers to a push, with the location of the first upload. -/
def pushAnswers (location : String) : List Answer :=
  [{ compressed := .ok (1, [31]) },
    { response := .ok { status := 401, wwwAuthenticate := some "Bearer realm=\"https://auth.example/token\"" } },
    { response := .ok { status := 200 } },
    { response := .ok { status := 404 } },
    { response := .ok { status := 202, location := some location } },
    { response := .ok { status := 201 } },
    { response := .ok { status := 200 } },
    { response := .ok { status := 201 } }]

def pushedTo (location : String) : List Exchange :=
  lentClient.pushed diskReference "disk.raw" "/scratch" "application/vnd.banlieue.disk.raw.v1" SortedMap.empty
    (fun _ => none) (pushAnswers location) { files := fun _ => none }

end Client

end Banlieue.Oci
