import Banlieue.Data.Steps
import Banlieue.Libvirt.Rpc

namespace Banlieue.Libvirt

open Banlieue.Data

/-! # A session

One call is in flight at a time.  A receive takes bytes off the stream as they
come; when its deadline passes it is dropped, and the bytes it has taken are gone.
-/

inductive TransportError where
  | rpc (reason : RpcError)
  | remote (code : Int32) (message : String)
  | serialMismatch (expected got : UInt32)
  | unexpectedMessageType (type : MessageType)
  | timeout (operation : String)
  | desynchronised (expectedProgram expectedVersion gotProgram gotVersion : UInt32)
deriving DecidableEq

structure Session where
  serial : UInt32 := 0
deriving DecidableEq

/-- The serial of the next call; the counter wraps. -/
def Session.nextSerial (session : Session) : UInt32 × Session :=
  (session.serial, ⟨session.serial + 1⟩)

def decodeRemoteError (payload : List UInt8) : TransportError :=
  let readOr (bytes : List UInt8) : Int32 × List UInt8 :=
    match readI32 bytes with
    | .ok read => read
    | .error _ => (-1, bytes)
  let (code, rest) := readOr payload
  let (_, rest) := readOr rest
  let message :=
    match readBool rest with
    | .ok (true, rest) =>
      match readString rest with
      | .ok (text, _) => text
      | .error _ => "<unparseable>"
    | .ok (false, _) => "<no message>"
    | .error _ => "<unparseable>"
  .remote code message

/-- What is made of the bytes after the length.  A reply comes back in the program
it was sent on. -/
def decodeReply (program version : UInt32) (rest : List UInt8) :
    Except TransportError (MessageHeader × List UInt8) :=
  match MessageHeader.decode rest with
  | .error reason => .error (.rpc reason)
  | .ok (header, _) =>
    if header.program ≠ program ∨ header.version ≠ version then
      .error (.desynchronised program version header.program header.version)
    else .ok (header, rest.drop messageHeaderLen)

/-- Read one message off the front of the stream; `none` while bytes are missing.
A length that cannot be one ends the receive with only the length taken. -/
def recvOnProgram (program version : UInt32) (stream : List UInt8) :
    Option (Except TransportError (MessageHeader × List UInt8) × List UInt8) :=
  match readU32 stream with
  | .error _ => none
  | .ok (length, stream) =>
    match parseLengthPrefix length with
    | .error reason => some (.error (.rpc reason), stream)
    | .ok total =>
      let restLen := total - messageLenPrefixLen
      if stream.length < restLen then none
      else some (decodeReply program version (stream.take restLen), stream.drop restLen)

/-- What a call returns for what it received. -/
def callOutcome (serial : UInt32) (received : Except TransportError (MessageHeader × List UInt8)) :
    Except TransportError (UInt32 × List UInt8) := do
  let (reply, body) ← received
  if reply.serial ≠ serial then throw (.serialMismatch serial reply.serial)
  if reply.messageType ≠ .reply then throw (.unexpectedMessageType reply.messageType)
  match reply.status with
  | .ok => return (serial, body)
  | .error => throw (decodeRemoteError body)
  | .continue => throw (.unexpectedMessageType reply.messageType)

/-! ## The session and its server -/

structure Request where
  program : UInt32
  version : UInt32
  procedure : Int32
  payload : List UInt8
deriving DecidableEq

def Request.header (request : Request) (serial : UInt32) : MessageHeader where
  program := request.program
  version := request.version
  procedure := request.procedure
  messageType := .call
  serial := serial
  status := .ok

/-- The server chooses the status and the payload of an answer; the rest of the
header echoes the call. -/
structure Answer where
  status : MessageStatus
  payload : List UInt8
deriving DecidableEq

def Answer.frame (call : MessageHeader) (answer : Answer) : List UInt8 :=
  encodeMessage { call with messageType := .reply, status := answer.status } answer.payload

/-- The `n`-th answer is the answer to the `n`-th call.  The fields after `waiting`
record the history of the session. -/
structure Link where
  session : Session := {}
  calls : List MessageHeader := []
  answers : List Answer := []
  /-- What the server has sent and the session has not taken yet. -/
  stream : List UInt8 := []
  /-- Whether the last call is still receiving. -/
  waiting : Bool := false
  /-- The bodies that calls returned, with the number of the call. -/
  returned : List (Nat × List UInt8) := []
  received : Nat := 0
  timeouts : Nat := 0
  /-- Whether a receive was dropped after it had taken bytes. -/
  cut : Bool := false
deriving DecidableEq

inductive LinkEvent where
  | call (request : Request)
  | answer (answer : Answer)
  | receive
  /-- The deadline passes when the receive has taken that many bytes. -/
  | timeout (taken : Nat)

namespace Link

/-- The call that is receiving. -/
def pending (link : Link) : Option MessageHeader :=
  if link.waiting then link.calls.getLast? else none

def issue (link : Link) (request : Request) : Link :=
  let (serial, session) := link.session.nextSerial
  { link with
    session := session
    calls := link.calls ++ [request.header serial]
    waiting := true }

def finish (link : Link) (call : MessageHeader)
    (received : Except TransportError (MessageHeader × List UInt8)) (stream : List UInt8) : Link :=
  { link with
    stream := stream
    waiting := false
    returned :=
      match callOutcome call.serial received with
      | .ok (_, body) => link.returned ++ [(link.calls.length - 1, body)]
      | .error _ => link.returned
    received := link.received + 1 }

def giveUp (link : Link) (taken : Nat) : Link :=
  { link with
    stream := link.stream.drop taken
    waiting := false
    timeouts := link.timeouts + 1
    cut := link.cut || 0 < taken }

def step (link : Link) : LinkEvent → Option Link
  | .call request => if link.waiting then none else some (link.issue request)
  | .answer answer =>
    link.calls[link.answers.length]?.map fun call =>
      { link with
        answers := link.answers ++ [answer]
        stream := link.stream ++ answer.frame call }
  | .receive => do
    let call ← link.pending
    let (received, stream) ← recvOnProgram call.program call.version link.stream
    return link.finish call received stream
  | .timeout taken => do
    let call ← link.pending
    -- A receive that has all its bytes is done and does not time out.
    if taken ≤ link.stream.length ∧
        recvOnProgram call.program call.version (link.stream.take taken) = none then
      return link.giveUp taken
    else none

/-- Every body a call returned is the payload of the server's answer to it. -/
def ReturnsOwnReplies (link : Link) : Prop :=
  ∀ number body, (number, body) ∈ link.returned →
    ∃ answer, link.answers[number]? = some answer ∧ answer.status = .ok ∧ answer.payload = body

end Link

/-! ## Receiving a whole frame -/

variable {program version : UInt32} {header : MessageHeader} {payload : List UInt8}

theorem recvOnProgram_encodeMessage {more : List UInt8} (fits : messageMin + payload.length ≤ messageMax) :
    recvOnProgram program version (encodeMessage header payload ++ more) =
      some (decodeReply program version (header.encode ++ payload), more) := by
  have length : (UInt32.ofNat (messageMin + payload.length)).toNat = messageMin + payload.length := by
    rw [UInt32.toNat_ofNat']
    exact Nat.mod_eq_of_lt (Nat.lt_of_le_of_lt fits (by decide))
  have rest : messageMin + payload.length - messageLenPrefixLen = (header.encode ++ payload).length := by
    simp only [messageMin, messageLenPrefixLen, List.length_append, MessageHeader.length_encode]
    omega
  have enough : ¬ (header.encode ++ payload ++ more).length < (header.encode ++ payload).length := by
    rw [List.length_append]
    omega
  simp only [recvOnProgram, encodeMessage, List.append_assoc, readU32_toBeBytes, parseLengthPrefix,
    length, Nat.le_add_right, fits, and_self, if_true, rest]
  rw [← List.append_assoc, if_neg enough, List.take_left, List.drop_left]

theorem decodeReply_encode
    :
    decodeReply program version (header.encode ++ payload) =
      if header.program ≠ program ∨ header.version ≠ version then
        .error (.desynchronised program version header.program header.version)
      else .ok (header, payload) := by
  simp only [decodeReply, MessageHeader.decode_encode]
  rw [← MessageHeader.length_encode header, List.drop_left]

variable {received : Except TransportError (MessageHeader × List UInt8)}

theorem callOutcome_eq_ok {serial returned : UInt32} {body : List UInt8}
    (succeeded : callOutcome serial received = .ok (returned, body)) :
    ∃ reply, received = .ok (reply, body) ∧ reply.serial = serial ∧ reply.status = .ok := by
  cases received with
  | error reason => simp [callOutcome, bind, Except.bind] at succeeded
  | ok pair =>
    obtain ⟨reply, payload⟩ := pair
    simp only [callOutcome, bind, Except.bind, pure, Except.pure, throw, throwThe, MonadExceptOf.throw] at succeeded
    split at succeeded
    · contradiction
    · rename_i same
      split at succeeded
      · contradiction
      · cases status : reply.status with
        | ok =>
          simp only [status, Except.ok.injEq, Prod.mk.injEq] at succeeded
          obtain ⟨-, rfl⟩ := succeeded
          exact ⟨reply, rfl, by simpa using same, status⟩
        | error => simp [status] at succeeded
        | «continue» => simp [status] at succeeded

/-! ## Where the stream stands -/

section Zip

variable {α β : Type} {first : List α} {second : List β}

theorem zip_append_left (later : List α) (shorter : second.length ≤ first.length) :
    (first ++ later).zip second = first.zip second := by
  induction second generalizing first with
  | nil => simp
  | cons value rest ih =>
    cases first with
    | nil => simp at shorter
    | cons head tail => simpa using ih (by simpa using shorter)

theorem zip_append_right {value : α} (found : first[second.length]? = some value) (added : β) :
    first.zip (second ++ [added]) = first.zip second ++ [(value, added)] := by
  induction second generalizing first with
  | nil =>
    cases first with
    | nil => simp at found
    | cons head tail => simpa using found
  | cons answer rest ih =>
    cases first with
    | nil => simp at found
    | cons head tail => simpa using ih (by simpa using found)

end Zip

namespace Link

/-- The stream holds whole frames: the answers from number `received` on. -/
structure Aligned (link : Link) : Prop where
  nextSerial : link.session.serial = UInt32.ofNat link.calls.length
  serials : ∀ number call, link.calls[number]? = some call → call.serial = UInt32.ofNat number
  fits : ∀ answer ∈ link.answers, messageMin + answer.payload.length ≤ messageMax
  counts : link.received + link.timeouts + link.waiting.toNat = link.calls.length
  few : link.timeouts < 2 ^ 32
  stream : link.stream =
    ((link.calls.zip link.answers).drop link.received).flatMap fun (call, answer) =>
      answer.frame call
  answered : link.received ≤ link.answers.length ∧ link.answers.length ≤ link.calls.length

/-- Calls are made only while no receive has been dropped inside a frame, answers
have a possible length, and not all serials have been used up by timeouts. -/
def KeepsAligned (link : Link) : LinkEvent → Prop
  | .call _ => link.cut = false
  | .answer answer => messageMin + answer.payload.length ≤ messageMax
  | .receive => True
  | .timeout _ => link.timeouts + 1 < 2 ^ 32

instance (link : Link) : (event : LinkEvent) → Decidable (KeepsAligned link event)
  | .call _ => inferInstanceAs (Decidable (_ = _))
  | .answer _ => inferInstanceAs (Decidable (_ ≤ _))
  | .receive => inferInstanceAs (Decidable True)
  | .timeout _ => inferInstanceAs (Decidable (_ < _))

/-- A session that has been cut inside a frame is not used any more. -/
structure Sound (link : Link) : Prop where
  own : link.ReturnsOwnReplies
  abandoned : link.cut = true → link.waiting = false
  aligned : link.cut = false → link.Aligned

variable {link next : Link}

theorem sound_fresh : Sound {} where
  own := by simp [ReturnsOwnReplies]
  abandoned := by simp
  aligned := fun _ => ⟨rfl, by simp, by simp, rfl, by decide, rfl, by simp⟩

variable {call : MessageHeader}

theorem pending_eq_some (found : link.pending = some call) :
    link.waiting = true ∧ link.calls[link.calls.length - 1]? = some call := by
  unfold pending at found
  split at found
  · rename_i waiting
    exact ⟨waiting, List.getLast?_eq_getElem? ▸ found⟩
  · contradiction

theorem Sound.issue (sound : link.Sound) (whole : link.cut = false)
    (idle : ¬ link.waiting = true) (request : Request) : (link.issue request).Sound where
  own := sound.own
  abandoned := fun cut => by simp [Link.issue, whole] at cut
  aligned := by
    intro _
    have aligned := sound.aligned whole
    have counts := aligned.counts
    simp only [Bool.not_eq_true] at idle
    simp only [idle, Bool.toNat_false] at counts
    refine ⟨?_, ?_, aligned.fits, ?_, aligned.few, ?_, ?_⟩
    · simp only [Link.issue, Session.nextSerial, List.length_append, List.length_singleton,
        aligned.nextSerial, UInt32.ofNat_add]
      rfl
    · intro number call found
      by_cases earlier : number < link.calls.length
      · simp only [Link.issue, List.getElem?_append_left earlier] at found
        exact aligned.serials number call found
      · have bound := (List.getElem?_eq_some_iff.mp found).1
        simp only [Link.issue, List.length_append, List.length_singleton] at bound
        obtain rfl : number = link.calls.length := by omega
        simp only [Link.issue, Session.nextSerial, List.getElem?_concat_length, Option.some.injEq] at found
        rw [← found]
        exact aligned.nextSerial
    · simp only [Link.issue, List.length_append, List.length_singleton, Bool.toNat_true]
      omega
    · -- A call that is not answered yet adds no frame.
      have zipped := zip_append_left [request.header link.session.serial] aligned.answered.2
      simp only [Link.issue, Session.nextSerial, zipped]
      exact aligned.stream
    · have answered := aligned.answered
      simp only [Link.issue, List.length_append, List.length_singleton]
      omega

theorem Sound.answer {answer : Answer} (sound : link.Sound) (found : link.calls[link.answers.length]? = some call)
    (fits : messageMin + answer.payload.length ≤ messageMax) :
    Sound { link with
      answers := link.answers ++ [answer]
      stream := link.stream ++ answer.frame call } where
  own := by
    intro number body returned
    obtain ⟨old, stored, succeeded, same⟩ := sound.own number body returned
    have position := (List.getElem?_eq_some_iff.mp stored).1
    exact ⟨old, (List.getElem?_append_left position).trans stored, succeeded, same⟩
  abandoned := sound.abandoned
  aligned := by
    intro whole
    have aligned := sound.aligned whole
    have position : link.answers.length < link.calls.length := (List.getElem?_eq_some_iff.mp found).1
    have room : link.received ≤ (link.calls.zip link.answers).length := by
      rw [List.length_zip]
      have answered := aligned.answered
      omega
    refine ⟨aligned.nextSerial, aligned.serials, ?_, aligned.counts, aligned.few, ?_, ?_⟩
    · intro other member
      rcases List.mem_append.mp member with old | new
      · exact aligned.fits other old
      · rwa [List.mem_singleton.mp new]
    · change link.stream ++ answer.frame call = _
      rw [zip_append_right found answer, List.drop_append_of_le_length room, List.flatMap_append,
        ← aligned.stream, List.flatMap_singleton]
    · have answered := aligned.answered
      simp only [List.length_append, List.length_singleton]
      omega

theorem Aligned.front (aligned : link.Aligned) {program version : UInt32} {rest : List UInt8}
    (taken : recvOnProgram program version link.stream = some (received, rest)) :
    ∃ asked answer, link.calls[link.received]? = some asked ∧
      link.answers[link.received]? = some answer ∧
      received = decodeReply program version (MessageHeader.encode
        { asked with messageType := .reply, status := answer.status } ++ answer.payload) ∧
      rest = ((link.calls.zip link.answers).drop (link.received + 1)).flatMap fun (call, answer) =>
        answer.frame call := by
  rw [aligned.stream] at taken
  cases frames : (link.calls.zip link.answers).drop link.received with
  | nil =>
    rw [frames] at taken
    cases taken
  | cons front later =>
    obtain ⟨asked, answer⟩ := front
    have position : (link.calls.zip link.answers)[link.received]? = some (asked, answer) := by
      rw [← List.head?_drop, frames, List.head?_cons]
    obtain ⟨issued, stored⟩ := List.getElem?_zip_eq_some.mp position
    have remaining : (link.calls.zip link.answers).drop (link.received + 1) = later := by
      rw [← List.tail_drop, frames, List.tail_cons]
    rw [frames, List.flatMap_cons] at taken
    change recvOnProgram program version (encodeMessage _ _ ++ _) = _ at taken
    rw [recvOnProgram_encodeMessage (aligned.fits answer (List.mem_of_getElem? stored))] at taken
    simp only [Option.some.injEq, Prod.mk.injEq] at taken
    exact ⟨asked, answer, issued, stored, taken.1.symm, by rw [remaining]; exact taken.2.symm⟩

theorem Aligned.same_call (aligned : link.Aligned) (waiting : link.waiting = true)
    {asked : MessageHeader} (issued : link.calls[link.received]? = some asked)
    (pending : link.calls[link.calls.length - 1]? = some call)
    (serials : asked.serial = call.serial) : link.calls.length - 1 = link.received := by
  have counts := aligned.counts
  have few := aligned.few
  simp only [waiting, Bool.toNat_true] at counts
  rw [aligned.serials _ _ issued, aligned.serials _ _ pending] at serials
  have same := congrArg UInt32.toNat serials
  simp only [UInt32.toNat_ofNat'] at same
  omega

theorem Sound.finish {rest : List UInt8} (sound : link.Sound) (pending : link.pending = some call)
    (taken : recvOnProgram call.program call.version link.stream = some (received, rest)) :
    (link.finish call received rest).Sound := by
  obtain ⟨waiting, last⟩ := pending_eq_some pending
  have whole : link.cut = false := by
    cases cut : link.cut with
    | false => rfl
    | true =>
      rw [sound.abandoned cut] at waiting
      contradiction
  have aligned := sound.aligned whole
  obtain ⟨asked, answer, issued, stored, decoded, remaining⟩ := aligned.front taken
  refine ⟨?_, fun _ => rfl, fun _ => ?_⟩
  · intro number body returned
    simp only [Link.finish] at returned
    split at returned
    · rename_i serial own succeeded
      rcases List.mem_append.mp returned with old | new
      · exact sound.own number body old
      · simp only [List.mem_singleton, Prod.mk.injEq] at new
        obtain ⟨rfl, rfl⟩ := new
        obtain ⟨reply, ok, same, status⟩ := callOutcome_eq_ok succeeded
        rw [decoded, decodeReply_encode] at ok
        split at ok
        · contradiction
        · simp only [Except.ok.injEq, Prod.mk.injEq] at ok
          obtain ⟨rfl, rfl⟩ := ok
          rw [aligned.same_call waiting issued last same]
          exact ⟨answer, stored, status, rfl⟩
    · exact sound.own number body returned
  · have counts := aligned.counts
    simp only [waiting, Bool.toNat_true] at counts
    have answered := (List.getElem?_eq_some_iff.mp stored).1
    refine ⟨aligned.nextSerial, aligned.serials, aligned.fits, ?_, aligned.few, remaining, ?_⟩
    · simp only [Link.finish, Bool.toNat_false]
      omega
    · simp only [Link.finish]
      exact ⟨answered, aligned.answered.2⟩

theorem Sound.giveUp (sound : link.Sound)
    (pending : link.pending = some call) (few : link.timeouts + 1 < 2 ^ 32) (taken : Nat) :
    (link.giveUp taken).Sound := by
  obtain ⟨waiting, -⟩ := pending_eq_some pending
  refine ⟨sound.own, fun _ => rfl, ?_⟩
  intro whole
  simp only [Link.giveUp, Bool.or_eq_false_iff, decide_eq_false_iff_not] at whole
  obtain ⟨uncut, none⟩ := whole
  obtain rfl : taken = 0 := by omega
  have aligned := sound.aligned uncut
  have counts := aligned.counts
  simp only [waiting, Bool.toNat_true] at counts
  refine ⟨aligned.nextSerial, aligned.serials, aligned.fits, ?_, few, aligned.stream, aligned.answered⟩
  simp only [Link.giveUp, Bool.toNat_false]
  omega

theorem Sound.step {event : LinkEvent} (sound : link.Sound) (allowed : link.KeepsAligned event)
    (stepped : link.step event = some next) : next.Sound := by
  cases event with
  | call request =>
    simp only [Link.step, Option.ite_none_left_eq_some, Option.some.injEq] at stepped
    obtain ⟨idle, rfl⟩ := stepped
    exact sound.issue allowed idle request
  | answer answer =>
    simp only [Link.step, Option.map_eq_some_iff] at stepped
    obtain ⟨call, found, rfl⟩ := stepped
    exact sound.answer found allowed
  | receive =>
    simp only [Link.step, bind, Option.bind_eq_some_iff, pure, Option.some.injEq] at stepped
    obtain ⟨call, pending, ⟨received, stream⟩, taken, rfl⟩ := stepped
    exact sound.finish pending taken
  | timeout taken =>
    simp only [Link.step, bind, Option.bind_eq_some_iff, pure, Option.ite_none_right_eq_some,
      Option.some.injEq] at stepped
    obtain ⟨call, pending, -, rfl⟩ := stepped
    exact sound.giveUp pending allowed taken

end Link

/-! ## Whose body a call returns -/

/-- In every run in which a session is not used again after a receive was dropped
inside a frame, replies have a possible length and fewer than `2 ^ 32` receives time
out, each call that returns a body returns that of the server's reply to it. -/
theorem session_returns_own_replies {link : Link} {events : List LinkEvent}
    (run : Steps Link.step Link.KeepsAligned {} events link) : link.ReturnsOwnReplies :=
  (run.invariant (fun sound allowed stepped => sound.step allowed stepped) Link.sound_fresh).own

/-- A call that succeeds, one whose receive times out and leaves its reply on the
stream, and one that takes this reply and fails on the serial. -/
def timedOutThenMismatch : List LinkEvent :=
  let request : Request := ⟨remoteProgram, remoteProtocolVersion, 353, []⟩
  [.call request, .answer ⟨.ok, [65]⟩, .receive, .call request, .timeout 0, .answer ⟨.ok, [66]⟩,
    .call request, .answer ⟨.ok, [67]⟩, .receive]

theorem session_returns_own_replies_after_timeout :
    ∃ link, Steps Link.step Link.KeepsAligned {} timedOutThenMismatch link ∧
      link.ReturnsOwnReplies ∧ link.returned = [(0, [65])] ∧ link.received = 2 := by
  obtain ⟨link, executed, returned, received⟩ : ∃ link,
      executeIf Link.step Link.KeepsAligned {} timedOutThenMismatch = some link ∧
        link.returned = [(0, [65])] ∧ link.received = 2 := by
    exact ⟨_, rfl, by decide +kernel⟩
  have run := Steps.of_executeIf executed
  exact ⟨link, run, session_returns_own_replies run, returned, received⟩

/-- The frame of a successful reply to call number one, with one byte as its body. -/
def forgedReply : List UInt8 :=
  encodeMessage
    { program := remoteProgram, version := remoteProtocolVersion, procedure := 353,
      messageType := .reply, serial := 1, status := .ok } [66]

/-- The first receive is dropped right after the header of a reply whose payload is
a frame in itself; the second call takes that frame for its reply. -/
def cutInsidePayload : List LinkEvent :=
  let request : Request := ⟨remoteProgram, remoteProtocolVersion, 353, []⟩
  [.call request, .answer ⟨.ok, forgedReply⟩, .timeout messageMin, .call request, .receive,
    .answer ⟨.ok, [65]⟩]

theorem session_returns_forged_reply :
    ∃ link, Steps Link.step (fun _ _ => True) {} cutInsidePayload link ∧
      link.returned = [(1, [66])] ∧ link.answers[1]? = some ⟨.ok, [65]⟩ ∧
      ¬ link.ReturnsOwnReplies := by
  obtain ⟨link, executed, returned, answered⟩ : ∃ link,
      execute Link.step {} cutInsidePayload = some link ∧
        link.returned = [(1, [66])] ∧ link.answers[1]? = some ⟨.ok, [65]⟩ := by
    exact ⟨_, rfl, by decide +kernel⟩
  refine ⟨link, Steps.of_execute executed, returned, answered, ?_⟩
  intro own
  obtain ⟨answer, stored, -, same⟩ := own 1 [66] (by simp [returned])
  rw [answered] at stored
  cases stored
  simp at same

end Banlieue.Libvirt
