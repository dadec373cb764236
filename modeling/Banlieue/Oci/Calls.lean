import Banlieue.Data.Attempt
import Banlieue.Data.SparseFile
import Banlieue.Oci.Manifest

namespace Banlieue.Oci

open Banlieue.Data Banlieue.Data.Program

/-! # What the client asks for -/

inductive Method where
  | get | head | post | put
deriving DecidableEq

inductive Authorization where
  | basic (username password : String)
  | bearer (token : String)
deriving DecidableEq

structure Request where
  method : Method
  url : String
  authorization : Option Authorization := none
  accept : Option String := none
  contentType : Option String := none
  contentLength : Option Nat := none
  body : List UInt8 := []
deriving DecidableEq

/-- The body arrives in chunks, and may end in a failure. -/
structure Response where
  status : Nat
  location : Option String := none
  wwwAuthenticate : Option String := none
  body : List (Except String (List UInt8)) := []

inductive FileCall where
  | removeFile (path : String)
  | createNew (path : String)
  | seekCurrent (path : String) (count : Nat)
  | writeAll (path : String) (bytes : List UInt8)
  | setLen (path : String) (length : Nat)
  | syncAll (path : String)
  | rename (source target : String)
deriving DecidableEq

inductive Call where
  | send (request : Request)
  /-- Compress a file into a temporary copy: the length of the file, and the copy. -/
  | compressedCopy (path scratch : String)
  | file (call : FileCall)

abbrev Reply : Call → Type
  | .send _ => Except String Response
  | .compressedCopy _ _ => Except String (Nat × List UInt8)
  | .file _ => Except String Unit

abbrev Pass := ExceptT Error (Program Call Reply)

def ofExcept {α : Type} : Except Error α → Pass α
  | .ok value => pure value
  | .error reason => throw reason

def exchange (asked : Request) : Pass Response := consult (.send asked) (Except.mapError .http)

def perform (call : FileCall) : Pass Unit := consult (.file call) (Except.mapError .io)

/-! # What answers

The network and the registry answer as they like.  A file operation is carried out or
fails; a write that fails may have written a part.
-/

structure Answer where
  response : Except String Response := .error "no answer"
  compressed : Except String (Nat × List UInt8) := .error "no answer"
  failure : Option (String × Nat) := none

structure World where
  files : String → Option (List UInt8)
  /-- Where the open file is written next. -/
  position : Nat := 0
  exchanges : List (Request × Except String Response) := []

namespace World

def store (world : World) (path : String) (contents : Option (List UInt8)) : World :=
  { world with files := fun other => if other = path then contents else world.files other }

@[simp] theorem store_files_self (world : World) (path : String) (contents : Option (List UInt8)) :
    (world.store path contents).files path = contents := if_pos rfl

theorem store_files_of_ne (world : World) {path other : String} (contents : Option (List UInt8))
    (apart : other ≠ path) : (world.store path contents).files other = world.files other := if_neg apart

/-- The open file, at its position. -/
def opened (world : World) (path : String) : SparseFile UInt8 :=
  ⟨(world.files path).getD [], world.position⟩

def put (world : World) (path : String) (file : SparseFile UInt8) : World :=
  { world.store path (some file.contents) with position := file.position }

def carry (world : World) : FileCall → Except String Unit × World
  | .removeFile path =>
    match world.files path with
    | none => (.error "No such file or directory", world)
    | some _ => (.ok (), world.store path none)
  | .createNew path =>
    match world.files path with
    | none => (.ok (), world.put path .new)
    | some _ => (.error "File exists", world)
  | .seekCurrent path count => (.ok (), world.put path ((world.opened path).seek count))
  | .writeAll path bytes => (.ok (), world.put path ((world.opened path).write 0 bytes))
  | .setLen path length => (.ok (), world.put path ((world.opened path).setLength 0 length))
  | .syncAll _ => (.ok (), world)
  | .rename source target =>
    match world.files source with
    | none => (.error "No such file or directory", world)
    | some contents => (.ok (), (world.store source none).store target (some contents))

/-- What a failed operation leaves. -/
def fail (world : World) (written : Nat) : FileCall → World
  | .writeAll path bytes => world.put path ((world.opened path).write 0 (bytes.take written))
  | _ => world

def record (world : World) (request : Request) (response : Except String Response) : World :=
  { world with exchanges := world.exchanges ++ [(request, response)] }

def serve (world : World) (answer : Answer) : (call : Call) → Reply call × World
  | .send request =>
    (answer.response, world.record request answer.response)
  | .compressedCopy _ _ => (answer.compressed, world)
  | .file call =>
    match answer.failure with
    | some (why, written) => (.error why, world.fail written call)
    | none => world.carry call

end World

abbrev worldBackend : Backend Call Reply := ⟨World, Answer, World.serve⟩

/-- Whatever the answers, within what is `allowed`, the pass is stopped or fails only in
`safe` worlds, and returns only what `post` says. -/
def Settles {α : Type} (allowed : World → Call → Option Answer → Prop) (safe : World → Prop) (pass : Pass α)
    (world : World) (post : α → World → Prop) : Prop :=
  @Secures Call Reply α Error worldBackend allowed safe pass world post

section

variable {α : Type} {allowed : World → Call → Option Answer → Prop} {safe : World → Prop} {world : World}

theorem settles_ofExcept {β : Type} {result : Except Error α} {next : α → Pass β} {post : β → World → Prop}
    (kept : safe world) (rest : ∀ value, result = .ok value → Settles allowed safe (next value) world post) :
    Settles allowed safe (ofExcept result >>= next) world post := by
  cases result with
  | error reason => exact Secures.throw kept
  | ok value => exact rest value rfl

theorem settles_exchange {asked : Request} {post : Response → World → Prop} (kept : safe world)
    (recorded : ∀ response, safe (world.record asked response))
    (replied : ∀ answer response, allowed world (.send asked) (some answer) → answer.response = .ok response →
      post response (world.record asked (.ok response))) : Settles allowed safe (exchange asked) world post := by
  refine Secures.consult (fun _ => kept) fun answer permitted => ?_
  simp only [World.serve]
  cases outcome : answer.response with
  | error why => exact recorded _
  | ok response => exact replied answer response permitted outcome

theorem settles_perform {call : FileCall} {post : Unit → World → Prop}
    (stopped : allowed world (.file call) none → safe world)
    (failed : ∀ {answer why written}, allowed world (.file call) (some answer) →
      answer.failure = some (why, written) → safe (world.fail written call))
    (refused : ∀ why, (world.carry call).1 = .error why → safe (world.carry call).2)
    (carried : (world.carry call).1 = .ok () → post () (world.carry call).2) :
    Settles allowed safe (perform call) world post := by
  refine Secures.consult stopped fun answer permitted => ?_
  simp only [World.serve]
  cases failure : answer.failure with
  | some failure => exact failed permitted failure
  | none =>
    cases outcome : (world.carry call).1 with
    | error why => exact refused why outcome
    | ok value => exact carried outcome

end

end Banlieue.Oci
