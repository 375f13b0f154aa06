import AppServiceOperator.Json.Printer
import AppServiceOperator.Number.Numeral
import AppServiceOperator.Reconcile.Pass
import AppServiceOperator.Simulation.Rule
/-!
# A world in memory

A cluster in memory that answers the calls of the operator. It stores one AppService and any
number of objects, writes a line for every call, and fails where a fault says so. Time passes only
when it is told to.
-/
namespace AppServiceOperator.Simulation

/-- The calls that can fail. -/
inductive Target where
  | create | fetch | patch | fetchApp | replaceApp | writeStatus | listPods | exec
  deriving DecidableEq, Repr

instance : Enumeration Target where
  values := [.create, .fetch, .patch, .fetchApp, .replaceApp, .writeStatus, .listPods, .exec]
  spelling
    | .create => "create"
    | .fetch => "get_resource"
    | .patch => "patch"
    | .fetchApp => "get"
    | .replaceApp => "replace"
    | .writeStatus => "replace_status"
    | .listPods => "list"
    | .exec => "exec"

/-- A failure of calls to a target, about an object where one is given. -/
structure Fault where
  target : Target
  kind : Option String := none
  name : Option String := none
  error : OperatorError
  deriving Repr

/-- How commands in pods end. -/
structure ExecBehaviour where
  output : ExecOutput := {}
  /-- The seconds that pass before the end. -/
  delaySeconds : Nat := 0
  /-- Whether there is no end. -/
  hangs : Bool := false
  deriving Repr

/-- What an object is stored under. -/
structure ObjectKey where
  kind : String
  ns : String
  name : String
  deriving DecidableEq, Repr

namespace ObjectKey

def ofResource (r : ManagedResource) : ObjectKey := ⟨r.kind.name, r.ns.getD "", r.name⟩

def text (k : ObjectKey) : String := k.kind ++ " " ++ k.ns ++ "/" ++ k.name

end ObjectKey

structure Publication where
  about : ObjectReference
  notice : Notice
  deriving Repr

structure World where
  app : Option AppService := none
  objects : List (ObjectKey × Json) := []
  pods : List Pod := []
  exec : ExecBehaviour := {}
  faults : List (Rule Fault) := []
  clock : Instant := ⟨0, 0⟩
  /-- The lines of the calls, the last one first. -/
  log : List String := []
  /-- The published events, the last one first. -/
  published : List Publication := []

namespace World

/-! ## Objects -/

def object? (w : World) (k : ObjectKey) : Option Json := w.objects.lookup k

def putObject (w : World) (k : ObjectKey) (j : Json) : World :=
  { w with objects := (k, j) :: w.objects.filter (·.1 ≠ k) }

def removeObject (w : World) (k : ObjectKey) : World :=
  { w with objects := w.objects.filter (·.1 ≠ k) }

/-- Merge a patch into a stored object, if there is one. -/
def mergeObject? (w : World) (k : ObjectKey) (patch : Json) : Option World :=
  (w.object? k).map fun j => w.putObject k (j.mergePatch patch)

/-- The stored keys as texts, in order. -/
def objectList (w : World) : List String := (w.objects.map (·.1.text)).mergeSort (· ≤ ·)

/-! ## Calls -/

def note (w : World) (line : String) : World := { w with log := line :: w.log }

/-- Write the line of a call and see whether it fails. -/
def enter (w : World) (line : String) (target : Target) (kind name : String) : Option OperatorError × World :=
  let applies (f : Fault) :=
    f.target = target && f.kind.all (· = kind) && f.name.all (· = name)
  let (fault, faults) := Rule.fire applies w.faults
  (fault.map (·.error), { w.note line with faults })

/-- Answer a call that may fail. -/
def attempt {α : Type} (w : World) (line : String) (target : Target) (kind name : String)
    (act : World → Except OperatorError α × World) : Except OperatorError α × World :=
  match w.enter line target kind name with
  | (some e, w) => (.error e, w)
  | (none, w) => act w

/-- Answer a call about an object. -/
def attemptOn {α : Type} (w : World) (r : ManagedResource) (verb : String) (target : Target)
    (act : World → Except OperatorError α × World) : Except OperatorError α × World :=
  w.attempt (verb ++ " " ++ (ObjectKey.ofResource r).text) target r.kind.name r.name act

def create (r : ManagedResource) (w : World) : Except OperatorError Unit × World :=
  match w.object? (.ofResource r) with
  | some _ => (.error (.alreadyExists r.kind.name r.name), w)
  | none => (.ok (), w.putObject (.ofResource r) r.toJson)

def patch (r : ManagedResource) (body : Json) (w : World) : Except OperatorError Unit × World :=
  match w.mergeObject? (.ofResource r) body with
  | some w => (.ok (), w)
  | none => (.error (.notFound r.kind.name r.name), w)

def appKind : String := ApiResource.appServices.kind

/-- The version after a write, where versions are numbers of 64 bits. -/
def nextVersion (version : String) : String :=
  match Numeral.natural 0xFFFFFFFFFFFFFFFF version with
  | .ok n => toString (n + 1)
  | .error _ => version

/-- Write the stored AppService, unless the writer has read an older version. -/
def writeApp (given : AppService) (change : AppService → AppService) (w : World) :
    Except OperatorError AppService × World :=
  match w.app with
  | none => (.error (.notFound appKind given.name), w)
  | some stored =>
    let version := stored.metadata.resourceVersion
    if version.isSome && version ≠ given.metadata.resourceVersion then
      (.error (.conflict appKind given.name "the object has been modified"), w)
    else
      let metadata := { stored.metadata with resourceVersion := version.map nextVersion }
      let written := { change stored with metadata }
      (.ok written, { w with app := some written })

/-- The end of a command, unless it takes longer than the time given. -/
def execResult (b : ExecBehaviour) (timeoutSeconds : Nat) : Option ExecOutput :=
  if b.hangs || timeoutSeconds < b.delaySeconds then none else some b.output

def execLine (ns pod : String) (command : List String) : String :=
  "pods.exec " ++ ns ++ " " ++ pod ++ " " ++ (Json.arr (command.map .str)).compact

/-- The answer to a call. -/
def answer : (c : Call) → World → c.Answer × World
  | .fetchApp ns name, w =>
    w.attempt ("app.get " ++ ns ++ "/" ++ name) .fetchApp appKind name fun w => (.ok w.app, w)
  | .replaceApp app, w =>
    w.attempt ("app.replace " ++ app.name) .replaceApp appKind app.name
      (writeApp app fun stored => { stored with spec := app.spec })
  | .writeStatus app, w =>
    w.attempt ("app.replace_status " ++ app.name) .writeStatus appKind app.name
      (writeApp app fun stored => { stored with status := app.status })
  | .create r, w => w.attemptOn r "create" .create (create r)
  | .fetch r, w => w.attemptOn r "get" .fetch fun w => (.ok (w.object? (.ofResource r)), w)
  | .patch r body, w => w.attemptOn r "patch" .patch (patch r body)
  | .listPods ns selector, w =>
    w.attempt ("pods.list " ++ ns ++ " " ++ selector) .listPods "Pod" selector fun w => (.ok w.pods, w)
  | .exec ns pod command timeoutSeconds, w =>
    match w.enter (execLine ns pod command) .exec "Pod" pod with
    | (some e, w) => (some (.error e), w)
    | (none, w) => ((execResult w.exec timeoutSeconds).map .ok, w)
  | .publish about notice, w => ((), { w with published := ⟨about, notice⟩ :: w.published })
  | .now, w => (w.clock, w)

/-- Run a program of the operator in the world. -/
def run {α : Type} (p : Operation α) (w : World) : α × World := p.run answer w

/-- The world with nothing written down yet. -/
def fresh (w : World) : World := { w with log := [], published := [] }

end World

end AppServiceOperator.Simulation
