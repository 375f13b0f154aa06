import AppServiceOperator.Cluster.Client
import AppServiceOperator.Json.MergePatch
import AppServiceOperator.Simulation.Rule
import AppServiceOperator.Text.Occurrence
/-!
# A scripted server

A server that answers requests as its rules say. Where no rule comes into play it sends back what
it got, keeps one AppService and lists the pods that it was given. It writes down every request.
-/
namespace AppServiceOperator.Simulation

/-- What a rule does with a request. -/
inductive Reaction where
  | respond (r : Response)
  /-- The request is never answered. -/
  | hang
  deriving Repr

/-- A reaction to requests with a method and with a part in their target, where these are given. -/
structure ServerScript where
  method : Option String := none
  part : Option String := none
  reaction : Reaction
  deriving Repr

structure Server where
  app : Option Json := none
  pods : List Json := []
  rules : List (Rule ServerScript) := []
  clock : Instant := ⟨0, 0⟩
  /-- The requests, the last one first. -/
  requests : List Request := []

namespace Server

def applies (r : Request) (s : ServerScript) : Bool :=
  s.method.all (· = r.method.name) && s.part.all fun part => Text.hasPart part.toList r.target.toList

/-- An answer with the text of a value. -/
def answer (status : Nat) (j : Json) : Reaction :=
  .respond (.answer status (.bytes (Text.Utf8.encode j.compact)))

def notFound : Reaction :=
  answer 404 (.obj [("apiVersion", .str "v1"), ("code", .int 404), ("kind", .str "Status"),
    ("message", .str "not found"), ("metadata", .obj []), ("reason", .str "NotFound"),
    ("status", .str "Failure")])

def podList (pods : List Json) : Json :=
  .obj [("apiVersion", .str "v1"), ("items", .arr pods), ("kind", .str "PodList"), ("metadata", .obj [])]

def path (r : Request) : String := String.ofList (r.target.toList.takeWhile (· ≠ '?'))

def isAboutApp (r : Request) : Bool := Text.hasPart "/appservices/".toList r.target.toList

/-- What the server does of its own accord. -/
def react (r : Request) (s : Server) : Reaction × Server :=
  let body := r.body.getD .null
  match r.method with
  | .post => (answer 201 body, s)
  | .put => (answer 200 body, if isAboutApp r then { s with app := some body } else s)
  | .patch =>
    match isAboutApp r, s.app with
    | true, some app =>
      let app := app.mergePatch (.obj [("status", .ofOption (body.get? "status"))])
      (answer 200 app, { s with app := some app })
    | _, _ => (answer 200 body, s)
  | .get =>
    if isAboutApp r then
      match s.app with
      | some app => (answer 200 app, s)
      | none => (notFound, s)
    else if (path r).endsWith "/pods" then (answer 200 (podList s.pods), s)
    else (notFound, s)

/-- Take a request. -/
def serve (r : Request) (s : Server) : Reaction × Server :=
  let (script, rules) := Rule.fire (applies r) s.rules
  let s := { s with rules, requests := r :: s.requests }
  match script with
  | some script => (script.reaction, s)
  | none => react r s

/-- The answer to what the client asks. A request without a time limit that is never answered
counts as a broken connection. -/
def respond : (w : Wire) → Server → w.Answer × Server
  | .send r, s =>
    match s.serve r with
    | (.respond response, s) => (response, s)
    | (.hang, s) => (.broken "no answer", s)
  | .sendWithin r _, s =>
    match s.serve r with
    | (.respond response, s) => (some response, s)
    | (.hang, s) => (none, s)
  | .now, s => (s.clock, s)

/-- Run a program of the client against the server. -/
def run {α : Type} (p : Exchange α) (s : Server) : α × Server := p.run respond s

end Server

end AppServiceOperator.Simulation
