import AppServiceOperator.Cluster.Http
import AppServiceOperator.Effect.Call
/-!
# Recording events

The recorder writes the events of the operator to the server. An event that was written before
about the same object, for the same reason and action, is not written again: the first one gets a
count and the time of the last observation. What was written is remembered for six minutes.
-/
namespace AppServiceOperator

/-- Who reports. -/
structure Reporter where
  controller : String := "controller-appservice"
  /-- The name of the pod that reports, where it is known. -/
  pod : Option String := none
  deriving DecidableEq, Repr

def Reporter.instanceName (r : Reporter) : String := r.pod.getD r.controller

structure EventSeries where
  count : Nat
  lastObserved : Instant
  deriving DecidableEq, Repr

structure Event where
  name : String
  about : ObjectReference
  notice : Notice
  time : Instant
  series : Option EventSeries
  deriving DecidableEq, Repr

namespace Event

def hexText (n : Nat) : String := String.ofList (Nat.toDigits 16 n)

/-- The suffix of the name of an event: its time in nanoseconds, or in seconds where those do not
fit 64 bits. -/
def timeSuffix (t : Instant) : String :=
  if t.totalNanos < 0x8000000000000000 then hexText t.totalNanos.toNat else hexText t.seconds.toNat

/-- The first event of its kind. -/
def first (reporter : Reporter) (about : ObjectReference) (notice : Notice) (now : Instant) : Event where
  name := about.name.getD reporter.controller ++ "." ++ timeSuffix now
  about
  notice
  time := now
  series := none

/-- The event observed once more. -/
def again (e : Event) (now : Instant) : Event :=
  let count := match e.series with
    | some s => s.count + 1
    | none => 2
  { e with series := some ⟨count, now⟩ }

def metadata (e : Event) : ObjectMeta := { name := some e.name, ns := e.about.ns }

def toJson (reporter : Reporter) (e : Event) : Json :=
  ApiResource.events.manifest e.metadata (Json.putFields [
    ("action", some (.str e.notice.action)),
    ("eventTime", some (.str (Timestamp.write e.time))),
    ("note", e.notice.note.map .str),
    ("reason", some (.str e.notice.reason)),
    ("regarding", some e.about.toJson),
    ("reportingController", some (.str reporter.controller)),
    ("reportingInstance", some (.str reporter.instanceName)),
    ("series", e.series.map fun s => .obj [("count", .int s.count),
      ("lastObservedTime", .str (Timestamp.write s.lastObserved))]),
    ("type", some (Enumeration.toJson e.notice.type))] [])

/-- When the event was last observed. -/
def lastTime (e : Event) : Instant :=
  match e.series with
  | some s => s.lastObserved
  | none => e.time

/-- Whether two events are the same but for their notes and times. -/
def isLike (e : Event) (about : ObjectReference) (notice : Notice) : Bool :=
  e.about = about && e.notice.type = notice.type && e.notice.reason = notice.reason &&
    e.notice.action = notice.action

end Event

/-- The events that were written lately. -/
structure Recorder where
  reporter : Reporter := {}
  remembered : List Event := []
  deriving DecidableEq, Repr

namespace Recorder

/-- How long an event is remembered, in seconds. -/
def rememberedSeconds : Int := 360

def forgetOld (r : Recorder) (now : Instant) : Recorder :=
  { r with remembered := r.remembered.filter fun e =>
      now.totalNanos < e.lastTime.totalNanos + rememberedSeconds * 1000000000 }

/-- The event to write. -/
def next (r : Recorder) (about : ObjectReference) (notice : Notice) (now : Instant) : Event :=
  match r.remembered.find? (·.isLike about notice) with
  | some e => e.again now
  | none => .first r.reporter about notice now

def remember (r : Recorder) (e : Event) : Recorder :=
  { r with remembered := e :: r.remembered.filter fun old => !old.isLike e.about e.notice }

end Recorder

end AppServiceOperator
