import AppServiceOperator.Manifest.Shape
/-!
# Routes

The part of a route that the operator sets: the service that traffic goes to, and its port.

| here | in the operator |
| --- | --- |
| `RouteSpec`, `RouteTarget`, `PortReference` | `RouteSpec`, `RouteTargetReference`, the port in `RoutePort` |
-/
namespace AppServiceOperator

/-- A port by number or by name. -/
inductive PortReference where
  | number (n : Int)
  | named (s : String)
  deriving DecidableEq, Repr

namespace PortReference

def toJson : PortReference → Json
  | .number n => .int n
  | .named s => .str s

def ofJson? : Json → Option PortReference
  | .int n => if Shape.fitsInt32 n then some (.number n) else none
  | .str s => some (.named s)
  | _ => none

end PortReference

/-- The object that traffic goes to. -/
structure RouteTarget where
  kind : String
  name : String
  deriving DecidableEq, Repr

structure RouteSpec where
  /-- The host, which the router assigns where it is not given. -/
  host : Option String
  target : RouteTarget
  port : Option PortReference
  deriving DecidableEq, Repr

namespace RouteSpec

def toJson (r : RouteSpec) : Json :=
  .ofOptional [("host", r.host.map .str), ("port", r.port.map fun p => .obj [("targetPort", p.toJson)]),
    ("to", some (.obj [("kind", .str r.target.kind), ("name", .str r.target.name)]))]

def target? (j : Json) : Option RouteTarget := do
  let [kind, name] ← j.fields? ["kind", "name"] | none
  return ⟨← kind.bind Json.str?, ← name.bind Json.str?⟩

def port? (j : Json) : Option PortReference := do
  let [port] ← j.fields? ["targetPort"] | none
  port.bind PortReference.ofJson?

def ofJson? (j : Json) : Option RouteSpec := do
  let [host, target, port] ← j.fields? ["host", "to", "port"] | none
  return ⟨← Json.optional Json.str? host, ← target.bind target?, ← Json.optional port? port⟩

theorem settable_toJson (r : RouteSpec) : r.toJson.Settable := by
  have hp (p : PortReference) : p.toJson ≠ .null ∧ p.toJson.nullFree = true := by
    cases p <;> simp [PortReference.toJson, Json.nullFree]
  obtain ⟨host, target, port⟩ := r
  refine Json.settable_ofOptional fun m hm v hv => ?_
  simp only [List.mem_cons, List.not_mem_nil, or_false] at hm
  rcases hm with rfl | rfl | rfl
  · obtain ⟨h, -, rfl⟩ := Option.map_eq_some_iff.1 hv
    simp [Json.Settable, Json.nullFree]
  · obtain ⟨p, -, rfl⟩ := Option.map_eq_some_iff.1 hv
    simp [Json.Settable, Json.nullFree, Json.nullFreeMembers_iff, hp]
  · cases hv
    simp [Json.Settable, Json.nullFree, Json.nullFreeMembers_iff]

end RouteSpec

end AppServiceOperator
