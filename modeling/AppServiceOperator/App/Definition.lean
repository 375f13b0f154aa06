import AppServiceOperator.App.AppService
/-!
# The definition of the resource

What is installed in a cluster so that it accepts AppServices: names, columns for listings, and the
schema that the server checks and prunes objects by.

| here | in the operator |
| --- | --- |
| `AppService.definition` | `AppService::crd`, derived from the types of spec and status |
-/
namespace AppServiceOperator

/-! ## Schemas of values, as JSON -/

namespace Schema

def ofType (type description : String) (more : List (String × Json)) : Json :=
  .ofMembers (("type", .str type) :: ("description", .str description) :: more)

def text (description : String) : Json := ofType "string" description []

def timestamp (description : String) : Json := ofType "string" description [("format", .str "date-time")]

/-- The names of an enumeration. -/
def choice (α : Type) [Enumeration α] (description : String) (more : List (String × Json)) : Json :=
  ofType "string" description
    (("enum", .arr ((Enumeration.values : List α).map Enumeration.toJson)) :: more)

def flag (description : String) (default : Bool) : Json :=
  ofType "boolean" description [("default", .bool default)]

def list (description : String) (items : Json) : Json := ofType "array" description [("items", items)]

/-- An object. The names of the required fields stand in order; where there are none, nothing is
said of them. -/
def record (description : String) (required : List String) (fields : List (String × Json))
    (more : List (String × Json)) : Json :=
  let demanded := if required.isEmpty then [] else [("required", Json.arr (required.map .str))]
  ofType "object" description (("properties", .ofMembers fields) :: demanded ++ more)

/-- A field whose value may be null. -/
def nullable : String × Json := ("nullable", .bool true)

end Schema

namespace Spec

def schema : Json :=
  Schema.record "Specification for an AppService" []
    [("enabled", Schema.flag "Disabled AppServices are ignored by the controller" ({} : Spec).enabled),
     ("initialized", Schema.flag "Set by the controller on first admission" ({} : Spec).initialized),
     ("alias", Schema.ofType "string" "Cosmetic flavour of the application (Gramola or Gramophone)"
       [Schema.nullable])] []

end Spec

namespace Condition

def schema : Json :=
  Schema.record "Kubernetes-style condition for status reporting"
    ["lastTransitionTime", "message", "reason", "status", "type"]
    [("type", Schema.text "Type of condition (e.g., Promoted)"),
     ("status", Schema.choice ConditionStatus "Status of the condition (True, False, Unknown)" []),
     ("reason", Schema.text "Machine-readable reason for the condition"),
     ("message", Schema.text "Human-readable message"),
     ("lastTransitionTime", Schema.timestamp "Last time the condition transitioned")] []

end Condition

namespace ReconcileStatus

def schema : Json :=
  Schema.record "Outcome of the last reconcile pass" ["lastUpdate", "status"]
    [("status", Schema.choice ReconcileState "Outcome of the pass" []),
     ("lastUpdate", Schema.timestamp "When the outcome was recorded; never moves backwards"),
     ("reason", Schema.ofType "string" "Error text for failed passes, empty otherwise"
       [("default", .str "")]),
     ("retryAfterSeconds", Schema.ofType "integer"
       "Delay requested after the last failure.\n\nSerialized as `null` when unset so a merge patch clears it."
       [("format", .str "uint64"), ("minimum", .double (Binary64.zero false)), Schema.nullable])]
    [Schema.nullable]

end ReconcileStatus

namespace MigrationRun

def schema : Json :=
  Schema.record "One entry of the migration audit trail" ["scriptName", "status"]
    [("scriptName", Schema.text "Script that was executed"),
     ("status", Schema.choice MigrationStatus "Result of that execution" [])] []

end MigrationRun

namespace Status

def schema : Json :=
  Schema.record "Status for an AppService" []
    [("reconcileStatus", ReconcileStatus.schema),
     ("migrationStatus", Schema.choice MigrationStatus "Sticky migration state"
       [("default", Enumeration.toJson ({} : Status).migration)]),
     ("migrationRuns", Schema.list "Append-only record of migration attempts" MigrationRun.schema),
     ("lastAction", Schema.choice LastAction "What the last successful pass ended with" [Schema.nullable]),
     ("conditions", Schema.list "Conditions keyed by type" Condition.schema)]
    [Schema.nullable]

end Status

namespace AppService

def schema : Json :=
  Schema.record "Auto-generated derived type for AppServiceSpec via `CustomResource`" ["spec"]
    [("spec", Spec.schema), ("status", Status.schema)]
    [("title", .str ApiResource.appServices.kind)]

/-- A column of a listing: its title, the type of its values and where they are found. -/
def column (title type path : String) : Json :=
  .ofMembers [("name", .str title), ("type", .str type), ("jsonPath", .str path)]

def columns : List Json :=
  [column "Status" "string" ".status.reconcileStatus.status",
   column "Migration" "string" ".status.migrationStatus",
   column "Age" "date" ".metadata.creationTimestamp"]

/-- The served version, which has its status written apart from the rest. -/
def versionDefinition (r : ApiResource) : Json :=
  .ofMembers [("name", .str r.version), ("served", .bool true), ("storage", .bool true),
    ("schema", .ofMembers [("openAPIV3Schema", schema)]),
    ("additionalPrinterColumns", .arr columns),
    ("subresources", .ofMembers [("status", .obj [])])]

/-- The definition of AppServices. -/
def definition : Json :=
  let r := ApiResource.appServices
  .ofMembers [("apiVersion", .str "apiextensions.k8s.io/v1"),
    ("kind", .str "CustomResourceDefinition"),
    ("metadata", .ofMembers [("name", .str (r.plural ++ "." ++ r.group))]),
    ("spec", .ofMembers [("group", .str r.group), ("scope", .str "Namespaced"),
      ("names", .ofMembers [("kind", .str r.kind), ("plural", .str r.plural),
        ("singular", .str "appservice"), ("shortNames", .arr [.str "as"]), ("categories", .arr [])]),
      ("versions", .arr [versionDefinition r])])]

end AppService

end AppServiceOperator
