import AppServiceOperator.Main
import AppServiceOperator.Reconcile.Trigger
import AppServiceOperator.Simulation.Server
import AppServiceOperator.Simulation.World
import AppServiceOperator.Proofs.Reconcile.Convergence
import AppServiceOperator.Proofs.Migration.Evidence
import AppServiceOperator.Proofs.Interleaving.Status
import AppServiceOperator.Proofs.App.StatusPatch
import AppServiceOperator.Proofs.Reconcile.Outcome
import AppServiceOperator.Proofs.Reconcile.Sequence
import AppServiceOperator.Proofs.Reconcile.Order
import AppServiceOperator.Proofs.Reconcile.Failure
import AppServiceOperator.Proofs.App.StatusHistory
import AppServiceOperator.Proofs.Reconcile.Premises
import AppServiceOperator.Proofs.Reconcile.Result
import AppServiceOperator.Proofs.Interleaving.Journal
import AppServiceOperator.Proofs.Interleaving.Marking
import AppServiceOperator.Proofs.Interleaving.Succession
import AppServiceOperator.Proofs.Desired.Topology
import AppServiceOperator.Proofs.Interleaving.Undisturbed
import AppServiceOperator.Proofs.Reconcile.Steady
import AppServiceOperator.Proofs.Interleaving.Isolation
import AppServiceOperator.Proofs.Manifest.NormalForm
import AppServiceOperator.Proofs.Cluster.Address
import AppServiceOperator.Proofs.Cluster.Refinement
import AppServiceOperator.Proofs.Json.Agreement
import AppServiceOperator.Proofs.Manifest.Ordered
import AppServiceOperator.Proofs.Reconcile.Interference
import AppServiceOperator.Proofs.Reconcile.EmptyMaps
import AppServiceOperator.Proofs.Reconcile.Account
import AppServiceOperator.Proofs.App.Backoff
import AppServiceOperator.Proofs.Migration.Verdict
import AppServiceOperator.Proofs.Manifest.PatchScope
import AppServiceOperator.Proofs.App.ConditionHistory
import AppServiceOperator.Proofs.App.Independence
import AppServiceOperator.Proofs.Failure.Taxonomies
import AppServiceOperator.Proofs.Desired.Pods
import AppServiceOperator.Proofs.Migration.Substitution
import AppServiceOperator.Proofs.Desired.Labels
import AppServiceOperator.Proofs.Reconcile.Readiness
