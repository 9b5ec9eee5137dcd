import ClassReconciler.SortedMap
import ClassReconciler.Json.Reader
import ClassReconciler.Json.Printer
import ClassReconciler.Json.MergePatch
import ClassReconciler.Decimal.Shortest
import ClassReconciler.Text.Quoted
import ClassReconciler.Text.Blank
import ClassReconciler.Text.FormEncoding
import ClassReconciler.Time.Reader
import ClassReconciler.Time.Duration
import ClassReconciler.Object.Namespace
import ClassReconciler.Object.NamespaceClass
import ClassReconciler.Object.Manifest
import ClassReconciler.Dialogue
import ClassReconciler.Template.Diff
import ClassReconciler.Reconcile.Reconciler
import ClassReconciler.Controller.Log
import ClassReconciler.Cluster.Schedule
import ClassReconciler.Cluster.Simulation
import ClassReconciler.Api.Client
import ClassReconciler.Api.Script
import ClassReconciler.Acceptance.TemporaryNamespace
import ClassReconciler.Controller.Deployment
import ClassReconciler.Main
import ClassReconciler.Proofs.Course
import ClassReconciler.Proofs.Reachable
import ClassReconciler.Proofs.ObjectWork
import ClassReconciler.Proofs.ClassWrites
import ClassReconciler.Proofs.Revision
import ClassReconciler.Proofs.DeletionSafety
import ClassReconciler.Proofs.PruneObligation
import ClassReconciler.Proofs.Contents
import ClassReconciler.Proofs.TemplateKey
import ClassReconciler.Proofs.RefusedRun
import ClassReconciler.Proofs.ClassUpdate
import ClassReconciler.Proofs.FinalizerKept
import ClassReconciler.Proofs.Finalization
import ClassReconciler.Proofs.FinalizerChanges
import ClassReconciler.Proofs.FailureReport
import ClassReconciler.Proofs.RequiredObjects
import ClassReconciler.Proofs.EqualValues
import ClassReconciler.Proofs.TemplateWrites
import ClassReconciler.Proofs.Underway
import ClassReconciler.Proofs.Resumption
import ClassReconciler.Proofs.ReconcileEnds
import ClassReconciler.Proofs.History
import ClassReconciler.Proofs.Leftovers
import ClassReconciler.Cluster.Shared
import ClassReconciler.Proofs.Versions
import ClassReconciler.Proofs.ClassEdits
import ClassReconciler.Proofs.LateWrites
import ClassReconciler.Proofs.UnguardedDeletion
import ClassReconciler.Proofs.Quiescence
import ClassReconciler.Proofs.CleanupCoverage
import ClassReconciler.Proofs.CleanupRemainder
import ClassReconciler.Proofs.RecordOrigin
import ClassReconciler.Proofs.PrunedObjects
import ClassReconciler.Proofs.Containment
import ClassReconciler.Proofs.ClassFailure
import ClassReconciler.Proofs.Classification
import ClassReconciler.Proofs.TriggerPaths
import ClassReconciler.Proofs.RevisionDiff
import ClassReconciler.Proofs.TemplateUpsert
import ClassReconciler.Proofs.CleanupRequests
import ClassReconciler.Proofs.DelayGrowth
import ClassReconciler.Proofs.FailuresInRow
import ClassReconciler.Proofs.TemplateGrammar
import ClassReconciler.Proofs.ObjectFields
import ClassReconciler.Proofs.StampedObject
import ClassReconciler.Proofs.ClassDocument
import ClassReconciler.Proofs.ClassRoundTrip
import ClassReconciler.Proofs.Observations
import ClassReconciler.Proofs.StatusPatch
import ClassReconciler.Proofs.KindDiscovery
