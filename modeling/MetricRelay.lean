import MetricRelay.Cluster.Backend
import MetricRelay.Form.Config
import MetricRelay.Main
import MetricRelay.Proofs.Cluster.Items
import MetricRelay.Proofs.Cluster.WriteIndex
import MetricRelay.Proofs.Document
import MetricRelay.Proofs.Lifecycle.Bootstrap
import MetricRelay.Proofs.Lifecycle.Emptiness
import MetricRelay.Proofs.Lifecycle.Phases
import MetricRelay.Proofs.Precedence
import MetricRelay.Proofs.Quantity
import MetricRelay.Proofs.Read.Earliest
import MetricRelay.Proofs.Read.Grouping
import MetricRelay.Proofs.Read.Patterns
import MetricRelay.Proofs.Remote.Post
import MetricRelay.Proofs.Remote.Response
import MetricRelay.Proofs.Search.Body
import MetricRelay.Proofs.Store.Creation
import MetricRelay.Proofs.Store.Failure
import MetricRelay.Proofs.Store.Reading
import MetricRelay.Proofs.Traffic.Generations
import MetricRelay.Proofs.Traffic.Linked
import MetricRelay.Proofs.Traffic.RoundTrip
import MetricRelay.Proofs.Traffic.Succession
import MetricRelay.Proofs.Write.Abandonment
import MetricRelay.Proofs.Write.Aging
import MetricRelay.Proofs.Write.Backoff
import MetricRelay.Proofs.Write.Demands
import MetricRelay.Proofs.Write.Resending
import MetricRelay.Proofs.Write.Resubmission
import MetricRelay.Proofs.Write.Ticks
import MetricRelay.Scenario.Action
