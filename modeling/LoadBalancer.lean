import LoadBalancer.Diagnostics
import LoadBalancer.Proofs.Balancer.Course
import LoadBalancer.Proofs.Balancer.Forwarding
import LoadBalancer.Proofs.Balancer.HealthHistory
import LoadBalancer.Proofs.Balancer.Narrowing
import LoadBalancer.Proofs.Balancer.Wording
import LoadBalancer.Proofs.Discovery
import LoadBalancer.Proofs.Metrics.Aggregation
import LoadBalancer.Proofs.Pool
import LoadBalancer.Proofs.Registry.Eviction
import LoadBalancer.Proofs.Registry.Listing
import LoadBalancer.Proofs.Session.Accounting
import LoadBalancer.Proofs.Session.Decision
import LoadBalancer.Proofs.Session.FailedRoute
import LoadBalancer.Proofs.Session.Guards
import LoadBalancer.Proofs.Session.Isolation
import LoadBalancer.Proofs.Session.Levelling
import LoadBalancer.Proofs.Session.Metering
import LoadBalancer.Proofs.Session.Separation
import LoadBalancer.Proofs.Session.Stickiness
import LoadBalancer.Proofs.Session.Turns
import LoadBalancer.Proofs.Session.Weights
import LoadBalancer.Session.Events
import LoadBalancer.Session.Operation
import LoadBalancer.Session.Selecting
import LoadBalancer.Session.Step
import LoadBalancer.Proofs.Settings.Layering
import LoadBalancer.Proofs.Settings.Naming
import LoadBalancer.Proofs.Settings.RoundTrip
