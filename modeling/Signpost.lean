import Signpost.Config.Reader
import Signpost.Gateway.Basic
import Signpost.Resolve.Group
import Signpost.Source.Polled
import Signpost.Proofs.Predicate.Matching
import Signpost.Proofs.Text.Distinct
import Signpost.Proofs.Resolve.Candidates
import Signpost.Proofs.Route.Cache
import Signpost.Proofs.Resolve.Resolution
import Signpost.Proofs.Resolve.SharedCache
import Signpost.Proofs.Balance.Balancer
import Signpost.Proofs.Instance.Table
import Signpost.Proofs.Balance.Rotation
import Signpost.Proofs.Resolve.Laziness
import Signpost.Proofs.Resolve.Cancellation
import Signpost.Proofs.Gateway.Dispatch
import Signpost.Proofs.Gateway.Target
import Signpost.Proofs.Predicate.WholeMatch
import Signpost.Proofs.Resolve.Recompilation
import Signpost.Proofs.Source.Polled
import Signpost.Proofs.Instance.History
import Signpost.Proofs.Predicate.ShortCircuit
import Signpost.Proofs.Predicate.Segment
import Signpost.Proofs.Source.Hosts
import Signpost.Proofs.Balance.Wraparound
import Signpost.Proofs.Source.Enumeration
import Signpost.Proofs.Gateway.Port
import Signpost.Proofs.Route.Compilation
import Signpost.Proofs.Filter.Chain
import Signpost.Proofs.Component.Binding
import Signpost.Proofs.Predicate.PathNotation
import Signpost.Proofs.Http.Host
import Signpost.Proofs.Route.Fingerprint
import Signpost.Proofs.Route.Holdings
import Signpost.Proofs.Gateway.TargetHost
import Signpost.Proofs.Http.Cookie
import Signpost.Proofs.Gateway.ServiceAddress
import Signpost.Proofs.Duration
import Signpost.Proofs.Predicate.Method
