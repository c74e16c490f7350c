import Turnstile.Gateway.Housekeeping
import Turnstile.Gateway.Respond
import Turnstile.Limiter.Rational
import Turnstile.Main
import Turnstile.Proofs.Event.Layout
import Turnstile.Proofs.Event.RoundTrip
import Turnstile.Proofs.Event.Weights
import Turnstile.Proofs.Fairness.Coherence
import Turnstile.Proofs.Fairness.Confinement
import Turnstile.Proofs.Fairness.Docket
import Turnstile.Proofs.Fairness.Eviction
import Turnstile.Proofs.Fairness.Forbearance
import Turnstile.Proofs.Fairness.Foresight
import Turnstile.Proofs.Fairness.FreshStart
import Turnstile.Proofs.Fairness.Invariants
import Turnstile.Proofs.Fairness.Roll
import Turnstile.Proofs.Fairness.Simultaneous
import Turnstile.Proofs.Fairness.Throughput
import Turnstile.Proofs.Gateway.Accounts
import Turnstile.Proofs.Gateway.Intake
import Turnstile.Proofs.Gateway.Isolation
import Turnstile.Proofs.Gateway.Startup
import Turnstile.Proofs.Lease.Custody
import Turnstile.Proofs.Lease.Exclusion
import Turnstile.Proofs.Limiter.Allowance
import Turnstile.Proofs.Limiter.Thinning
import Turnstile.Proofs.Settings.Acceptance
import Turnstile.Proofs.Signature.Binding
