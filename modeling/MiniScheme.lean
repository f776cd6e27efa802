import MiniScheme.Main
import MiniScheme.Proofs.Concatenation
import MiniScheme.Proofs.Counters
import MiniScheme.Proofs.DepthLimit
import MiniScheme.Proofs.Expansion
import MiniScheme.Proofs.Isolation
import MiniScheme.Proofs.Loading
import MiniScheme.Proofs.Malformed
import MiniScheme.Proofs.Readings
import MiniScheme.Proofs.Recognition
import MiniScheme.Proofs.Registration
import MiniScheme.Proofs.Sharing
import MiniScheme.Proofs.Tags
import MiniScheme.Proofs.Termination
import MiniScheme.Proofs.Unbinding
import MiniScheme.Proofs.Unfinished
import MiniScheme.Session.Basic
import MiniScheme.Session.Registry
import MiniScheme.Value.Described
import MiniScheme.Proofs.Comments
import MiniScheme.Proofs.Nesting
import MiniScheme.Proofs.Definitions
import MiniScheme.Proofs.Failures
import MiniScheme.Proofs.Countdown
import MiniScheme.Proofs.Operands
import MiniScheme.Proofs.ByteOrder
import MiniScheme.Proofs.Visibility
import MiniScheme.Proofs.Exactness
import MiniScheme.Proofs.Division
import MiniScheme.Proofs.Equality
import MiniScheme.Proofs.History
import MiniScheme.Proofs.Comparison
import MiniScheme.Proofs.Feeding
import MiniScheme.Proofs.Progress
import MiniScheme.Proofs.ErrorContext
import MiniScheme.Proofs.EnvironmentListing
import MiniScheme.Proofs.ArgumentCounts
