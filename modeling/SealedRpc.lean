import SealedRpc.Http.Path
import SealedRpc.Main
import SealedRpc.Proofs.Exchange.Concurrency
import SealedRpc.Proofs.Exchange.Validation
import SealedRpc.Proofs.Relay.Failure
import SealedRpc.Proofs.Relay.Reply
import SealedRpc.Proofs.Codec.Blocks
import SealedRpc.Proofs.Key.Refused
import SealedRpc.Proofs.Codec.Exact
import SealedRpc.Proofs.Exchange.Signed
import SealedRpc.Proofs.Http.Exchange
import SealedRpc.Proofs.Relay.Rejection
import SealedRpc.Proofs.Relay.Forwarding
import SealedRpc.Proofs.CommandLine.Status
import SealedRpc.Proofs.Exchange.Cycle
import SealedRpc.Proofs.Exchange.Encoding
import SealedRpc.Proofs.Codec.Parallel
import SealedRpc.Proofs.Exchange.Whole
import SealedRpc.Proofs.Exchange.Hops
import SealedRpc.Proofs.Codec.Capability
import SealedRpc.Proofs.Exchange.History
import SealedRpc.Proofs.Key.Loading
import SealedRpc.Proofs.Relay.Allowlist
import SealedRpc.Proofs.Http.Resolution
import SealedRpc.Proofs.CommandLine.Precedence
