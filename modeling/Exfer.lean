import Exfer.Lib.Text
import Exfer.Lib.Bytes
import Exfer.Lib.Binary64
import Exfer.Lib.Value
import Exfer.Lib.Literal
import Exfer.Lib.Coro
import Exfer.Lib.Pool
import Exfer.Lib.Gate
import Exfer.Lib.Remote
import Exfer.Lib.Share
import Exfer.Lib.Blind
import Exfer.Errors
import Exfer.Transport
import Exfer.Params
import Exfer.Calls
import Exfer.Client
import Exfer.AsyncClient
import Exfer.Endpoint
import Exfer.Refinement
import Exfer.Decode
import Exfer.Runs
import Exfer.Wire
import Exfer.Construct
import Exfer.Mirror
import Exfer.Encoding
import Exfer.Pinning
import Exfer.Unwrap
import Exfer.Fingerprint
import Exfer.RetryHint
import Exfer.DryRun
import Exfer.Probe
import Exfer.Pool
import Exfer.Outcomes
import Exfer.Walletd
import Exfer.Service
import Exfer.Provisioning
import Exfer.Exhaustion
import Exfer.Deadlines
import Exfer.Lifecycle
import Exfer.Blanket
import Exfer.Ambiguity
import Exfer.Display
import Exfer.Sharing
import Exfer.Correlation
import Exfer.Returns
