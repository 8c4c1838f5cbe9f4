import Cheval.Python.Value
import Cheval.Python.Float
import Cheval.Sidecar.NonceCache
import Cheval.Sidecar.Hmac
import Cheval.Sidecar.Interleaving
import Cheval.Sse.Decoder
import Cheval.CircuitBreaker
import Cheval.Retry
import Cheval.Normalize
import Cheval.Request
import Cheval.Sidecar.Invoke
import Cheval.MachineMode
import Cheval.Config.Redact
import Cheval.Sidecar.Endpoint
import Cheval.EntryPoints
import Cheval.ProviderRegistry
import Cheval.Config.RedactText
import Cheval.HumanMode
import Cheval.Sidecar.App
import Cheval.Config.Merge
import Cheval.Config.Interpolate
import Cheval.Sse.Reference
import Cheval.CircuitBreaker.Runs
import Cheval.CircuitBreaker.File
import Cheval.Sidecar.NonceHistory
import Cheval.Sidecar.Canonical
import Cheval.Sidecar.HmacErrors
import Cheval.CircuitBreaker.Concurrent
import Cheval.CircuitBreaker.Bytes
import Cheval.Config.Layers
import Cheval.Config.SecretFile
