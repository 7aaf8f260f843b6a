import FileScanner.Lib.Dict
import FileScanner.Lib.Group
import FileScanner.Lib.Blocks
import FileScanner.Lib.Chunking
import FileScanner.Lib.Retry
import FileScanner.Lib.Runs
import FileScanner.Lib.Join
import FileScanner.Lib.Sup
import FileScanner.Lib.Traverse
import FileScanner.Lib.Fallible
import FileScanner.Lib.Causes
import FileScanner.Lib.Dedup
import FileScanner.Lib.Members
import FileScanner.Lib.Traces
import FileScanner.Lib.Framing
import FileScanner.Lib.Base64
import FileScanner.Lib.Unwinding
import FileScanner.Lib.Pool
import FileScanner.Lib.Feeding
import FileScanner.Lib.Memo
import FileScanner.Python
import FileScanner.Config
import FileScanner.Report
import FileScanner.Precedence
import FileScanner.Registry
import FileScanner.CrashIsolation
import FileScanner.SizeGuard
import FileScanner.Boot
import FileScanner.Selection
import FileScanner.AxisType
import FileScanner.OrderIndependence
import FileScanner.Advisory
import FileScanner.Wire
import FileScanner.Downgrade
import FileScanner.Backends.Clamd
import FileScanner.Backends.Exav
import FileScanner.Backends.Jcop
import FileScanner.Backends
import FileScanner.App.Scan
import FileScanner.Jwt
import FileScanner.TokenLife
import FileScanner.App.Auth
import FileScanner.TokenBinding
import FileScanner.TokenFailures
import FileScanner.Dashboard
import FileScanner.BasicAuth
import FileScanner.Gates
import FileScanner.FailClosed
import FileScanner.JcopRun
import FileScanner.Contract
import FileScanner.Url
import FileScanner.Ssrf
import FileScanner.Validation
import FileScanner.WebhookGuard
import FileScanner.Encryption
import FileScanner.Download
import FileScanner.Decryption
import FileScanner.Results
import FileScanner.Tasks
import FileScanner.Attempt
import FileScanner.Unavailable
import FileScanner.DownloadErrors
import FileScanner.Cutting
import FileScanner.TerminalReport
import FileScanner.DownloadStatus
import FileScanner.App.Encryption
import FileScanner.HostAllowlist
import FileScanner.RoundTrip
import FileScanner.WireFormat
import FileScanner.App.Jobs
import FileScanner.Service
import FileScanner.Isolation
import FileScanner.JobRecord
import FileScanner.StoredState
import FileScanner.Interruption
import FileScanner.Webhook
import FileScanner.WebhookDelivery
import FileScanner.Refusals
import FileScanner.GuardCauses
import FileScanner.UrlCrashes
import FileScanner.NameResolution
import FileScanner.Pipeline
import FileScanner.Custody
import FileScanner.Drain
import FileScanner.UrlParts
import FileScanner.Pinning
import FileScanner.Keys
import FileScanner.Signing
import FileScanner.SignedCallbacks
import FileScanner.Onboarding
import FileScanner.Provenance
import FileScanner.Detection
import FileScanner.Footprint
import FileScanner.ScannerCache
import FileScanner.Traffic
import FileScanner.EndpointAgreement
import FileScanner.Gateway
import FileScanner.Authority
import FileScanner.KeySecrecy
import FileScanner.StoreFallback
import FileScanner.WireVersions
import FileScanner.JobLanes
