import Overfwd.Lib.Outcome
import Overfwd.Lib.Text
import Overfwd.Lib.Quoting
import Overfwd.Lib.Dialogue
import Overfwd.Lib.Ip
import Overfwd.Error
import Overfwd.HostPort
import Overfwd.Endpoint
import Overfwd.SearchKey
import Overfwd.SearchLine
import Overfwd.SearchTerms
import Overfwd.Credential
import Overfwd.EndpointPolicy
import Overfwd.Lib.Url
import Overfwd.PublicDomain
import Overfwd.Autoconfig
import Overfwd.DomainPolicy
import Overfwd.Lib.Interleaving
import Overfwd.AutoconfigCache
import Overfwd.Imap
import Overfwd.Search
import Overfwd.Lib.Custody
import Overfwd.Pool
import Overfwd.PoolContract
import Overfwd.PoolRuns
import Overfwd.PoolTenancy
import Overfwd.Lib.Serde
import Overfwd.Send
import Overfwd.Wire
import Overfwd.Mcp
import Overfwd.McpReplies
import Overfwd.McpSizeGate
import Overfwd.Actions
import Overfwd.Attachments
import Overfwd.AttachmentPolicy
import Overfwd.Lib.History
import Overfwd.SendRequest
import Overfwd.Submission
import Overfwd.Disclosure
import Overfwd.LadderReference
import Overfwd.FetchedUrls
import Overfwd.AutoconfigTtl
import Overfwd.PasswordSecrecy
import Overfwd.ErrorHandling
import Overfwd.Lib.Overlay
import Overfwd.SessionService
import Overfwd.PoolWatch
import Overfwd.PoolHealth
import Overfwd.PoolCertificates
import Overfwd.McpToolCalls
import Overfwd.Routes
import Overfwd.SurfaceAgreement
import Overfwd.DnsPreference
import Overfwd.Lib.VecDeque
import Overfwd.ReservoirReference
import Overfwd.CredentialTargets
import Overfwd.Base64Payloads
import Overfwd.MimeAttachments
import Overfwd.Lib.AsciiCase
import Overfwd.Lib.Mime
import Overfwd.ContentTypes
import Overfwd.Filenames
import Overfwd.SendLimit
import Overfwd.SearchDates
import Overfwd.BasicAuth
import Overfwd.ForbiddenAddresses
import Overfwd.Config
import Overfwd.GatewayAccess
import Overfwd.Lib.Layers
import Overfwd.Lib.Cost
import Overfwd.Lib.Pieces
import Overfwd.Lib.Rules
import Overfwd.App
import Overfwd.Visits
import Overfwd.Workload
import Overfwd.Conversation
import Overfwd.ToolHints
import Overfwd.Lib.Renaming
import Overfwd.PasswordChannels
import Overfwd.CredentialUse
import Overfwd.Lib.Raises
import Overfwd.MailService
import Overfwd.ReadErrors
import Overfwd.PooledReads
import Overfwd.RequestErrors
import Overfwd.GatewayReads
import Overfwd.DocumentedReplies
import Overfwd.Causes
import Overfwd.Lib.Views
import Overfwd.Fetcher
import Overfwd.Deliveries
import Overfwd.Lib.Traces
import Overfwd.VettedServers
import Overfwd.SharedCache
import Overfwd.McpTells
import Overfwd.Lib.Blame
import Overfwd.Faults
import Overfwd.McpFaults
