import CrowdSecBouncer.Foundations.Text
import CrowdSecBouncer.Foundations.Lowercase
import CrowdSecBouncer.Foundations.Hexadecimal
import CrowdSecBouncer.Foundations.CharRefs
import CrowdSecBouncer.Foundations.JsonText
import CrowdSecBouncer.Foundations.Json
import CrowdSecBouncer.Foundations.Armour
import CrowdSecBouncer.Foundations.ByteBuffer
import CrowdSecBouncer.Foundations.PercentCoding
import CrowdSecBouncer.Foundations.CircularProbe
import CrowdSecBouncer.Foundations.Deadline
import CrowdSecBouncer.Foundations.DeadlineMap
import CrowdSecBouncer.Foundations.Exposition
import CrowdSecBouncer.Foundations.HeaderBlock
import CrowdSecBouncer.Foundations.Holds
import CrowdSecBouncer.Foundations.LabelledRun
import CrowdSecBouncer.Foundations.Interleaving
import CrowdSecBouncer.Foundations.Layers
import CrowdSecBouncer.Foundations.PrefixMatch
import CrowdSecBouncer.Foundations.Replacing
import CrowdSecBouncer.Foundations.RwLock
import CrowdSecBouncer.Net.Address
import CrowdSecBouncer.Net.AddrText
import CrowdSecBouncer.Net.AddrPrint
import CrowdSecBouncer.Net.TrustedCidr
import CrowdSecBouncer.Net.RealIp
import CrowdSecBouncer.Net.ForwardedList
import CrowdSecBouncer.Net.ForwardedTokens
import CrowdSecBouncer.Shm.Decision
import CrowdSecBouncer.Shm.Entry
import CrowdSecBouncer.Shm.Table
import CrowdSecBouncer.Shm.Scenarios
import CrowdSecBouncer.Shm.Invariant
import CrowdSecBouncer.Shm.Calls
import CrowdSecBouncer.Shm.DecisionMap
import CrowdSecBouncer.Shm.Refinement
import CrowdSecBouncer.Shm.Lookup
import CrowdSecBouncer.Shm.Deadlines
import CrowdSecBouncer.Shm.Covering
import CrowdSecBouncer.Shm.Census
import CrowdSecBouncer.Shm.Eviction
import CrowdSecBouncer.Shm.EntryHistory
import CrowdSecBouncer.Shm.Additions
import CrowdSecBouncer.Shm.RoundRobin
import CrowdSecBouncer.Shm.Provenance
import CrowdSecBouncer.Shm.NetworkText
import CrowdSecBouncer.Shm.Poller
import CrowdSecBouncer.Shm.PollerElection
import CrowdSecBouncer.Shm.LockWord
import CrowdSecBouncer.Metrics.UsageMetrics
import CrowdSecBouncer.Metrics.BucketTable
import CrowdSecBouncer.Metrics.Conservation
import CrowdSecBouncer.Http.Config
import CrowdSecBouncer.Http.Request
import CrowdSecBouncer.Http.Remediation
import CrowdSecBouncer.Http.FailClosed
import CrowdSecBouncer.Http.AppSec
import CrowdSecBouncer.Http.Responses
import CrowdSecBouncer.Http.Phases
import CrowdSecBouncer.Http.Confinement
import CrowdSecBouncer.Http.BanDominance
import CrowdSecBouncer.Http.CaptchaGate
import CrowdSecBouncer.Http.Stages
import CrowdSecBouncer.Http.Course
import CrowdSecBouncer.Http.Marks
import CrowdSecBouncer.Http.Handover
import CrowdSecBouncer.Http.VerdictMapping
import CrowdSecBouncer.Http.InternalChallenge
import CrowdSecBouncer.Http.CountedOnce
import CrowdSecBouncer.Http.AppSecRequest
import CrowdSecBouncer.Http.ThreadTask
import CrowdSecBouncer.Stream.PollingLoop
import CrowdSecBouncer.Stream.Decisions
import CrowdSecBouncer.Stream.Durations
import CrowdSecBouncer.Stream.Batch
import CrowdSecBouncer.Stream.FallbackTypes
import CrowdSecBouncer.Stream.MappedNetworks
import CrowdSecBouncer.Stream.Resync
import CrowdSecBouncer.Stream.PollHistory
import CrowdSecBouncer.Captcha.Token
import CrowdSecBouncer.Captcha.Cookie
import CrowdSecBouncer.Captcha.Session
import CrowdSecBouncer.Captcha.Verifier
import CrowdSecBouncer.Captcha.ReturnUri
import CrowdSecBouncer.Settings.HexKey
import CrowdSecBouncer.Settings.Sizes
import CrowdSecBouncer.Settings.Inheritance
import CrowdSecBouncer.Settings.Directives
import CrowdSecBouncer.Settings.Contexts
import CrowdSecBouncer.Shm.ZoneLayout
import CrowdSecBouncer.Http.BodyContexts
import CrowdSecBouncer.Pages.Template
import CrowdSecBouncer.Pages.TemplateText
import CrowdSecBouncer.Pages.Markup
import CrowdSecBouncer.Pages.JsonPages
import CrowdSecBouncer.Http.ResponseContent
import CrowdSecBouncer.Http.ResponseFraming
import CrowdSecBouncer.Http.Connection
import CrowdSecBouncer.Http.ServedRun
import CrowdSecBouncer.Http.ServedSite
import CrowdSecBouncer.Http.SolvedCaptcha
import CrowdSecBouncer.Http.RemediationContent
import CrowdSecBouncer.Metrics.Gauges
import CrowdSecBouncer.Metrics.MetricsPage
import CrowdSecBouncer.System.Node
import CrowdSecBouncer.System.Enforcement
import CrowdSecBouncer.System.MapNode
import CrowdSecBouncer.System.Causes
import CrowdSecBouncer.System.Polls
import CrowdSecBouncer.System.CaptchaSessions
