import TokenEndpoint.Authority
import TokenEndpoint.Decimal.Binary
import TokenEndpoint.Decimal.Number
import TokenEndpoint.Decimal.Shortest
import TokenEndpoint.Decimal.Whole
import TokenEndpoint.DeviceCode.Polling
import TokenEndpoint.DeviceCode.SignIn
import TokenEndpoint.Exchange
import TokenEndpoint.Exchange.Run
import TokenEndpoint.Failure
import TokenEndpoint.Fields
import TokenEndpoint.Grant
import TokenEndpoint.Identity.Account
import TokenEndpoint.Identity.Claims
import TokenEndpoint.Json.Basic
import TokenEndpoint.Json.Fault
import TokenEndpoint.Json.Reader
import TokenEndpoint.Json.Writer
import TokenEndpoint.Log
import TokenEndpoint.Payload
import TokenEndpoint.Proofs.Accounts
import TokenEndpoint.Proofs.Adapters
import TokenEndpoint.Proofs.Assembly
import TokenEndpoint.Proofs.AuthorityUrls
import TokenEndpoint.Proofs.Base64Lenience
import TokenEndpoint.Proofs.Base64RoundTrip
import TokenEndpoint.Proofs.BasicCredentials
import TokenEndpoint.Proofs.Blanks
import TokenEndpoint.Proofs.Bodies
import TokenEndpoint.Proofs.Building
import TokenEndpoint.Proofs.BuiltAsSent
import TokenEndpoint.Proofs.CacheKeys
import TokenEndpoint.Proofs.Challenge
import TokenEndpoint.Proofs.ClaimsTexts
import TokenEndpoint.Proofs.ClientInfoBlobs
import TokenEndpoint.Proofs.ClientTelemetryHeaders
import TokenEndpoint.Proofs.Course
import TokenEndpoint.Proofs.Creation
import TokenEndpoint.Proofs.Delivery
import TokenEndpoint.Proofs.Drafts
import TokenEndpoint.Proofs.ErrorBodies
import TokenEndpoint.Proofs.FailureKinds
import TokenEndpoint.Proofs.FloatValues
import TokenEndpoint.Proofs.FormRoundTrip
import TokenEndpoint.Proofs.HeaderNames
import TokenEndpoint.Proofs.IdTokens
import TokenEndpoint.Proofs.Isolation
import TokenEndpoint.Proofs.JsonDepth
import TokenEndpoint.Proofs.JsonRoundTrip
import TokenEndpoint.Proofs.JsonTexts
import TokenEndpoint.Proofs.JsonValues
import TokenEndpoint.Proofs.Letters
import TokenEndpoint.Proofs.LoweredNetlocs
import TokenEndpoint.Proofs.LoweredTexts
import TokenEndpoint.Proofs.Lowering
import TokenEndpoint.Proofs.NullMembers
import TokenEndpoint.Proofs.NumberTexts
import TokenEndpoint.Proofs.Numerals
import TokenEndpoint.Proofs.Parameters
import TokenEndpoint.Proofs.Payloads
import TokenEndpoint.Proofs.Polling
import TokenEndpoint.Proofs.PollingEnds
import TokenEndpoint.Proofs.Records
import TokenEndpoint.Proofs.Refusals
import TokenEndpoint.Proofs.RequestContents
import TokenEndpoint.Proofs.Retelling
import TokenEndpoint.Proofs.Rounding
import TokenEndpoint.Proofs.Runs
import TokenEndpoint.Proofs.ScopeWords
import TokenEndpoint.Proofs.Secrets
import TokenEndpoint.Proofs.Sessions
import TokenEndpoint.Proofs.Shown
import TokenEndpoint.Proofs.SpanDelivery
import TokenEndpoint.Proofs.Steps
import TokenEndpoint.Proofs.Switch
import TokenEndpoint.Proofs.Targets
import TokenEndpoint.Proofs.UrlReading
import TokenEndpoint.Proofs.UrlTexts
import TokenEndpoint.Proofs.Utf8RoundTrip
import TokenEndpoint.Refusal
import TokenEndpoint.Request
import TokenEndpoint.RequestHeaders
import TokenEndpoint.Response
import TokenEndpoint.Result
import TokenEndpoint.Scope
import TokenEndpoint.Settings.Basic
import TokenEndpoint.Settings.Coercion
import TokenEndpoint.Settings.EnvFile
import TokenEndpoint.Telemetry.ClientTelemetry
import TokenEndpoint.Telemetry.Record
import TokenEndpoint.Telemetry.Session
import TokenEndpoint.Telemetry.Span
import TokenEndpoint.Text.Base64
import TokenEndpoint.Text.Blank
import TokenEndpoint.Text.CaseTable
import TokenEndpoint.Text.Form
import TokenEndpoint.Text.Letter
import TokenEndpoint.Text.Lowercase
import TokenEndpoint.Text.Pattern
import TokenEndpoint.Text.Printable
import TokenEndpoint.Text.Quoted
import TokenEndpoint.Text.Utf8
import TokenEndpoint.Trace
import TokenEndpoint.Transport
import TokenEndpoint.Url.Address
import TokenEndpoint.Url.Basic
import TokenEndpoint.Url.Compatibility
