import NestUserService.Lib.Async
import NestUserService.Lib.Pool
import NestUserService.Lib.Table
import NestUserService.Lib.Store
import NestUserService.Lib.Text
import NestUserService.Lib.Dotenv
import NestUserService.Lib.Path
import NestUserService.Lib.Glob
import NestUserService.Lib.OrderedMap
import NestUserService.Lib.Threads
import NestUserService.Lib.RelyGuarantee
import NestUserService.Lib.PartialRuns
import NestUserService.Lib.Gate
import NestUserService.Lib.TwoRuns
import NestUserService.Lib.Recency
import NestUserService.Core.Db
import NestUserService.Core.World
import NestUserService.Shared.Cache
import NestUserService.Shared.Keys
import NestUserService.Shared.CacheSpec
import NestUserService.Shared.CacheSteps
import NestUserService.Auth.Service
import NestUserService.Auth.JwtStrategy
import NestUserService.Auth.ValidateSpec
import NestUserService.Auth.Handlers
import NestUserService.Auth.LoginHandlers
import NestUserService.Auth.Steps
import NestUserService.Auth.Operations
import NestUserService.Auth.ResetPassword
import NestUserService.Auth.EmailVerification
import NestUserService.Auth.SecondFactor
import NestUserService.Auth.BearerToken
import NestUserService.Auth.TokenTheft
import NestUserService.Auth.Revocation
import NestUserService.Auth.LoginSimulation
import NestUserService.Auth.RefreshAgreement
import NestUserService.Auth.SingleSession
import NestUserService.Auth.IssuePaths
import NestUserService.Auth.SpentTokens
import NestUserService.Auth.FreshTokens
import NestUserService.Auth.TwinWorlds
import NestUserService.Auth.CoveredTokens
import NestUserService.Auth.NamespaceRevocation
import NestUserService.Auth.IssuedPayload
import NestUserService.Auth.SingleRotation
import NestUserService.Auth.RootSteps
import NestUserService.Auth.TwoFactorQr
import NestUserService.Auth.MailedTokens
import NestUserService.Tenant.Host
import NestUserService.Tenant.ClientManager
import NestUserService.Tenant.ClientSteps
import NestUserService.Tenant.ClientCache
import NestUserService.Tenant.LastUsed
import NestUserService.Tenant.ClientRecency
import NestUserService.Tenant.ClientIsolation
import NestUserService.Tenant.Provisioning
import NestUserService.Tenant.ProvisioningSteps
import NestUserService.Tenant.Signup
import NestUserService.Tenant.ConcurrentProvisioning
import NestUserService.Tenant.SingleAdmin
import NestUserService.Tenant.FailedProvisioning
import NestUserService.Tenant.CalmProvisioning
import NestUserService.Tenant.Retry
import NestUserService.Tenant.VerificationMail
import NestUserService.Tenant.EnvFile
import NestUserService.Tenant.GeneratedFolder
import NestUserService.Tenant.MigrateAll
import NestUserService.Tenant.SignupValidation
import NestUserService.Lib.MarkedLog
import NestUserService.Noti.ChatGateway
import NestUserService.Noti.ChatLog
import NestUserService.Noti.InheritedNames
import NestUserService.Lib.Utf8
import NestUserService.Lib.Hex
import NestUserService.Lib.QueryString
import NestUserService.Auth.VerificationLink
import NestUserService.Tenant.ScriptUrls
import NestUserService.Lib.Lines
import NestUserService.Lib.Replace
import NestUserService.Tenant.SchemaText
import NestUserService.Tenant.VerbatimSchema
import NestUserService.Auth.Guards
import NestUserService.Lib.CursorLoop
import NestUserService.Shared.ScanCalls
import NestUserService.Shared.ScanFrame
import NestUserService.Auth.DeviceGate
import NestUserService.Auth.RejectedLogin
import NestUserService.Auth.FailedLogin
import NestUserService.Auth.DeniedAddresses
import NestUserService.Auth.GoogleSignIn
import NestUserService.Lib.Ledger
import NestUserService.Lib.Conduct
import NestUserService.Core.HttpException
import NestUserService.Auth.JwtAuthGuard
import NestUserService.Auth.Effects
import NestUserService.Auth.CallEffects
import NestUserService.Auth.ServiceCalls
import NestUserService.Auth.AuditTrail
import NestUserService.Auth.Boundaries
import NestUserService.Auth.GuardedRoutes
import NestUserService.Auth.Credentials
import NestUserService.Auth.EndedSessions
import NestUserService.Lib.Registry
import NestUserService.Auth.SessionRegistry
import NestUserService.Lib.Rooms
import NestUserService.Noti.ChatDelivery
import NestUserService.Noti.NotificationGateway
import NestUserService.Tenant.SignupLedger
import NestUserService.Tenant.CompletedSignup
import NestUserService.Auth.MailToSession
import NestUserService.Auth.EnrolledUsers
import NestUserService.Lib.Json
import NestUserService.Auth.GoogleOAuth
import NestUserService.Lib.Markup
import NestUserService.Email.Mails
import NestUserService.Tenant.SignupJourney
