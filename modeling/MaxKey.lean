import MaxKey.Domain
import MaxKey.Effects
import MaxKey.ForgotPassword
import MaxKey.JavaText
import MaxKey.KeyedTable
import MaxKey.Logon
import MaxKey.OptToken
import MaxKey.Realm
import MaxKey.Runs
import MaxKey.WebContext
import MaxKey.Socials
import MaxKey.SocialBindings
import MaxKey.BasicEntryPoint
import MaxKey.OAuth2
import MaxKey.ParameterLists
import MaxKey.AccessTokenJson
import MaxKey.AccessTokenConverter
import MaxKey.ConvertedClaims
import MaxKey.Base64Codec
import MaxKey.HexCodec
import MaxKey.JwtHelper
import MaxKey.JwtRoundTrip
import MaxKey.ClientAuthentication
import MaxKey.TokenEndpoint
import MaxKey.AuthorizationEndpoint
import MaxKey.ClientSessions
import MaxKey.Index
import MaxKey.TokenStore
import MaxKey.TokenIndexes
import MaxKey.TokenServices
import MaxKey.ApprovalStore
import MaxKey.ApprovalDecisions
import MaxKey.ApprovalPaths
import MaxKey.TokenApprovals
import MaxKey.RevokedApprovals
import MaxKey.TokenIsolation
import MaxKey.Noninterference
import MaxKey.SharedApprovals
import MaxKey.Interleaving
import MaxKey.SocialSignOnEndpoint
import MaxKey.TokenEffects
import MaxKey.TokenRuns
import MaxKey.TokenLifetimes
import MaxKey.TokenGrants
import MaxKey.UsableTokens
import MaxKey.AuthorizationCodes
import MaxKey.GrantedScopes
import MaxKey.Redis
import MaxKey.RedisTokenStore
import MaxKey.StoreAgreement
import MaxKey.StoreInterface
import MaxKey.JdbcTokenStore
import MaxKey.SingleRows
import MaxKey.AssertionEndpoint
import MaxKey.JwtTokenStore
import MaxKey.JwtTokenClaims
import MaxKey.JwtTokenKinds
import MaxKey.OIDCIdTokenEnhancer
import MaxKey.ExpiringMap
import MaxKey.CasTickets
import MaxKey.SingleUse
import MaxKey.CasTicketRaces
import MaxKey.CasEndpoints
import MaxKey.CasValidations
import MaxKey.Lockouts
import MaxKey.UserInfoService
import MaxKey.LockedUsers
import MaxKey.PasswordChanges
import MaxKey.CommaLists
import MaxKey.JdbcClientDetails
import MaxKey.SamlResponses
import MaxKey.Comparisons
import MaxKey.Captchas
import MaxKey.RemeberMe
import MaxKey.ExternalLogins
import MaxKey.ConcurrentFailures
import MaxKey.LoginTraces
import MaxKey.LoginStatistics
import MaxKey.PasswordTraces
import MaxKey.RemeberMeRuns
import MaxKey.RemeberMeStores
import MaxKey.RemeberMeCookies
import MaxKey.RemeberMeValidity
import MaxKey.PermissionAdapters
import MaxKey.RestApiUserInfo
import MaxKey.OptTokenStores
import MaxKey.BigEndian
import MaxKey.OtpAlgorithms
import MaxKey.OtpAuthns
import MaxKey.OtpReplays
import MaxKey.ReciprocalUtils
import MaxKey.Permissions
import MaxKey.RefreshFailures
import MaxKey.TokenExpiries
import MaxKey.Delimited
import MaxKey.AuthenticationKeys
import MaxKey.JavaUrl
import MaxKey.RedirectResolver
import MaxKey.PreApprovals
import MaxKey.ValidityPeriods
import MaxKey.TokenInvariants
import MaxKey.SignOnAccess
import MaxKey.SignedTokens
import MaxKey.SigningAndValidation
import MaxKey.SingleSignOn
import MaxKey.Base64Utils
import MaxKey.AuthorizeAdapters
import MaxKey.TokenUtils
import MaxKey.Scanning
import MaxKey.JsonReader
import MaxKey.XmlReader
import MaxKey.ServiceDocuments
import MaxKey.SafeEndpoints
import MaxKey.ProtectedApps
import MaxKey.ProfileUpdates
import MaxKey.CheckDigits
import MaxKey.ChecksumErrors
import MaxKey.StandardBase64
import MaxKey.UrlSafeBase64
import MaxKey.BasicHeaders
import MaxKey.PasswordPolicies
import MaxKey.GroupMembers
import MaxKey.JwtLogins
import MaxKey.RemoteKerberos
import MaxKey.WsFederation
import MaxKey.SavedCredentials
import MaxKey.LdapFilters
import MaxKey.LdapServers
import MaxKey.DistinctSampling
import MaxKey.PasswordGen
import MaxKey.ResettingCounter
import MaxKey.Gregorian
import MaxKey.IdSequence
import MaxKey.CodeGrants
import MaxKey.TokenOrigins
import MaxKey.CodeFlows
import MaxKey.GroupAccess
import MaxKey.CasFlows
import MaxKey.RemoteTokens
import MaxKey.PercentEncoding
import MaxKey.HttpParameters
import MaxKey.SignedRequests
import MaxKey.Base32
import MaxKey.OtpEnrollments
