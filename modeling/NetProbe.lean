import NetProbe.RunProofs
import NetProbe.TableProofs
import NetProbe.TransactionProofs
import NetProbe.AttemptProofs
import NetProbe.ReadCommittedProofs
import NetProbe.RelyGuaranteeProofs
import NetProbe.SlidingWindowProofs
import NetProbe.JournalProofs
import NetProbe.RegexProofs
import NetProbe.RecentEntriesProofs
import NetProbe.PyTextProofs
import NetProbe.IpAddressProofs
import NetProbe.InetProofs
import NetProbe.ColumnTypesProofs
import NetProbe.UrlSplitProofs
import NetProbe.ConfigProofs
import NetProbe.TracedProofs
import NetProbe.SecurityProofs
import NetProbe.AddressVerdictProofs
import NetProbe.ValidatorGrammarProofs
import NetProbe.HttpServiceProofs
import NetProbe.RedirectLoopProofs
import NetProbe.RedirectBudgetProofs
import NetProbe.TcpServiceProofs
import NetProbe.DnsServiceProofs
import NetProbe.CoreAuthProofs
import NetProbe.DepsProofs
import NetProbe.PersistenceProofs
import NetProbe.UrlSecrecyProofs
import NetProbe.ProbeHandlersProofs
import NetProbe.RedirectSchemeProofs
import NetProbe.TransportFailureProofs
import NetProbe.TxtSecrecyProofs
import NetProbe.MiddlewareProofs
import NetProbe.AllowListProofs
import NetProbe.PortPolicyProofs
import NetProbe.AccountStoreProofs
import NetProbe.AuthServiceProofs
import NetProbe.AuthOutcomeProofs
import NetProbe.AdminUsersProofs
import NetProbe.LastAdminProofs
import NetProbe.AccountRunsProofs
import NetProbe.AccountWritesProofs
import NetProbe.LastAdminSkewProofs
import NetProbe.SessionRunsProofs
import NetProbe.SessionLifetimeProofs
import NetProbe.AdminSessionProofs
import NetProbe.AuthDepsProofs
import NetProbe.AdminRoutesProofs
import NetProbe.AdminErrorsProofs
import NetProbe.RateLimitProofs
import NetProbe.CredentialProofs
import NetProbe.PasswordFlagProofs
import NetProbe.SessionCapProofs
import NetProbe.EvictionProofs
import NetProbe.PasswordHistoryProofs
import NetProbe.HistoryBoundProofs
import NetProbe.LockoutProofs
import NetProbe.LoginLimitProofs
import NetProbe.LockFieldsProofs
import NetProbe.AuditTrailProofs
import NetProbe.EmailProofs
import NetProbe.AuditSinksProofs
import NetProbe.MigrationsProofs
import NetProbe.HistoryProofs
import NetProbe.DomainNormalFormProofs
import NetProbe.ValidatorErrorsProofs
import NetProbe.AllowListLabelsProofs
import NetProbe.FailureMessagesProofs
import NetProbe.ColumnFitProofs
import NetProbe.UserSearchProofs
import NetProbe.PagedReadProofs
import NetProbe.PagingProofs
import NetProbe.CheckedStatementsProofs
import NetProbe.RevocationRecordProofs
import NetProbe.EventLoopProofs
import NetProbe.ConnectionPoolProofs
import NetProbe.SemaphoreProofs
import NetProbe.SemaphoreOrderProofs
import NetProbe.DiagnosticLimitProofs
import NetProbe.SessionApiProofs
import NetProbe.JsonTextProofs
import NetProbe.DictProofs
import NetProbe.LoggingProofs
import NetProbe.PageCookiesProofs
import NetProbe.HtmlTextProofs
import NetProbe.PageViewProofs
import NetProbe.PageRunProofs
import NetProbe.PageTargetsProofs
import NetProbe.HistoryRecordsProofs
import NetProbe.BodyLimitProofs
