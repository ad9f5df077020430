import NewApi.AffinityPin
import NewApi.BatchUpdates
import NewApi.CacheSync
import NewApi.ChannelShare
import NewApi.ClaudeThinking
import NewApi.CompileCache
import NewApi.KeyPolling
import NewApi.ManualDisable
import NewApi.OverridePaths
import NewApi.PerfMetrics
import NewApi.PreConsumeCalls
import NewApi.ProtectedFetch
import NewApi.RealtimeBilling
import NewApi.ReplyCuts
import NewApi.ResponsesCalls
import NewApi.ResponsesItems
import NewApi.RetryGroups
import NewApi.RoutingRank
import NewApi.ScoreReset
import NewApi.SlidingWindow
import NewApi.StickyKeys
import NewApi.StreamVerdict
import NewApi.SubscriptionHistory
import NewApi.SubscriptionLimits
import NewApi.SuccessWindow
import NewApi.SystemTaskLease
import NewApi.TaskAttribution
import NewApi.TaskCharges
import NewApi.TaskRefunds
import NewApi.TextQuota
import NewApi.TopUpHistory
import NewApi.ClaudeContent
