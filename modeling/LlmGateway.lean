import LlmGateway.Resilience.Observers
import LlmGateway.Resilience.BreakerInvariant
import LlmGateway.Quota.LiveCounters
import LlmGateway.Routing.Sampling
import LlmGateway.Routing.Fairness
import LlmGateway.Routing.DefaultFallback
import LlmGateway.Providers.Resolution
import LlmGateway.Auth.Staleness
import LlmGateway.RateLimit.RetryAfter
import LlmGateway.Quota.PartialRepair
import LlmGateway.Quota.Views
import LlmGateway.Database.SplitRuns
import LlmGateway.Admin.AliasLaws
import LlmGateway.Admin.ModelPaths
import LlmGateway.Admin.UpstreamClients
import LlmGateway.Admin.Allowlist
import LlmGateway.Admin.ResetSql
import LlmGateway.Anthropic.Grammar
import LlmGateway.Anthropic.Buffered
import LlmGateway.Anthropic.Echo
import LlmGateway.Anthropic.Usage
import LlmGateway.Chat.Bookkeeping
import LlmGateway.Chat.Models
import LlmGateway.Chat.Months
import LlmGateway.Chat.FailureStatus
import LlmGateway.Chat.VanishedDivert
import LlmGateway.Chat.TokenLedger
import LlmGateway.Chat.RequestLedger
import LlmGateway.Chat.TeeRefinement
import LlmGateway.Chat.RequestParams
import LlmGateway.Observability.PromptHash
import LlmGateway.Observability.Statistics
import LlmGateway.Observability.Metrics
import LlmGateway.Auth.Scopes
import LlmGateway.Routing.FallbackSwitch
import LlmGateway.Database.Target
import LlmGateway.Anthropic.ToolAdjacency
import LlmGateway.Chat.Overshoot
import LlmGateway.Resilience.Recovery
import LlmGateway.Access.Surfaces
import LlmGateway.Mcp.Agreement
import LlmGateway.Search.Chain
import LlmGateway.Anthropic.Outbound
import LlmGateway.Access.Budget
import LlmGateway.Admin.HandOver
import LlmGateway.Database.Boots
