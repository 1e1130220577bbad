import Aegis.Lib.Suffix
import Aegis.Lib.SortedSet
import Aegis.Lib.Blocks
import Aegis.Rulebook.Engine
import Aegis.Rulebook.Rules
import Aegis.Vision.Band
import Aegis.Rulebook.Exclusion
import Aegis.Rulebook.Rescale
import Aegis.Rulebook.Lookback
import Aegis.History.Service
import Aegis.Lib.Atomic
import Aegis.Subscriptions.State
import Aegis.Subscriptions.Keys
import Aegis.Subscriptions.Service
import Aegis.Subscriptions.Redelivery
import Aegis.Subscriptions.Activation
import Aegis.Subscriptions.Race
import Aegis.Subscriptions.Interrupted
import Aegis.Subscriptions.Effects
import Aegis.Subscriptions.Access
import Aegis.Subscriptions.Sweep
import Aegis.Payments.Adapters
import Aegis.Payments.Signature
import Aegis.Payments.EventId
import Aegis.Lib.Run
import Aegis.Lib.Text
import Aegis.Subscriptions.Caps
import Aegis.Subscriptions.Registry
import Aegis.Subscriptions.Upgrade
import Aegis.Trading.Connected
import Aegis.Trading.Exposure
import Aegis.Trading.Gates
import Aegis.Lib.Fifo
import Aegis.Lib.Line
import Aegis.Workers.Abandoned
import Aegis.Workers.Bridge
import Aegis.Workers.OneWorker
import Aegis.Workers.Sentinel
import Aegis.Workers.Truth
import Aegis.Api.Devices
import Aegis.Api.Isolation
import Aegis.Api.Refine
import Aegis.Identity.Service
import Aegis.Identity.Sessions
import Aegis.Reveal.Authentic
import Aegis.Reveal.SingleUse
import Aegis.Rulebook.Mirror
import Aegis.Subscriptions.Lifecycle
import Aegis.Subscriptions.Answers
import Aegis.Trading.Quota
import Aegis.Vision.Rejected
import Aegis.Vision.Retry
import Aegis.Identity.TwoFactor
import Aegis.Identity.Verified
import Aegis.Identity.Lockout
import Aegis.Subscriptions.Bootstrap
import Aegis.Subscriptions.Rotation
import Aegis.Vault.Refine
import Aegis.Api.Binding
import Aegis.Api.Download
import Aegis.Workers.DemoOnly
import Aegis.Mobile.Capture
import Aegis.Trading.Limit
import Aegis.Trading.Order
import Aegis.Subscriptions.PortalToken
import Aegis.Subscriptions.Grace
import Aegis.Trading.Trial
import Aegis.Payments.Renewals
import Aegis.Reveal.Polls
import Aegis.Workers.Orphans
import Aegis.Mobile.Cache
import Aegis.Rulebook.Edges
import Aegis.Rulebook.Alignment
import Aegis.Api.Throttle
import Aegis.Api.MobileKey
import Aegis.Vision.Crop
import Aegis.Vision.Thirds
import Aegis.Vision.Mask
import Aegis.Vision.Profiles
import Aegis.Mobile.Drain
import Aegis.Storage.Migrations
import Aegis.Storage.Diagnostics
import Aegis.Mobile.AutoTrade
import Aegis.Mobile.Session
import Aegis.Vision.ChartDetection
import Aegis.Vision.Preprocessing
import Aegis.History.Sessions
import Aegis.Api.Fleet
import Aegis.Api.Failover
import Aegis.Reveal.Storefront
import Aegis.Reveal.Polling
import Aegis.Lib.Journal
import Aegis.Vision.Accounts
import Aegis.Workers.Shutdown
