import Girasol.Foundation.Machine
import Girasol.Foundation.Precise
import Girasol.Foundation.Runs
import Girasol.Foundation.SavedState
import Girasol.Foundation.TempFile
import Girasol.Foundation.Counting
import Girasol.Foundation.Radix
import Girasol.Foundation.Base58
import Girasol.Foundation.Base64
import Girasol.Foundation.Checks
import Girasol.Foundation.Text
import Girasol.Foundation.Words
import Girasol.Foundation.Bytes
import Girasol.Foundation.Cursor
import Girasol.Foundation.Fairness
import Girasol.Foundation.Watched
import Girasol.Foundation.Lru
import Girasol.Foundation.Traced
import Girasol.Foundation.Store
import Girasol.Foundation.Json
import Girasol.Foundation.Lossy
import Girasol.Foundation.Hex
import Girasol.Foundation.Scan
import Girasol.Foundation.Aligned
import Girasol.Foundation.Renumber
import Girasol.Foundation.Wrapping
import Girasol.Foundation.ConstantProduct
import Girasol.Models
import Girasol.Settings
import Girasol.PositionMonitor.Operations
import Girasol.PositionMonitor.Tick
import Girasol.Rpc.Fetch
import Girasol.Rpc.Fallback
import Girasol.Rpc.TokenAccount
import Girasol.Rpc.Price
import Girasol.Rpc.CurveState
import Girasol.PositionMonitor.Validation
import Girasol.PositionMonitor.Persistence
import Girasol.PositionMonitor.SavedFile
import Girasol.PositionMonitor.Reachable
import Girasol.Bot.State
import Girasol.Bot.Step
import Girasol.Bot.Frame
import Girasol.Bot.BuySteps
import Girasol.Bot.Slots
import Girasol.Bot.Stats
import Girasol.Bot.ConfigWatcher
import Girasol.Bot.Registration
import Girasol.Bot.PendingFlag
import Girasol.Bot.Restart
import Girasol.Bot.Dedup
import Girasol.Bot.OrderSizes
import Girasol.Bot.MirrorShare
import Girasol.Bot.History
import Girasol.Bot.Levels
import Girasol.Bot.LevelReload
import Girasol.Bot.MirrorSells
import Girasol.Bot.MirrorSteps
import Girasol.Bot.MirrorTiming
import Girasol.Bot.MirrorQueued
import Girasol.Bot.Migration
import Girasol.Bot.TrailingStop
import Girasol.Bot.Decisions
import Girasol.Send.Transaction
import Girasol.Cache.WaitReady
import Girasol.Send.Helius
import Girasol.Send.Retry
import Girasol.Send.Validity
import Girasol.Send.Swqos
import Girasol.Send.Circuit
import Girasol.Send.Probes
import Girasol.Send.QuicEndpoint
import Girasol.Send.Quic
import Girasol.Sell.SellToken
import Girasol.Sell.Executor
import Girasol.Sell.Sale
import Girasol.Sell.Booking
import Girasol.Sell.Pending
import Girasol.Sell.RealizedPnl
import Girasol.Buy.Sizing
import Girasol.Buy.BuyToken
import Girasol.Buy.Accounting
import Girasol.Buy.Routes
import Girasol.Buy.Quotes
import Girasol.Buy.ReplaySize
import Girasol.Bot.Tradable
import Girasol.Bot.Entries
import Girasol.Bot.Watermark
import Girasol.Bot.InFlight
import Girasol.Bot.TakeProfits
import Girasol.Vault.Slots
import Girasol.Vault.Format
import Girasol.Vault.ApiKeyVault
import Girasol.Vault.Migration
import Girasol.Vault.Malformed
import Girasol.Vault.Preservation
import Girasol.Vault.Statuses
import Girasol.Vault.Requests
import Girasol.Panel.Request
import Girasol.Panel.Chunks
import Girasol.Panel.Route
import Girasol.Panel.Listing
import Girasol.Panel.Changes
import Girasol.Panel.Server
import Girasol.Detect.Signal
import Girasol.Detect.CopyEngine
import Girasol.Detect.Geyser
import Girasol.Detect.Shreds
import Girasol.Detect.Raydium
import Girasol.Detect.Trader
import Girasol.Detect.Accounts
import Girasol.Detect.TopLevel
import Girasol.Detect.TableKeys
import Girasol.Detect.AltCache
import Girasol.Detect.KeyOrder
import Girasol.Detect.PairedTransaction
import Girasol.Detect.Labels
import Girasol.Detect.PairedSwap
import Girasol.Detect.PumpSwapData
import Girasol.Detect.MintOrder
import Girasol.Detect.BalanceSums
import Girasol.Bot.MirrorChannel
import Girasol.Swap.Raydium
import Girasol.Sell.MinOutput
import Girasol.Screen.TransferFee
import Girasol.Screen.Extensions
import Girasol.Screen.Metadata
import Girasol.Screen.FeeLimit
import Girasol.Build.Idl
import Girasol.Build.PumpFunIdl
import Girasol.Build.Privileges
import Girasol.Build.BuyTemplate
import Girasol.Build.BuyerConstants
import Girasol.Build.SellInstruction
import Girasol.Build.PumpSwap
import Girasol.Build.ReadBack
import Girasol.Send.Concurrent
import Girasol.Screen.PreBuy
import Girasol.Bot.Screened
import Girasol.Foundation.Layout
import Girasol.Swap.PoolState
import Girasol.Send.Encoding
import Girasol.Swap.Builders
import Girasol.Swap.Sides
import Girasol.Foundation.Pool
import Girasol.Detect.WsListener
import Girasol.Detect.CopyTasks
import Girasol.Send.Privileges
import Girasol.Bot.Submissions
import Girasol.Detect.WsPath
import Girasol.Foundation.Recency
import Girasol.Foundation.Memo
import Girasol.Rpc.PriceCache
import Girasol.Detect.ShredStream
