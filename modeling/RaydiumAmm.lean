import RaydiumAmm.Outcome
import RaydiumAmm.Checked
import RaydiumAmm.Error
import RaydiumAmm.State
import RaydiumAmm.Dex
import RaydiumAmm.Math
import RaydiumAmm.Runtime
import RaydiumAmm.Whitelist
import RaydiumAmm.Invokers
import RaydiumAmm.Helpers
import RaydiumAmm.Swap
import RaydiumAmm.Deposit
import RaydiumAmm.Withdraw
import RaydiumAmm.Profit
import RaydiumAmm.Initialize
import RaydiumAmm.Admin
import RaydiumAmm.Simulate
import RaydiumAmm.Dispatch
import RaydiumAmm.ConstantProduct
import RaydiumAmm.CeilDiv
import RaydiumAmm.Runs
import RaydiumAmm.Quotes
import RaydiumAmm.InitialLp
import RaydiumAmm.Calls
import RaydiumAmm.Reference
import RaydiumAmm.SwapEffect
import RaydiumAmm.LiquidityEffect
import RaydiumAmm.ProfitEffect
import RaydiumAmm.AdminEffect
import RaydiumAmm.Layout
import RaydiumAmm.Product
import RaydiumAmm.Reconcile
import RaydiumAmm.Backing
import RaydiumAmm.Reservation
import RaydiumAmm.Settlement
import RaydiumAmm.Records
import RaydiumAmm.Custody
import RaydiumAmm.Isolation
import RaydiumAmm.Words
import RaydiumAmm.Codec
import RaydiumAmm.Lens
import RaydiumAmm.Encoding
import RaydiumAmm.RoundTrip
import RaydiumAmm.Roster
import RaydiumAmm.WhitelistBytes
import RaydiumAmm.WhitelistRuns
import RaydiumAmm.WhitelistLife
import RaydiumAmm.HookCalls
import RaydiumAmm.Configuration
import RaydiumAmm.Creation
import RaydiumAmm.Supply
import RaydiumAmm.Privileges
import RaydiumAmm.Trading
import RaydiumAmm.Cranking
import RaydiumAmm.Parsing
import RaydiumAmm.Reencoding
import RaydiumAmm.Batches
import RaydiumAmm.StaleVaults
import RaydiumAmm.Opening
import RaydiumAmm.HookedTrades
import RaydiumAmm.Client
import RaydiumAmm.ClientAgreement
import RaydiumAmm.Optimality
import RaydiumAmm.QuoteSafety
import RaydiumAmm.DepositPricing
import RaydiumAmm.PnlUnits
import RaydiumAmm.TokenEncoding
import RaydiumAmm.SlippageBounds
import RaydiumAmm.SwapStages
import RaydiumAmm.DryRun
import RaydiumAmm.Statistics
import RaydiumAmm.DecimalScale
import RaydiumAmm.WithdrawOnly
import RaydiumAmm.RayLog
import RaydiumAmm.Parameters
import RaydiumAmm.HookFlag
import RaydiumAmm.HookResolution
import RaydiumAmm.ShareWorth
import RaydiumAmm.PoolMachine
import RaydiumAmm.PoolRefinement
import RaydiumAmm.PoolLife
import RaydiumAmm.Schedule
import RaydiumAmm.Image
import RaydiumAmm.RecordBytes
import RaydiumAmm.Signing
import RaydiumAmm.Grid
import RaydiumAmm.Planning
import RaydiumAmm.Exit
import RaydiumAmm.Lockup
import RaydiumAmm.WhitelistQueries
import RaydiumAmm.Cli
import RaydiumAmm.Liveness
