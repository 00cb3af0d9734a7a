import SwapLayer.Lib.Bytes
import SwapLayer.Lib.Ledger
import SwapLayer.Lib.Program
import SwapLayer.Lib.Reader
import SwapLayer.Lib.SplToken
import SwapLayer.Lib.Delegation
import SwapLayer.Lib.Markup
import SwapLayer.Lib.WriteBack
import SwapLayer.Lib.Format
import SwapLayer.Lib.Borsh
import SwapLayer.Lib.Lens
import SwapLayer.Lib.Arrays
import SwapLayer.Lib.Mailbox
import SwapLayer.Evm.Params
import SwapLayer.Evm.InitiateParams
import SwapLayer.Evm.Message
import SwapLayer.Evm.World
import SwapLayer.Evm.Fees
import SwapLayer.Evm.Swap
import SwapLayer.Evm.Initiate
import SwapLayer.Evm.Redeem
import SwapLayer.Evm.ParamBlocks
import SwapLayer.Evm.ParamLayout
import SwapLayer.Evm.IntegrationBase
import SwapLayer.Evm.RoundTrip
import SwapLayer.Evm.AmountGuarantee
import SwapLayer.Evm.Conservation
import SwapLayer.Evm.RedeemAccounting
import SwapLayer.Evm.RedeemPayouts
import SwapLayer.Evm.RedeemLiveness
import SwapLayer.Evm.Governance
import SwapLayer.Evm.System
import SwapLayer.Evm.Construction
import SwapLayer.Evm.Ownership
import SwapLayer.Evm.Holdings
import SwapLayer.Evm.RelayingFee
import SwapLayer.Evm.FeeUpdates
import SwapLayer.Evm.FeeFields
import SwapLayer.Evm.Percentages
import SwapLayer.Evm.Commands
import SwapLayer.Evm.Query
import SwapLayer.Evm.SwapGuarantee
import SwapLayer.Evm.SwapPaths
import SwapLayer.Evm.TraderJoePaths
import SwapLayer.Evm.IntegrationCalls
import SwapLayer.Sdk.InitiateArgs
import SwapLayer.Sdk.FeeUpdates
import SwapLayer.Sdk.Governance
import SwapLayer.Sdk.Query
import SwapLayer.Messages.Uint
import SwapLayer.Messages.SwapMessage
import SwapLayer.Messages.WrittenSize
import SwapLayer.Solana.State
import SwapLayer.Solana.Peers
import SwapLayer.Solana.StageOutbound
import SwapLayer.Solana.Jupiter
import SwapLayer.Solana.Initiate
import SwapLayer.Solana.StagedRuns
import SwapLayer.Solana.RelayFee
import SwapLayer.Solana.Complete
import SwapLayer.Solana.Redeemable
import SwapLayer.Solana.CompleteSwap
import SwapLayer.Solana.Redemption
import SwapLayer.Solana.Authority
import SwapLayer.Solana.InboundRuns
import SwapLayer.Solana.Cancel
import SwapLayer.Solana.FeeFormula
import SwapLayer.Solana.RelayAccounting
import SwapLayer.Solana.AccountSpace
import SwapLayer.Solana.TransferAuthority
import SwapLayer.Solana.DelegatedStaging
import SwapLayer.Solana.Unwrapping
import SwapLayer.Solana.StagedRecords
import SwapLayer.Solana.Admin
import SwapLayer.Solana.AdminRuns
import SwapLayer.Solana.Orders
import SwapLayer.Solana.StagedOrders
import SwapLayer.Bridge.Wire
import SwapLayer.Bridge.EvmToSolana
import SwapLayer.Bridge.RustToEvm
import SwapLayer.Bridge.TraderJoeHops
import SwapLayer.Bridge.SolanaToEvm
import SwapLayer.Client.Messages
import SwapLayer.Client.RelayerFees
import SwapLayer.Network.System
import SwapLayer.Network.Safety
import SwapLayer.Network.Requests
import SwapLayer.Network.Delivery
import SwapLayer.Bridge.RelayFees
import SwapLayer.Sdk.Deployment
import SwapLayer.Sdk.SwapMessages
import SwapLayer.Network.Bootstrap
import SwapLayer.Solana.RouteArgs
import SwapLayer.Client.JupiterRoute
import SwapLayer.Client.Staging
import SwapLayer.Lib.Abi
import SwapLayer.Evm.SentMessages
import SwapLayer.Evm.IntegrationRuns
import SwapLayer.Evm.IntegrationDelivery
