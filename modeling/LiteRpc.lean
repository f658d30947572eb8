import LiteRpc.Lib.BTreeMap
import LiteRpc.Lib.Run
import LiteRpc.AccountData
import LiteRpc.AccountDataByCommitment
import LiteRpc.InmemoryAccountStore
import LiteRpc.AccountStoreRuns
import LiteRpc.AccountUpdateOrder
import LiteRpc.Lib.NodupKeys
import LiteRpc.AccountService
import LiteRpc.GrpcMultiplex
import LiteRpc.ProcessedBlockMultiplex
import LiteRpc.TxStore
import LiteRpc.TransactionReplayer
import LiteRpc.LeaderSchedule
import LiteRpc.PrioritizationFeeData
import LiteRpc.PrioritizationFeePercentiles
import LiteRpc.AccountPrioFees
import LiteRpc.PrioritizationFeeHeap
import LiteRpc.PrioritizationFeeRetention
import LiteRpc.Lib.LastWriterWins
import LiteRpc.TakableMap
import LiteRpc.StakeVote
import LiteRpc.VoteAccountsRpc
import LiteRpc.BlockInformationStore
import LiteRpc.Lib.Bincode
import LiteRpc.ProxyRequestFormat
import LiteRpc.Lib.Panic
import LiteRpc.ComputeBudget
import LiteRpc.TransactionService
import LiteRpc.AddressLookupTableStore
import LiteRpc.Lib.GroupMap
import LiteRpc.LeaderScheduleByNode
import LiteRpc.PostgresBlockStore
import LiteRpc.AccountFilter
import LiteRpc.PollBlocks
import LiteRpc.ScheduleEpoch
import LiteRpc.Lib.Aggregate
import LiteRpc.EpochStakes
import LiteRpc.TpuConnections
import LiteRpc.Lib.RunningMax
import LiteRpc.Lib.Streak
import LiteRpc.PollSlots
import LiteRpc.Lib.RunExcept
import LiteRpc.AutoReconnect
import LiteRpc.TxForward
import LiteRpc.Lib.Semaphore
import LiteRpc.QuicConnection
import LiteRpc.ActiveConnectionListen
import LiteRpc.Lib.Broadcast
import LiteRpc.Lib.Chunks
import LiteRpc.QuicProxyConnectionManager
