import AntSeed.Pools.ExitQuotes
import AntSeed.Emissions.Schedule
import AntSeed.Emissions.ConfigHistory
import AntSeed.Emissions.Settlement
import AntSeed.Emissions.MinterIndex
import AntSeed.Emissions.StakerBucketRuns
import AntSeed.Emissions.StakerCursors
import AntSeed.Staking.CatchUp
import AntSeed.Staking.UnstakeRuns
import AntSeed.Verification.AuditorRewards
import AntSeed.FreeUsage.Replay
import AntSeed.Integrity.Batches
import AntSeed.Legacy.Release
import AntSeed.Payments.OneOffPlan
import AntSeed.Protocol.Receipts
import AntSeed.Gateway.EnteredOnce
import AntSeed.Seller.OnChain
import AntSeed.Seller.Admission
import AntSeed.Seller.Backing
import AntSeed.Buyer.Reload
import AntSeed.Buyer.DeliveredOnce
import AntSeed.Buyer.PaidOnDelivery
import AntSeed.Mux.Reassembly
import AntSeed.Mux.DownloadAcks
import AntSeed.P2p.Replays
import AntSeed.P2p.DeliveredPrefix
import AntSeed.FreeTier.Runs
import AntSeed.FreeTier.Told
import AntSeed.FreeUsage.Acknowledged
import AntSeed.Storage.ChannelTable
import AntSeed.Gateway.SpendRollups
import AntSeed.Gateway.RetiredJobs
import AntSeed.Proxy.PeerHealth
import AntSeed.FreeTier.Outlook
import AntSeed.Router.ModelRoutingClient
import AntSeed.Fingerprints.CanonicalJson
import AntSeed.Pools.PrefixSums
import AntSeed.Routing.SellerHealth
