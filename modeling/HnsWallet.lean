import HnsWallet.Market.Settlement
import HnsWallet.Mobile.Exposure
import HnsWallet.Bitcoin.Scan
import HnsWallet.Market.Resumption
import HnsWallet.Market.Abandonment
import HnsWallet.Bitcoin.BroadcastRuns
import HnsWallet.Bitcoin.SpendLaws
import HnsWallet.Bitcoin.WatchCalls
import HnsWallet.Bitcoin.JournalRuns
import HnsWallet.Hns.Reapproval
import HnsWallet.Hns.NameReservations
import HnsWallet.Hns.Wedges
import HnsWallet.Shakedex.BoardRuns
import HnsWallet.Store.Composite
import HnsWallet.Hns.HtlcScript
import HnsWallet.Store.Replay
import HnsWallet.WireId
