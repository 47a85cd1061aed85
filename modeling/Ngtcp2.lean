import Ngtcp2.Invariant.Closed
import Ngtcp2.Invariant.SendFlow
import Ngtcp2.Invariant.RtbOrder
import Ngtcp2.Invariant.ResetSignal
import Ngtcp2.Invariant.Encodable
import Ngtcp2.Invariant.FcList
import Ngtcp2.Invariant.IdWindow
import Ngtcp2.Invariant.AckChain
import Ngtcp2.Recovery.AcktrAck
import Ngtcp2.Recovery.RtbAck
import Ngtcp2.Wire.ParamsRoundtrip
import Ngtcp2.Invariant.Credit
import Ngtcp2.Receive.Commute
import Ngtcp2.Receive.Conform
import Ngtcp2.Send.WellFormed
import Ngtcp2.Account.StreamIdCredit
import Ngtcp2.Receive.Linger
import Ngtcp2.Send.Conserve
import Ngtcp2.Send.Report
import Ngtcp2.Stream.Trackers
import Ngtcp2.Stream.Reorder
import Ngtcp2.Recovery.PqOrder
import Ngtcp2.Stream.Map
import Ngtcp2.Recovery.AckRing
import Ngtcp2.Receive.Memory
import Ngtcp2.Invariant.Expiry
import Ngtcp2.Receive.EndToEnd
import Ngtcp2.Wire.Transit
