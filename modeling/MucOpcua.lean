import MucOpcua.Encoding.ReaderSticky
import MucOpcua.Security.KeyDerivation
import MucOpcua.Server.OutSequence
import MucOpcua.Server.SecuredChannel
import MucOpcua.Server.OpnAtomic
import MucOpcua.Server.SplitRequest
import MucOpcua.Server.ChannelCertificate
import MucOpcua.Server.SessionGate
import MucOpcua.Server.ReceiveStream
import MucOpcua.Subscription.Retransmission
import MucOpcua.NodeManagement.Deletion
import MucOpcua.NodeManagement.Visibility
import MucOpcua.PubSub.Uadp
import MucOpcua.ComplexTypes.Registry
import MucOpcua.History.ProcessedRead
import MucOpcua.Subscription.LikePattern
import MucOpcua.Subscription.ItemNodeId
import MucOpcua.Subscription.TriggerLinks
import MucOpcua.Subscription.WhereClauseTruth
import MucOpcua.Services.BodyConfinement
import MucOpcua.Core.SequenceReplay
import MucOpcua.Services.TimeValues
import MucOpcua.Subscription.QueueRefinement
import MucOpcua.Services.UserIdentity
import MucOpcua.Subscription.PublishOrder
import MucOpcua.Server.Lifecycle
