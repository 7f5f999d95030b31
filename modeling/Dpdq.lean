import Dpdq.Tofino.PauseRecovery
import Dpdq.Ns3.SwitchMmuRun
import Dpdq.Ns3.SwitchCbMmuRun
import Dpdq.Ns3.IrnSafety
import Dpdq.Ns3.CbReceiverTimer
import Dpdq.Ns3.CbReceiverReclaim
import Dpdq.Ns3.CbReceiverProgress
import Dpdq.Ns3.CbGrantPath
import Dpdq.Ns2.HybridDemand
import Dpdq.Ns3.CbExactCompletion
import Dpdq.Ns3.IrnReceiver
import Dpdq.Ns3.CbSchedulerRun
import Dpdq.Ns2.CreditRestored
import Dpdq.Tofino.PhantomQueue
import Dpdq.Tofino.UdpChecksum
import Dpdq.Ns3.CbResend
import Dpdq.Ns3.QpCompletion
import Dpdq.Ns3.CbGrantBounce
import Dpdq.Ns2.BounceRevoked
import Dpdq.Ns2.HybridResendPath
import Dpdq.Ns2.GrantRound
import Dpdq.Ns2.DpdqQueue
import Dpdq.Ns2.SenderPolicyRun
import Dpdq.Ns2.RatioUpdates
import Dpdq.Ns3.SelfAllocation
import Dpdq.Ns3.CbMmuSync
import Dpdq.Ns3.SharedBuffer
import Dpdq.Ns3.PfcClasses
import Dpdq.Ns3.BufferPartition
import Dpdq.Lib.Rotation
import Dpdq.Ns3.CbHeaderAdjunction
import Dpdq.Ns3.RdmaQueuePairGroup
import Dpdq.Ns3.RdmaHost
import Dpdq.Ns3.PhantomDrain
import Dpdq.Ns3.BEgressQueue
import Dpdq.Lib.Hysteresis
import Dpdq.Ns3.PortHysteresis
import Dpdq.Ns2.DestHashClassifier
import Dpdq.Ns2.BounceReference
import Dpdq.Lib.RoundRobin
import Dpdq.Ns3.CbGrantTurns
import Dpdq.Lib.DeficitScheduler
import Dpdq.Ns3.CbDeficits
import Dpdq.Ns3.CbDeficitsRun
import Dpdq.Lib.ByteReader
import Dpdq.Ns3.PacketHeaders
import Dpdq.Ns3.CustomHeader
import Dpdq.Ns3.CustomHeaderRoundTrip
import Dpdq.Ns3.QbbNetDevice
import Dpdq.Ns3.QbbPacing
import Dpdq.Ns3.GoBackN
import Dpdq.Ns3.GoBackNSafety
import Dpdq.Ns3.GoBackNProgress
import Dpdq.Ns3.Dcqcn
import Dpdq.Ns3.DcqcnRate
import Dpdq.Ns3.DcqcnCnp
import Dpdq.Lib.Ring
import Dpdq.Ns3.IntTelemetry
import Dpdq.Ns3.IntPath
import Dpdq.Lib.Rounds
import Dpdq.Ns3.Hpcc
import Dpdq.Ns3.Timely
import Dpdq.Ns3.Dctcp
import Dpdq.Tofino.CreditRoute
