import Wcn36xx.Dxe.Construct
import Wcn36xx.Dxe.NoLost
import Wcn36xx.Dxe.Publish
import Wcn36xx.Dxe.RxDrain
import Wcn36xx.Dxe.TxFifo
import Wcn36xx.Mac.AmpduStart
import Wcn36xx.Mac.BssBalance
import Wcn36xx.Mac.BssIndex
import Wcn36xx.Mac.KeyAccess
import Wcn36xx.Mac.Refusals
import Wcn36xx.Mac.Multicast
import Wcn36xx.Mac.PowerSave
import Wcn36xx.Mac.Rates
import Wcn36xx.Mac.StaIndex
import Wcn36xx.Mac.Tid
import Wcn36xx.Main.Callbacks
import Wcn36xx.Main.CtlBlksFailure
import Wcn36xx.Main.StartFailure
import Wcn36xx.Main.StopNeutral
import Wcn36xx.Smd.Composed
import Wcn36xx.Smd.ConfigMsg
import Wcn36xx.Smd.Correlation
import Wcn36xx.Smd.Dispatch
import Wcn36xx.Smd.Indication
import Wcn36xx.Smd.Beacon
import Wcn36xx.Smd.CfgTlv
import Wcn36xx.Txrx.AnyInterface
import Wcn36xx.Txrx.BdIntegrity
import Wcn36xx.Txrx.BdLayout
import Wcn36xx.Txrx.Concurrent
import Wcn36xx.Txrx.FailedTx
import Wcn36xx.Txrx.Geometry
import Wcn36xx.Txrx.Queues
import Wcn36xx.Txrx.RxSkb
import Wcn36xx.Smd.Mirror
import Wcn36xx.Smd.Open
import Wcn36xx.Main.DataPath
import Wcn36xx.Smd.Delivery
import Wcn36xx.Txrx.RxDelivery
import Wcn36xx.Txrx.TxAddressing
import Wcn36xx.Smd.FeatCaps
import Wcn36xx.Smd.ConfigLayout
import Wcn36xx.Debug.Dump
import Wcn36xx.Mac.FirmwareIds
