import Oim.Lib.Prog
import Oim.Lib.KeyLock
import Oim.Lib.Linear
import Oim.Lib.Fields
import Oim.Lib.LastWrite
import Oim.Common.Status
import Oim.Common.Path
import Oim.Spdk.State
import Oim.Spdk.Rpc
import Oim.Spdk.Client
import Oim.Controller.Calls
import Oim.Controller.Protocol
import Oim.Controller.Exclusive
import Oim.Controller.MapUnmap
import Oim.Registry.Server
import Oim.Registry.History
import Oim.Registry.Guarantees
import Oim.Csi.Size
import Oim.Csi.Backend
import Oim.Csi.CreateVolume
import Oim.Csi.EndToEnd
import Oim.Csi.Agreement
import Oim.Controller.Atomic
import Oim.Csi.RemoteDevice
import Oim.Common.Endpoint
import Oim.Controller.Register
import Oim.Lib.Slice
import Oim.Log.Simple
import Oim.Spdk.Codec
import Oim.Csi.Host
import Oim.Csi.LocalDevice
import Oim.Csi.Unstage
import Oim.Controller.Replies
import Oim.Csi.Capabilities
import Oim.Csi.DeleteVolume
import Oim.Common.Bdf
import Oim.Csi.FindDev
import Oim.Csi.SysPaths
import Oim.Csi.Stage
import Oim.Lib.Binary64
import Oim.Spdk.Backends
import Oim.Spdk.JsonError
import Oim.Csi.Ceph
import Oim.Csi.Capacity
import Oim.Csi.CapacityRange
import Oim.Csi.Mounter
import Oim.Csi.Publish
import Oim.Csi.Unpublish
import Oim.Csi.DeviceNumber
import Oim.Csi.CreateDevice
import Oim.Lib.Guarded
import Oim.Node.State
import Oim.Node.Calls
import Oim.Node.Outlines
import Oim.Node.Safety
import Oim.Node.Cycle
import Oim.Node.Retry
import Oim.System.RemoteDisk
import Oim.System.Tls
import Oim.System.Deployment
import Oim.Lib.Remote
import Oim.Spdk.Wire
import Oim.Spdk.Marshal
import Oim.Lib.Quiet
import Oim.Node.Volumes
