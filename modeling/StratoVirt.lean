import StratoVirt.Config.Balloon
import StratoVirt.Virtio.Defs
import StratoVirt.Virtio.Queue
import StratoVirt.EventLoop
import StratoVirt.Net.Datapath
import StratoVirt.Net.Notifiers
import StratoVirt.Net.IoLoop
import StratoVirt.Net.Reorder
import StratoVirt.Net.Realize
import StratoVirt.Net.ConfigSpace
import StratoVirt.Net.Device
import StratoVirt.Net.Ctrl
import StratoVirt.Net.CtrlNotifiers
import StratoVirt.Net.Migration
import StratoVirt.Pci.Config
import StratoVirt.Vfio.Access
import StratoVirt.Vfio.Reset
import StratoVirt.Vfio.Msix
import StratoVirt.Vfio.Realize
import StratoVirt.Aio.Raw
