import Banlieue.Sdk.Leader
import Banlieue.Libvirt.Framing
import Banlieue.Libvirt.Xdr
import Banlieue.Oci.Pull
import Banlieue.Oci.Confinement
import Banlieue.Operator.Exactness
import Banlieue.ProviderLibvirt.Status
import Banlieue.ProviderLibvirt.Import
import Banlieue.Pool.Rounds
import Banlieue.Controller.Transitions
import Banlieue.Vm.Moves
import Banlieue.Vm.Backends
import Banlieue.Vm.Exclusivity
import Banlieue.Controller.Binding
import Banlieue.Controller.Deletion
import Banlieue.Controller.Release
import Banlieue.Controller.OneMember
import Banlieue.Scheduler.Capacity
import Banlieue.Scheduler.Diagnosis
import Banlieue.ProviderCloudHypervisor.Reuse
import Banlieue.Imagebuilder.MergeLaws
import Banlieue.Imagebuilder.PrelayReports
import Banlieue.Image.Imports
import Banlieue.Vex.Reachability
import Banlieue.ProviderVsphere.NicFlag
