import Clusteradm.Go.Effect
import Clusteradm.Kube.Types
import Clusteradm.Kube.Conditions
import Clusteradm.Join.World
import Clusteradm.Join.Complete
import Clusteradm.Join.Validate
import Clusteradm.Join.Escalate
import Clusteradm.Join.Wait
import Clusteradm.Join.Run
import Clusteradm.Join.Command
import Clusteradm.Get.Work
