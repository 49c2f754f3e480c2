import Virtink.Deletion
import Virtink.Garbage
import Virtink.RunPolicies
import Virtink.VolumeStatus
import Virtink.VolumeClaims
import Virtink.Migratable
import Virtink.Replicas
import Virtink.MountRecord
import Virtink.DeviceRules
import Virtink.MountRelease
import Virtink.PodContents
import Virtink.Admission.Idempotence
import Virtink.PluggedDisks
import Virtink.SourcePaths
import Virtink.DeviceAccess
import Virtink.DeviceNumbers
import Virtink.Pinning
import Virtink.VhostSockets
import Virtink.Cleanup
import Virtink.HealthWatch
import Virtink.Convergence
import Virtink.Relays
import Virtink.SentMeansSent
import Virtink.ConsoleRoutes
import Virtink.Unknown
