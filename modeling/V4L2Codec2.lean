import V4L2Codec2.Source.C2Config
import V4L2Codec2.Source.LevelLimits
import V4L2Codec2.Source.Binary
import V4L2Codec2.Source.ProfileLevelSetter
import V4L2Codec2.Source.Initialize
import V4L2Codec2.Source.IntraRefresh
import V4L2Codec2.Spec.LevelScan
import V4L2Codec2.Spec.Resolver
import V4L2Codec2.System.Process
import V4L2Codec2.Guarantees.LevelResolution
import V4L2Codec2.Guarantees.SetterLaws
import V4L2Codec2.Guarantees.SharedMemory
import V4L2Codec2.Guarantees.RequestedLevel
import V4L2Codec2.Guarantees.Interface
import V4L2Codec2.Guarantees.RecordedLevel
