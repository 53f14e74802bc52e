import Europa.Cxx.StdString
import Europa.Cxx.Ostream
import Europa.Cxx.Strtol
import Europa.Utils.Error
import Europa.Utils.DebugMsg
import Europa.ConstraintEngine.IntervalIntTypeFactory
