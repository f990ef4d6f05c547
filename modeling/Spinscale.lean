import Spinscale.Qutex
import Spinscale.Chain
import Spinscale.Tracker
import Spinscale.DependencyGraph
import Spinscale.DependencyGraph.FindCycles
import Spinscale.Gridlock
import Spinscale.System.State
import Spinscale.SpinLock
import Spinscale.Lifetime
import Spinscale.Pinning
import Spinscale.Bridge
import Spinscale.System.Step
import Spinscale.System.Attempt
import Spinscale.System.Scheduling
import Spinscale.System.Queues
import Spinscale.System.AttemptSteps
import Spinscale.System.Ownership
import Spinscale.System.Release
import Spinscale.System.Aborts
import Spinscale.System.Progress
import Spinscale.System.Tracking
