import Kruntimes.Scheduler.Isolation
import Kruntimes.Scheduler.Capacity
import Kruntimes.Scheduler.Cycle
import Kruntimes.Scheduler.Persistence
import Kruntimes.Lifecycle.PodLoss
import Kruntimes.Lifecycle.Claiming
import Kruntimes.Lifecycle.Backoff
import Kruntimes.Lifecycle.Trials
import Kruntimes.Lifecycle.Sources
import Kruntimes.Lifecycle.Executions
import Kruntimes.Lifecycle.Reservations
import Kruntimes.Lifecycle.Finalization
import Kruntimes.Workflow.Isolation
import Kruntimes.Session.Serial
import Kruntimes.Session.Forward
import Kruntimes.Workflow.Cancellation
import Kruntimes.Workflow.Lookups
import Kruntimes.Workflow.Environment
import Kruntimes.Bash.ChildReaper
import Kruntimes.Bash.Output
import Kruntimes.Bash.Pages
import Kruntimes.Workspace.Usage
import Kruntimes.Runtimed.Logs
import Kruntimes.Runtimed.Outputs
import Kruntimes.Runtimed.Artifacts
import Kruntimes.Workflow.Graphs
import Kruntimes.Extension.Responses
import Kruntimes.Python.Tasks
