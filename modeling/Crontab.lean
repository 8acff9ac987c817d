import Crontab.Attempt
import Crontab.Attribute
import Crontab.Builder
import Crontab.Config.File
import Crontab.Config.Placeholder
import Crontab.Dispatch
import Crontab.Executor
import Crontab.Lifecycle
import Crontab.Listener.Recorder
import Crontab.Scheduler
import Crontab.Table.Columns
import Crontab.Tick.Loop
import Crontab.Proofs.Places
import Crontab.Proofs.Text.Trim
import Crontab.Proofs.Text.Pieces
import Crontab.Proofs.Pattern.Meaning
import Crontab.Proofs.Pattern.Alternation
import Crontab.Proofs.Table.Columns
import Crontab.Proofs.Scheduler.Commands
import Crontab.Proofs.Executor.Bookkeeping
import Crontab.Proofs.Lifecycle.LiveLoops
import Crontab.Proofs.Tick.Run
import Crontab.Proofs.Tick.ClockSteps
import Crontab.Proofs.Calendar.Period
import Crontab.Proofs.Dispatch.OncePerPeriod
import Crontab.Pattern.Writing
import Crontab.Proofs.Pattern.RoundTrip
import Crontab.Execution.Overlap
import Crontab.Proofs.Execution.Alone
import Crontab.Proofs.Execution.Reports
import Crontab.Proofs.Lifecycle.LaunchesInFlight
import Crontab.Field.Grammar
import Crontab.Proofs.Text.Numeral
import Crontab.Proofs.Field.Grammar
import Crontab.Proofs.Pattern.MinuteMode
import Crontab.Proofs.Execution.Panics
import Crontab.Proofs.Calendar.Gregorian
import Crontab.Proofs.Calendar.Reading
import Crontab.Proofs.Pattern.Wildcards
import Crontab.Proofs.Tick.Shutdown
import Crontab.Proofs.Listener.Rounds
import Crontab.Field.Fault
import Crontab.Proofs.Field.Faults
import Crontab.Proofs.Pattern.Faults
import Crontab.Proofs.Pattern.Layout
import Crontab.Proofs.Field.Sunday
import Crontab.Proofs.Tick.Nearness
import Crontab.Proofs.Calendar.Decomposition
import Crontab.Proofs.Pattern.Daily
import Crontab.Proofs.Field.Spacing
import Crontab.Proofs.Builder.Discovered
import Crontab.Proofs.LastGiven
import Crontab.Proofs.Builder.Options
import Crontab.Proofs.Attribute.Arguments
import Crontab.Proofs.Attribute.Names
import Crontab.Matcher.Word
import Crontab.Proofs.Matcher.Membership
import Crontab.Pattern.Columns
import Crontab.Proofs.Pattern.Representation
import Crontab.Proofs.Config.Placeholder
import Crontab.Proofs.Scheduler.Startup
