import ClientTransaction.Blocking
import ClientTransaction.Bookmark
import ClientTransaction.Bookmark.Encoding
import ClientTransaction.Client
import ClientTransaction.Client.Delivery
import ClientTransaction.Client.History
import ClientTransaction.Completion
import ClientTransaction.Completion.Workbench
import ClientTransaction.Config
import ClientTransaction.Config.Json
import ClientTransaction.Config.Source
import ClientTransaction.Config.Toml
import ClientTransaction.Connection
import ClientTransaction.Cursor
import ClientTransaction.Decimal.Shortest
import ClientTransaction.Double
import ClientTransaction.Error
import ClientTransaction.Handle
import ClientTransaction.Json
import ClientTransaction.Json.Number
import ClientTransaction.Json.Reader
import ClientTransaction.Json.Text
import ClientTransaction.Lifecycle
import ClientTransaction.Lifecycle.Cell
import ClientTransaction.Lifecycle.Encoding
import ClientTransaction.Message
import ClientTransaction.Nonblocking
import ClientTransaction.Proofs.Blocking.Acknowledged
import ClientTransaction.Proofs.Blocking.Bookmarks
import ClientTransaction.Proofs.Blocking.Calls
import ClientTransaction.Proofs.Blocking.Closing
import ClientTransaction.Proofs.Blocking.Commit
import ClientTransaction.Proofs.Blocking.Contract
import ClientTransaction.Proofs.Blocking.Deliveries
import ClientTransaction.Proofs.Blocking.Handback
import ClientTransaction.Proofs.Blocking.Results
import ClientTransaction.Proofs.Blocking.Sending
import ClientTransaction.Proofs.Blocking.Settled
import ClientTransaction.Proofs.Blocking.Statements
import ClientTransaction.Proofs.Blocking.Strides
import ClientTransaction.Proofs.Blocking.Turns
import ClientTransaction.Proofs.Bookmark.Newest
import ClientTransaction.Proofs.Bookmark.Verbatim
import ClientTransaction.Proofs.Client.Alike
import ClientTransaction.Proofs.Client.Calm
import ClientTransaction.Proofs.Client.Growth
import ClientTransaction.Proofs.Client.Lasting
import ClientTransaction.Proofs.Client.Names
import ClientTransaction.Proofs.Client.Receipts
import ClientTransaction.Proofs.Client.Serves
import ClientTransaction.Proofs.Client.Starts
import ClientTransaction.Proofs.Client.Tidings
import ClientTransaction.Proofs.Client.Views
import ClientTransaction.Proofs.Client.Wakes
import ClientTransaction.Proofs.Client.Withholds
import ClientTransaction.Proofs.Completion.Awaited
import ClientTransaction.Proofs.Completion.Carried
import ClientTransaction.Proofs.Completion.Chains
import ClientTransaction.Proofs.Completion.Moves
import ClientTransaction.Proofs.Error.Classification
import ClientTransaction.Proofs.Json.Writing
import ClientTransaction.Proofs.Lifecycle.Joins
import ClientTransaction.Proofs.Nonblocking.Abandoned
import ClientTransaction.Proofs.Nonblocking.Acts
import ClientTransaction.Proofs.Nonblocking.Advances
import ClientTransaction.Proofs.Nonblocking.Bookmarks
import ClientTransaction.Proofs.Nonblocking.Bypasses
import ClientTransaction.Proofs.Nonblocking.Causal
import ClientTransaction.Proofs.Nonblocking.Concurring
import ClientTransaction.Proofs.Nonblocking.Consumptions
import ClientTransaction.Proofs.Nonblocking.Custody
import ClientTransaction.Proofs.Nonblocking.Dealings
import ClientTransaction.Proofs.Nonblocking.Deferring
import ClientTransaction.Proofs.Nonblocking.Discharged
import ClientTransaction.Proofs.Nonblocking.Draining
import ClientTransaction.Proofs.Nonblocking.Exhausting
import ClientTransaction.Proofs.Nonblocking.Failed
import ClientTransaction.Proofs.Nonblocking.Grammar
import ClientTransaction.Proofs.Nonblocking.Links
import ClientTransaction.Proofs.Nonblocking.Moves
import ClientTransaction.Proofs.Nonblocking.Observers
import ClientTransaction.Proofs.Nonblocking.Openings
import ClientTransaction.Proofs.Nonblocking.Outcomes
import ClientTransaction.Proofs.Nonblocking.Owed
import ClientTransaction.Proofs.Nonblocking.Passages
import ClientTransaction.Proofs.Nonblocking.Phases
import ClientTransaction.Proofs.Nonblocking.Promises
import ClientTransaction.Proofs.Nonblocking.Replied
import ClientTransaction.Proofs.Nonblocking.Requests
import ClientTransaction.Proofs.Nonblocking.Runs
import ClientTransaction.Proofs.Nonblocking.Sending
import ClientTransaction.Proofs.Nonblocking.Silenced
import ClientTransaction.Proofs.Nonblocking.Started
import ClientTransaction.Proofs.Nonblocking.Statements
import ClientTransaction.Proofs.Nonblocking.Strides
import ClientTransaction.Proofs.Nonblocking.Tracking
import ClientTransaction.Proofs.Nonblocking.Untaken
import ClientTransaction.Proofs.Nonblocking.Verdicts
import ClientTransaction.Proofs.Nonblocking.Wire
import ClientTransaction.Proofs.Scenario.Admission
import ClientTransaction.Proofs.Scenario.Agreement
import ClientTransaction.Proofs.Scenario.Arrivals
import ClientTransaction.Proofs.Scenario.Columns
import ClientTransaction.Proofs.Scenario.ExactlyOnce
import ClientTransaction.Proofs.Scenario.Exchanges
import ClientTransaction.Proofs.Scenario.Filing
import ClientTransaction.Proofs.Scenario.Growth
import ClientTransaction.Proofs.Scenario.Heeding
import ClientTransaction.Proofs.Scenario.Marks
import ClientTransaction.Proofs.Scenario.Overruns
import ClientTransaction.Proofs.Scenario.Programs
import ClientTransaction.Proofs.Scenario.Queries
import ClientTransaction.Proofs.Scenario.Quiet
import ClientTransaction.Proofs.Scenario.Replies
import ClientTransaction.Proofs.Scenario.Schedules
import ClientTransaction.Proofs.Scenario.Silenced
import ClientTransaction.Proofs.Scenario.Stages
import ClientTransaction.Proofs.Scenario.Streams
import ClientTransaction.Proofs.Scenario.Strides
import ClientTransaction.Proofs.Scenario.Uses
import ClientTransaction.Proofs.Transaction.Growth
import ClientTransaction.Proofs.Value.Equality
import ClientTransaction.Proofs.Value.Numbers
import ClientTransaction.Proofs.Value.Reading
import ClientTransaction.Scenario
import ClientTransaction.Text.Printable
import ClientTransaction.Text.Quoted
import ClientTransaction.Toml
import ClientTransaction.Toml.Document
import ClientTransaction.Toml.Reader
import ClientTransaction.Toml.Scalar
import ClientTransaction.Toml.Text
import ClientTransaction.Transaction
import ClientTransaction.TransactionId
import ClientTransaction.Value
import ClientTransaction.Value.Tagged
