import SybaseDriver.ProgramLogic
import SybaseDriver.GetValue
import SybaseDriver.Query
import SybaseDriver.Diagnostics
import SybaseDriver.Module
import SybaseDriver.Columns
import SybaseDriver.Reading
import SybaseDriver.Attachment
import SybaseDriver.Boundary
import SybaseDriver.Resend
import SybaseDriver.Binding
import SybaseDriver.Output
import SybaseDriver.Cursor
import SybaseDriver.Failure
import SybaseDriver.Termination
import SybaseDriver.CommandLogic
import SybaseDriver.Numbers
import SybaseDriver.Dates
import SybaseDriver.ColumnBlocks
import SybaseDriver.Progress
import SybaseDriver.ResultOrder
import SybaseDriver.FetchOrder
import SybaseDriver.Scanning
import SybaseDriver.DateRoundTrip
import SybaseDriver.BufferSizes
import SybaseDriver.DirectExecution
import SybaseDriver.ReturnCodes
import SybaseDriver.BufferedRow
import SybaseDriver.LostExecution
import SybaseDriver.ConnectionAborted
import SybaseDriver.Registry
import SybaseDriver.Ending
import SybaseDriver.Ownership
import SybaseDriver.Stages
import SybaseDriver.Requests
import SybaseDriver.Sessions
import SybaseDriver.Context
import SybaseDriver.Options
import SybaseDriver.Echo
import SybaseDriver.DateText
import SybaseDriver.Reports
import SybaseDriver.Encodings
import SybaseDriver.Transactions
