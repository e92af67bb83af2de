import Housekeeper.CdsTime
import Housekeeper.Config
import Housekeeper.Dataset.Basic
import Housekeeper.Dataset.Transaction
import Housekeeper.Dataset.Wire
import Housekeeper.Error
import Housekeeper.IdTable
import Housekeeper.Identifier
import Housekeeper.Json.Numeral
import Housekeeper.Json.Record
import Housekeeper.Json.Value
import Housekeeper.Main
import Housekeeper.Manager.Basic
import Housekeeper.Manager.Owner
import Housekeeper.Manager.Pass
import Housekeeper.Manager.Process
import Housekeeper.Manager.Report
import Housekeeper.Manager.Request
import Housekeeper.Manager.Subscription
import Housekeeper.Message.Command
import Housekeeper.Message.Text
import Housekeeper.Number.Binary
import Housekeeper.Number.FloatText
import Housekeeper.Number.Shortest
import Housekeeper.Pool.Accessor
import Housekeeper.Pool.Bank
import Housekeeper.Pool.Element
import Housekeeper.Pool.Entry
import Housekeeper.Pool.LocalPool
import Housekeeper.Report.Kind
import Housekeeper.Report.Packet
import Housekeeper.Report.Snapshot
import Housekeeper.Report.Structure
import Housekeeper.Report.Timer
import Housekeeper.Simulation.Options
import Housekeeper.Simulation.Run
import Housekeeper.Simulation.Thermal
import Housekeeper.Transport.ErrorLog
import Housekeeper.Transport.Memory
import Housekeeper.Transport.PageBuffer
import Housekeeper.Transport.Queue
import Housekeeper.Transport.Services
import Housekeeper.Transport.Store
import Housekeeper.Wire.ByteOrder
import Housekeeper.Wire.Hex
import Housekeeper.Wire.Reader
import Housekeeper.Wire.Writer
import Housekeeper.Proofs.History
import Housekeeper.Proofs.Bookkeeping
import Housekeeper.Proofs.Delivery
import Housekeeper.Proofs.Servicing
import Housekeeper.Proofs.Consignments
import Housekeeper.Proofs.Custody
import Housekeeper.Proofs.Answers
import Housekeeper.Proofs.WireFormat
import Housekeeper.Proofs.Reports
import Housekeeper.Proofs.Periods
import Housekeeper.Proofs.Overwriting
import Housekeeper.Proofs.Confinement
import Housekeeper.Proofs.PageMemory
import Housekeeper.Proofs.StoreCalls
import Housekeeper.Proofs.StoreMap
import Housekeeper.Proofs.Staleness
import Housekeeper.Proofs.Timeouts
import Housekeeper.Proofs.Observation
import Housekeeper.Proofs.Routing
import Housekeeper.Proofs.Transactions
import Housekeeper.Proofs.Provision
import Housekeeper.Proofs.Controller
import Housekeeper.Proofs.SteadyState
import Housekeeper.Proofs.Checkouts
import Housekeeper.Proofs.StructureReports
import Housekeeper.Proofs.WholeWrites
import Housekeeper.Proofs.Snapshots
import Housekeeper.Proofs.IdLists
import Housekeeper.Proofs.Calendar
import Housekeeper.Proofs.Classification
import Housekeeper.Proofs.Firings
import Housekeeper.Proofs.ErrorHistory
import Housekeeper.Proofs.Accounting
import Housekeeper.Proofs.Registration
import Housekeeper.Proofs.StampInstants
import Housekeeper.Proofs.PageNumbers
import Housekeeper.Proofs.SingleElements
import Housekeeper.Proofs.MixedData
