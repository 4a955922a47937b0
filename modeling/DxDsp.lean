import DxDsp.Library.Machine
import DxDsp.Library.Observation
import DxDsp.Library.Lockstep
import DxDsp.Library.Memory
import DxDsp.Library.Window
import DxDsp.Library.Acquisition
import DxDsp.Library.LockRecord
import DxDsp.Library.Timeline
import DxDsp.Library.Cells
import DxDsp.Library.Allocator
import DxDsp.Library.LatestWrite
import DxDsp.Library.History
import DxDsp.Library.BusyFlag
import DxDsp.Library.Pipeline
import DxDsp.Library.Mailbox
import DxDsp.Library.Reservations
import DxDsp.Library.Ownership
import DxDsp.Library.Progress
import DxDsp.Library.WaitQueue
import DxDsp.Device
import DxDsp.Run
import DxDsp.MessageSlot
import DxDsp.Delivery
import DxDsp.Pool
import DxDsp.PoolRefinement
import DxDsp.PoolInterleaving
import DxDsp.Probe
import DxDsp.Transfer
import DxDsp.DeviceMemory
import DxDsp.Mmap
import DxDsp.Isolation
import DxDsp.Driver
import DxDsp.TransferBounds
import DxDsp.AddressWindow
import DxDsp.Ioctl
import DxDsp.Locks
import DxDsp.Creation
import DxDsp.BusyMark
import DxDsp.Overlap
import DxDsp.Dispatch
import DxDsp.Removal
import DxDsp.ReadOutput
import DxDsp.Recovery
import DxDsp.Terminate
import DxDsp.Exclusion
import DxDsp.WritePath
import DxDsp.PollRead
import DxDsp.SignalledRead
import DxDsp.Submissions
import DxDsp.Uninitialised
import DxDsp.Replies
import DxDsp.Provenance
import DxDsp.Work
import DxDsp.Calls
import DxDsp.Progress
import DxDsp.Answered
import DxDsp.Wakeups
import DxDsp.Sleepers
import DxDsp.ResetLine
import DxDsp.InFlight
import DxDsp.Lifecycle
import DxDsp.Library.Custody
import DxDsp.RequestNodes
import DxDsp.Stopping
import DxDsp.AtomicService
import DxDsp.RoundTrip
import DxDsp.Confined
