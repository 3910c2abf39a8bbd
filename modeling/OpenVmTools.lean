import OpenVmTools.File.Descriptor
import OpenVmTools.File.Lock
import OpenVmTools.File.LockTable
import OpenVmTools.File.FileSystem
import OpenVmTools.File.Status
import OpenVmTools.File.AtomicTempFile
import OpenVmTools.File.AtomicExchange
import OpenVmTools.File.ServerExchange
import OpenVmTools.File.Commit
import OpenVmTools.File.CommitRun
import OpenVmTools.File.Concurrency
import OpenVmTools.File.LockAccounting
import OpenVmTools.File.Footprint
import OpenVmTools.File.ServerRuns
import OpenVmTools.GuestApp.Backdoor
import OpenVmTools.GuestApp.Transfer
import OpenVmTools.GuestApp.Clipboard
import OpenVmTools.GuestApp.Rpc
