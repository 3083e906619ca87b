import UsbdStorage.Buffer
import UsbdStorage.Queue
import UsbdStorage.Transport.Wire
import UsbdStorage.Transport.Bus
import UsbdStorage.Transport.BulkOnly
import UsbdStorage.Transport.Steps
import UsbdStorage.Transport.Invariant
import UsbdStorage.Transport.Faults
import UsbdStorage.Transport.Commands
import UsbdStorage.Transport.Tracking
import UsbdStorage.Transport.Delivery
import UsbdStorage.Transport.Decode
import UsbdStorage.Transport.Csw
import UsbdStorage.Subclass.Scsi
import UsbdStorage.Subclass.Ufi
import UsbdStorage.Subclass.Cdb
import UsbdStorage.Subclass.Poll
import UsbdStorage.Subclass.Callback
import UsbdStorage.Subclass.Dispatch
import UsbdStorage.Subclass.Drain
import UsbdStorage.Subclass.Receive
import UsbdStorage.Subclass.Panics
import UsbdStorage.Subclass.Answer
import UsbdStorage.Subclass.Runs
