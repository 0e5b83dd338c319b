import LaserDriver.Lib.Program
import LaserDriver.Lib.Exchange
import LaserDriver.Lib.Run
import LaserDriver.Lib.Mutex
import LaserDriver.Lib.Pool
import LaserDriver.Lib.Fifo
import LaserDriver.Lib.Debounce
import LaserDriver.Lib.Circular
import LaserDriver.Rtos.Ringbuf
import LaserDriver.Rtos.Client
import LaserDriver.Rtos.Queue
import LaserDriver.Adc.Driver
import LaserDriver.Adc.Controller
import LaserDriver.Adc.Pattern
import LaserDriver.Adc.System
import LaserDriver.Adc.Execution
import LaserDriver.Adc.Continuous
import LaserDriver.Adc.Cases
import LaserDriver.Adc.Ownership
import LaserDriver.Adc.Failures
import LaserDriver.Adc.Accounting
import LaserDriver.Adc.Handles
import LaserDriver.Adc.Frames
import LaserDriver.Adc.Locking
import LaserDriver.Lib.Average
import LaserDriver.Adc.Exchanges
import LaserDriver.Adc.Averages
import LaserDriver.Adc.Calibration
import LaserDriver.Adc.Handed
import LaserDriver.Ui.Trigger
import LaserDriver.Ui.Events
import LaserDriver.Led.Config
import LaserDriver.Led.Driver
import LaserDriver.Led.Operations
import LaserDriver.Led.System
import LaserDriver.Led.Locking
import LaserDriver.Led.Table
import LaserDriver.Led.Allocation
import LaserDriver.Led.Footprint
import LaserDriver.Led.Requests
import LaserDriver.Led.Performed
import LaserDriver.Led.Codes
import LaserDriver.Led.Duties
import LaserDriver.Led.Hardware
import LaserDriver.Led.Failing
import LaserDriver.Led.Colors
import LaserDriver.Led.Commands
import LaserDriver.Led.Brightness
import LaserDriver.Led.Lighting
import LaserDriver.Led.Addressing
import LaserDriver.Ledc.Fade
import LaserDriver.Ledc.Fading
import LaserDriver.Lib.Rounded
import LaserDriver.Ledc.Frequency
import LaserDriver.Led.Tuning
import LaserDriver.Lib.Sole
import LaserDriver.Ledc.Service
import LaserDriver.Ledc.Sharing
import LaserDriver.Ledc.Safety
import LaserDriver.Ledc.Progress
import LaserDriver.Shell.Listener
import LaserDriver.Uart.Driver
import LaserDriver.Uart.Reception
import LaserDriver.Uart.Losses
import LaserDriver.Uart.Listening
import LaserDriver.Mutexes
import LaserDriver.Lib.Wrapped
import LaserDriver.Sensors.Conversion
import LaserDriver.Sensors.Regions
import LaserDriver.Sensors.Interpolation
import LaserDriver.Sensors.Readings
import LaserDriver.Sensors.Faults
import LaserDriver.Sensors.Controller
import LaserDriver.Lib.Words
import LaserDriver.Rtos.Items
