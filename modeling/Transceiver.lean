import Transceiver.Fsk.Outgoing
import Transceiver.Lora.Timing
import Transceiver.Rig.Operation
import Transceiver.Sx126x.Device
import Transceiver.Lr11xx.Device
import Transceiver.Proofs.Mode
import Transceiver.Proofs.ListenBeforeTalk
import Transceiver.Proofs.SyncMarker
import Transceiver.Proofs.FskReception
import Transceiver.Proofs.Arming
import Transceiver.Proofs.Scan
import Transceiver.Proofs.Calibration
import Transceiver.Proofs.Sleep
import Transceiver.Proofs.Amplifier
import Transceiver.Proofs.FrameImage
import Transceiver.Proofs.Coalescing
import Transceiver.Proofs.Attribution
import Transceiver.Proofs.Rearming
import Transceiver.Proofs.Waking
import Transceiver.Proofs.NarrowMask
import Transceiver.Proofs.Guards
import Transceiver.Proofs.Antenna
import Transceiver.Proofs.ModeCommand
import Transceiver.Proofs.Coverage
import Transceiver.Proofs.Airtime
import Transceiver.Proofs.Timeout
import Transceiver.Proofs.Avoidance
import Transceiver.Proofs.Capacity
import Transceiver.Proofs.Bounds
import Transceiver.Proofs.BandEdge
import Transceiver.Proofs.CyclicCode
import Transceiver.Proofs.ErrorDetection
import Transceiver.Proofs.FailedStart
import Transceiver.Proofs.FrameLength
import Transceiver.Proofs.Recovery
import Transceiver.Proofs.InPlaceFrame
import Transceiver.Proofs.Measurement
import Transceiver.Proofs.ChannelCheck
import Transceiver.Proofs.Conclusions
import Transceiver.Proofs.Durations
import Transceiver.Proofs.LoraAirtime
import Transceiver.Proofs.Synthesizer
import Transceiver.Proofs.SharedBuffer
import Transceiver.Proofs.BreakBeforeMake
import Transceiver.Proofs.Delivery
import Transceiver.Proofs.FrontEnd
import Transceiver.Proofs.CalibrationBand
import Transceiver.Proofs.Whitening
import Transceiver.Proofs.InterruptRegister
import Transceiver.Proofs.Retention
