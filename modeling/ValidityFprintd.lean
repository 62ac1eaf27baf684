import ValidityFprintd.Effect
import ValidityFprintd.Reach
import ValidityFprintd.Codec
import ValidityFprintd.Checked
import ValidityFprintd.World
import ValidityFprintd.CutOff
import ValidityFprintd.Bytes
import ValidityFprintd.Lines
import ValidityFprintd.Usb
import ValidityFprintd.Crypto
import ValidityFprintd.Tls
import ValidityFprintd.TlsRecords
import ValidityFprintd.TlsKeeps
import ValidityFprintd.HandshakeReplies
import ValidityFprintd.TlsOpen
import ValidityFprintd.Framing
import ValidityFprintd.TlsRoundTrip
import ValidityFprintd.TlsSession
import ValidityFprintd.Flash
import ValidityFprintd.Pairing
import ValidityFprintd.Provision
import ValidityFprintd.PairingRecord
import ValidityFprintd.BlockGrammar
import ValidityFprintd.Sid
import ValidityFprintd.Db
import ValidityFprintd.Timeslot
import ValidityFprintd.Chunks
import ValidityFprintd.CaptureProgram
import ValidityFprintd.Listing
import ValidityFprintd.Decoding
import ValidityFprintd.Search
import ValidityFprintd.Sampling
import ValidityFprintd.Anchors
import ValidityFprintd.TrimPatch
import ValidityFprintd.Sensor
import ValidityFprintd.BestFit
import ValidityFprintd.BestRow
import ValidityFprintd.SensorFamily
import ValidityFprintd.CaptureLengths
import ValidityFprintd.BitStream
import ValidityFprintd.Bitpack
import ValidityFprintd.TrimEntry
import ValidityFprintd.Stripes
import ValidityFprintd.CaptureCommand
import ValidityFprintd.LiteralSession
import ValidityFprintd.LiteralPairing
import ValidityFprintd.LiteralReplies
import ValidityFprintd.LiteralCalibration
import ValidityFprintd.Averaging
import ValidityFprintd.NoPanic
import ValidityFprintd.Capture
import ValidityFprintd.Calibrate
import ValidityFprintd.Accumulate
import ValidityFprintd.Baseline
import ValidityFprintd.Partition
import ValidityFprintd.FlashReader
import ValidityFprintd.Validators
import ValidityFprintd.BaselineRepair
import ValidityFprintd.Enroll
import ValidityFprintd.WriteBracket
import ValidityFprintd.Traffic
import ValidityFprintd.EnrollStop
import ValidityFprintd.CaptureTexts
import ValidityFprintd.CaptureStop
import ValidityFprintd.Returns
import ValidityFprintd.ChunkedFlash
import ValidityFprintd.ProvisionGuard
import ValidityFprintd.Scans
import ValidityFprintd.EnrollRounds
import ValidityFprintd.Records
import ValidityFprintd.Device
import ValidityFprintd.HonestSensor
import ValidityFprintd.DeleteList
import ValidityFprintd.EnrollLoss
import ValidityFprintd.Keeper
import ValidityFprintd.DatabaseShape
import ValidityFprintd.EnrollHistory
import ValidityFprintd.FingerData
import ValidityFprintd.Authorize
import ValidityFprintd.OwnUid
import ValidityFprintd.Daemon
import ValidityFprintd.ClaimInForce
import ValidityFprintd.DeviceInvariant
import ValidityFprintd.OwnFingers
import ValidityFprintd.EndedUnheard
import ValidityFprintd.ClaimLook
import ValidityFprintd.VerifyOwner
import ValidityFprintd.SensorSlot
import ValidityFprintd.Simulation
import ValidityFprintd.Firmware
import ValidityFprintd.BringUp
import ValidityFprintd.DriverAlike
import ValidityFprintd.FarEnd
import ValidityFprintd.Agreement
import ValidityFprintd.Handle
import ValidityFprintd.OverSession
import ValidityFprintd.CacheHistory
import ValidityFprintd.Reopen
import ValidityFprintd.FirmwareHistory
import ValidityFprintd.Provisioned
import ValidityFprintd.Shelves
import ValidityFprintd.FingerShelf
import ValidityFprintd.ShelfHistory
import ValidityFprintd.Tools
import ValidityFprintd.Regions
import ValidityFprintd.ProgramWrites
import ValidityFprintd.OpSteps
import ValidityFprintd.WholeDaemon
import ValidityFprintd.MatchBacked
import ValidityFprintd.ShelfIntegrity
import ValidityFprintd.ListCalls
import ValidityFprintd.OwnListing
import ValidityFprintd.EnrolKept
import ValidityFprintd.SlotOpen
