import KeypadBridge.Protocol.AesCtr
import KeypadBridge.Protocol.Adverts
import KeypadBridge.Protocol.Credentials
import KeypadBridge.Protocol.MacForms
import KeypadBridge.Foundation.Buffers
import KeypadBridge.Foundation.Machine
import KeypadBridge.Foundation.Rekeying
import KeypadBridge.Foundation.RekeyingLaws
import KeypadBridge.Foundation.RingWindow
import KeypadBridge.Foundation.Counters
import KeypadBridge.Foundation.WrappingClock
import KeypadBridge.Foundation.WriteBack
import KeypadBridge.Foundation.JobBoardLaws
import KeypadBridge.Foundation.JobBoardWatch
import KeypadBridge.Foundation.Mailbox
import KeypadBridge.Foundation.Gauge
import KeypadBridge.Foundation.Lately
import KeypadBridge.Session.LockSession
import KeypadBridge.Session.Opening
import KeypadBridge.Session.WellFormed
import KeypadBridge.Session.Admission
import KeypadBridge.Session.Negotiation
import KeypadBridge.Session.Invariant
import KeypadBridge.Session.Generations
import KeypadBridge.Session.Rotation
import KeypadBridge.Session.Provenance
import KeypadBridge.Session.Handoff
import KeypadBridge.Session.ReplayWindow
import KeypadBridge.Session.Malleation
import KeypadBridge.Session.Offers
import KeypadBridge.Session.Drops
import KeypadBridge.Session.Exposure
import KeypadBridge.Client.Answers
import KeypadBridge.Client.GcmNonces
import KeypadBridge.Client.GcmCounter
import KeypadBridge.Client.Interoperation
import KeypadBridge.Client.Provisioning
import KeypadBridge.Wizard.BackgroundJob
import KeypadBridge.Wizard.PairingUi
import KeypadBridge.Wizard.KeypadHandshake
import KeypadBridge.Wizard.HandshakeOutcome
import KeypadBridge.Wizard.SharedSecret
import KeypadBridge.Bridge.SwitchbotKeypadBridge
import KeypadBridge.Bridge.Replies
import KeypadBridge.Bridge.Device
import KeypadBridge.Bridge.BatteryScan
import KeypadBridge.Bridge.DeviceRuns
import KeypadBridge.Bridge.Links
import KeypadBridge.Bridge.Reset
import KeypadBridge.Bridge.Reboot
import KeypadBridge.Bridge.Forgetting
import KeypadBridge.Bridge.BatteryLevels
import KeypadBridge.Bridge.LinkedAddress
import KeypadBridge.Bridge.Relay
import KeypadBridge.Bridge.RelaySlot
import KeypadBridge.Bridge.RelayOrder
import KeypadBridge.Bridge.RelayOutcomes
import KeypadBridge.Bridge.RelayReplay
import KeypadBridge.Bridge.RxQueue
import KeypadBridge.Bridge.Sensors
import KeypadBridge.Firmware.Tasks
import KeypadBridge.Firmware.Boards
import KeypadBridge.Firmware.Attribution
import KeypadBridge.Firmware.LostJobs
import KeypadBridge.Firmware.Serving
import KeypadBridge.Firmware.IdleClock
import KeypadBridge.Firmware.ScanInterval
import KeypadBridge.Firmware.ScanUsers
import KeypadBridge.Firmware.Gates
import KeypadBridge.Firmware.OneShot
import KeypadBridge.Firmware.SharedSlot
import KeypadBridge.Account.CloudClient
import KeypadBridge.Account.CloudSessions
import KeypadBridge.Account.DeviceKeys
import KeypadBridge.Account.SetupAccount
import KeypadBridge.Client.ConfiguredLock
import KeypadBridge.Firmware.SetupMode
import KeypadBridge.Foundation.KeyedFold
import KeypadBridge.Wizard.Nearby
import KeypadBridge.Bridge.RelayTarget
import KeypadBridge.Client.Reporting
import KeypadBridge.Wizard.Progress
import KeypadBridge.Wizard.LinkProgress
import KeypadBridge.Bridge.KeypadPresses
import KeypadBridge.Firmware.KeyAgreement
import KeypadBridge.Firmware.PairedKeypad
