import FingerprintHal.Lib.Machine
import FingerprintHal.Lib.BoundedQueue
import FingerprintHal.Lib.Chunks
import FingerprintHal.Lib.History
import FingerprintHal.Lib.Bytes
import FingerprintHal.Lib.Decimal
import FingerprintHal.Lib.Borrow
import FingerprintHal.Lib.Commute
import FingerprintHal.Lib.Writes
import FingerprintHal.Model.Message
import FingerprintHal.Model.LockoutTracker
import FingerprintHal.Model.Engine
import FingerprintHal.Model.Service
import FingerprintHal.Lockout.Control
import FingerprintHal.Lockout.Permanent
import FingerprintHal.Lockout.Unlock
import FingerprintHal.Lockout.Timer
import FingerprintHal.Lockout.View
import FingerprintHal.Lockout.Tracker
import FingerprintHal.Lockout.Count
import FingerprintHal.Lockout.TimeLeft
import FingerprintHal.Lockout.Token
import FingerprintHal.Lockout.Thread
import FingerprintHal.Lockout.Rate
import FingerprintHal.Light.Illumination
import FingerprintHal.Light.Finger
import FingerprintHal.Session.Callbacks
import FingerprintHal.Session.Steps
import FingerprintHal.Session.Isolation
import FingerprintHal.Session.Closed
import FingerprintHal.Session.Answers
import FingerprintHal.Session.Enumeration
import FingerprintHal.Session.Queue
import FingerprintHal.Session.Removal
import FingerprintHal.Session.Served
import FingerprintHal.Session.Operations
import FingerprintHal.Session.Cancel
import FingerprintHal.Session.Payload
import FingerprintHal.Session.Codes
import FingerprintHal.Session.Lifetime
import FingerprintHal.Session.Recipients
import FingerprintHal.Session.Interleaving
import FingerprintHal.Session.Creation
import FingerprintHal.Session.Order
import FingerprintHal.Session.Turns
import FingerprintHal.Session.Relay
import FingerprintHal.Token.Translation
import FingerprintHal.Token.Enroll
import FingerprintHal.Location.SensorLocation
import FingerprintHal.Boot.Alike
import FingerprintHal.Boot.Determinism
import FingerprintHal.Boot.Device
import FingerprintHal.Init.Properties
