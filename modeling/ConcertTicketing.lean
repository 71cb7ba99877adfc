import ConcertTicketing.Queue.Admission
import ConcertTicketing.Queue.Fifo
import ConcertTicketing.Queue.BookingWindow
import ConcertTicketing.Queue.FailureIsolation
import ConcertTicketing.Queue.Gate
import ConcertTicketing.Accounts.Stores
import ConcertTicketing.Booking.OrderContent
import ConcertTicketing.Booking.ExpiryConfluence
import ConcertTicketing.Booking.Replay
import ConcertTicketing.Booking.CommittedHolds
import ConcertTicketing.Booking.EarlyExpiry
import ConcertTicketing.Booking.DoubleBooking
import ConcertTicketing.Booking.OrderLimit
import ConcertTicketing.Booking.SeatIdentity
import ConcertTicketing.Booking.MessageLoss
import ConcertTicketing.Booking.MissingTimer
import ConcertTicketing.Booking.HeldSetCleanup
import ConcertTicketing.Booking.StaleExpiry
import ConcertTicketing.Booking.SeatReorder
import ConcertTicketing.Booking.CleanupFailures
import ConcertTicketing.Accounts.Codes
import ConcertTicketing.Accounts.System
import ConcertTicketing.Accounts.OtpAttempts
import ConcertTicketing.Accounts.OtpFreshness
import ConcertTicketing.Accounts.EmailChange
import ConcertTicketing.Accounts.OtpBound
import ConcertTicketing.Accounts.Passwords
import ConcertTicketing.Accounts.CounterTtl
import ConcertTicketing.Booking.ActiveRows
import ConcertTicketing.Booking.NoTrace
import ConcertTicketing.Booking.OrderTotal
import ConcertTicketing.Booking.OneActiveRow
import ConcertTicketing.Library.Amqp
import ConcertTicketing.Messaging.Acknowledgement
import ConcertTicketing.Messaging.Reconnect
import ConcertTicketing.Events.Stores
import ConcertTicketing.Events.Services
import ConcertTicketing.Events.Effects
import ConcertTicketing.Events.References
import ConcertTicketing.Events.Isolation
import ConcertTicketing.Events.Frozen
import ConcertTicketing.Library.RelyGuarantee
import ConcertTicketing.Events.Layouts
import ConcertTicketing.Queue.Positions
import ConcertTicketing.Queue.WaitEstimate
import ConcertTicketing.Accounts.Enumeration
import ConcertTicketing.Events.PartialLayout
import ConcertTicketing.Events.SeatLabels
import ConcertTicketing.Events.SeatingOrder
import ConcertTicketing.Booking.ShownExpiry
import ConcertTicketing.Keys
import ConcertTicketing.Library.Paging
import ConcertTicketing.Listing.Services
import ConcertTicketing.Listing.Pages
import ConcertTicketing.Library.RealTime
import ConcertTicketing.Sessions.Service
import ConcertTicketing.Sessions.Logout
import ConcertTicketing.Sessions.Revocation
import ConcertTicketing.Access.System
import ConcertTicketing.Access.Registered
import ConcertTicketing.Access.Owners
import ConcertTicketing.Library.Machine
import ConcertTicketing.Library.WaitingLine
import ConcertTicketing.Queue.Rooms
import ConcertTicketing.Library.Callers
import ConcertTicketing.Events.Organizers
import ConcertTicketing.Events.Tenants
import ConcertTicketing.Events.AuditTrail
import ConcertTicketing.Library.DelayLine
import ConcertTicketing.Library.Exchange
import ConcertTicketing.Messaging.Timers
import ConcertTicketing.Messaging.Deliveries
import ConcertTicketing.Profiles.Services
import ConcertTicketing.Profiles.Owners
import ConcertTicketing.Profiles.Reviews
import ConcertTicketing.Profiles.OwnRows
import ConcertTicketing.SeatLock.Lapse
import ConcertTicketing.Booking.Lockout
import ConcertTicketing.Library.Reading
import ConcertTicketing.Listing.Reads
import ConcertTicketing.Listing.Shop
import ConcertTicketing.Listing.OwnPart
import ConcertTicketing.Listing.Isolation
import ConcertTicketing.Listing.Visitors
import ConcertTicketing.Listing.Agreement
import ConcertTicketing.Library.Descent
import ConcertTicketing.Booking.WorkLeft
import ConcertTicketing.Booking.Rest
import ConcertTicketing.Library.Refinement
import ConcertTicketing.Booking.Deployed
import ConcertTicketing.Booking.Deliverable
import ConcertTicketing.Booking.OldestFirst
import ConcertTicketing.Responses
