import CheckinService.Laws.AdminReads
import CheckinService.Laws.AdminScope
import CheckinService.Laws.Admission
import CheckinService.Laws.AdmissionTrail
import CheckinService.Laws.Attendance
import CheckinService.Laws.AttendanceRace
import CheckinService.Laws.Bearers
import CheckinService.Laws.CancelRace
import CheckinService.Laws.Capacity
import CheckinService.Laws.CapacityRace
import CheckinService.Laws.CheckinEffect
import CheckinService.Laws.CheckinRace
import CheckinService.Laws.CheckinSteps
import CheckinService.Laws.Checkins
import CheckinService.Laws.CleanUpdates
import CheckinService.Laws.CohortIds
import CheckinService.Laws.Cohorts
import CheckinService.Laws.ColumnWidths
import CheckinService.Laws.Confinement
import CheckinService.Laws.Consent
import CheckinService.Laws.DiscoverPages
import CheckinService.Laws.Discovery
import CheckinService.Laws.EligibleGroups
import CheckinService.Laws.EmptyKeys
import CheckinService.Laws.Entities
import CheckinService.Laws.EventColumns
import CheckinService.Laws.EventDesk
import CheckinService.Laws.EventRace
import CheckinService.Laws.EventSteps
import CheckinService.Laws.Events
import CheckinService.Laws.Factors
import CheckinService.Laws.InvitationBatch
import CheckinService.Laws.InvitationRace
import CheckinService.Laws.InvitationSteps
import CheckinService.Laws.Invitations
import CheckinService.Laws.Lifecycle
import CheckinService.Laws.Management
import CheckinService.Laws.Operations
import CheckinService.Laws.QrTokens
import CheckinService.Laws.RateLimit
import CheckinService.Laws.RegistrationRace
import CheckinService.Laws.RegistrationSteps
import CheckinService.Laws.Registrations
import CheckinService.Laws.Replays
import CheckinService.Laws.Responses
import CheckinService.Laws.Retention
import CheckinService.Laws.Retries
import CheckinService.Laws.Sanitizing
import CheckinService.Laws.Tenancy
import CheckinService.Laws.TokenAccounts
import CheckinService.Laws.TokenErrors
import CheckinService.Laws.TokenLedger
import CheckinService.Laws.TokenRace
import CheckinService.Laws.Velocity
import CheckinService.Laws.Visibility
import CheckinService.Laws.Waitlist
import CheckinService.Laws.WaitlistOrder
import CheckinService.Laws.Whereabouts
import CheckinService.Lib.Noninterference
