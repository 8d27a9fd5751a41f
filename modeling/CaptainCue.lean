import CaptainCue.Library.Table
import CaptainCue.Library.Machine
import CaptainCue.Library.Outbox
import CaptainCue.Model.JSON
import CaptainCue.Model.Objects
import CaptainCue.Model.Decoding
import CaptainCue.Model.OfflineStorageModel
import CaptainCue.Service.RealmDataService
import CaptainCue.Service.FirebaseDataService
import CaptainCue.Manager.DataServiceManager
import CaptainCue.Manager.Lemmas
import CaptainCue.Manager.Sync
import CaptainCue.Manager.Operations
import CaptainCue.Manager.Answers
import CaptainCue.Manager.Convergence
import CaptainCue.Manager.Representation
import CaptainCue.Manager.Resends
import CaptainCue.Manager.Interruption
import CaptainCue.Restore.Session
import CaptainCue.Manager.Deletes
import CaptainCue.Restore.Added
import CaptainCue.Backup.Backup
import CaptainCue.Backup.Content
import CaptainCue.Backup.Accounting
import CaptainCue.Backup.Fetches
import CaptainCue.Backup.Progress
import CaptainCue.Backup.Failures
import CaptainCue.Backup.Outcome
import CaptainCue.Backup.FirstError
import CaptainCue.Library.Sorting
import CaptainCue.Report.ReportDetailsViewController
import CaptainCue.Restore.RoundTrip
import CaptainCue.Library.Blocks
import CaptainCue.Library.Sections
import CaptainCue.Manager.Cascade
import CaptainCue.Report.Statistics
import CaptainCue.Report.DayView
import CaptainCue.Report.ReportManagerViewController
import CaptainCue.Restore.RestoredReports
import CaptainCue.Shot.CreateNewShotViewController
import CaptainCue.Shot.Editing
import CaptainCue.Shot.Cells
import CaptainCue.Report.Titles
import CaptainCue.Shot.ShotDetailsViewController
import CaptainCue.Shot.ShotRecords
import CaptainCue.Library.Returns
import CaptainCue.Accessor.Process
import CaptainCue.Accessor.Refinement
import CaptainCue.Accessor.Operations
import CaptainCue.Accessor.Safety
import CaptainCue.Restore.Written
import CaptainCue.Restore.Handover
import CaptainCue.Manager.Draining
import CaptainCue.Library.Lag
import CaptainCue.Manager.Staleness
import CaptainCue.Manager.Changes
import CaptainCue.Manager.Network
import CaptainCue.Screens.Navigation
import CaptainCue.Screens.Safety
import CaptainCue.Screens.Changes
import CaptainCue.Screens.Integrity
import CaptainCue.Screens.Alerts
import CaptainCue.Screens.Freshness
import CaptainCue.Backup.Overlay
import CaptainCue.Manager.SharedCloud
import CaptainCue.Manager.Devices
import CaptainCue.Backup.Session
