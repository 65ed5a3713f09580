import BackupCenter.Lib.Accumulate
import BackupCenter.Lib.Budget
import BackupCenter.Lib.Counters
import BackupCenter.Lib.Exec
import BackupCenter.Lib.Guarded
import BackupCenter.Lib.Guests
import BackupCenter.Lib.Interleaving
import BackupCenter.Lib.Patch
import BackupCenter.Lib.Patterns
import BackupCenter.Lib.Shell
import BackupCenter.Lib.Shell.Quotation
import BackupCenter.Lib.Shell.Words
import BackupCenter.Lib.Store
import BackupCenter.Lib.Table
import BackupCenter.Lib.Text
import BackupCenter.Lib.Windows
import BackupCenter.Lib.Workers
import BackupCenter.Auth.Backends
import BackupCenter.Auth.Guessing
import BackupCenter.Auth.Sessions
import BackupCenter.Auth.PasswordReset
import BackupCenter.Tasks.SnapshotHonesty
import BackupCenter.Bulk.ChildrenKept
import BackupCenter.Bulk.GroupAccount
import BackupCenter.Bulk.Grouping
import BackupCenter.Bulk.PhasedRun
import BackupCenter.Bulk.TallyAgreement
import BackupCenter.Logs.Polling
import BackupCenter.Logs.Pruning
import BackupCenter.Logs.WholeScan
import BackupCenter.Realtime.CancelRuns
import BackupCenter.Realtime.Enqueueing
import BackupCenter.Realtime.FollowupRuns
import BackupCenter.Realtime.GlobalStop
import BackupCenter.Realtime.TenantLock
import BackupCenter.Scheduling.Overlap
import BackupCenter.Scheduling.NextRunAt
import BackupCenter.Scheduling.Staggered
import BackupCenter.Bulk.JumpPreflight
import BackupCenter.Tenants.Isolation
import BackupCenter.Tenants.Placement
import BackupCenter.Tenants.Roles
import BackupCenter.Tenants.SubgroupEffects
import BackupCenter.Billing.Access
import BackupCenter.Billing.Capacity
import BackupCenter.Billing.Enforcement
import BackupCenter.Billing.Granted
import BackupCenter.Billing.Monotone
import BackupCenter.Diffs.Compare
import BackupCenter.Superadmin.LastAdmin
import BackupCenter.Superadmin.Lifecycle
import BackupCenter.Quota.Downloads
import BackupCenter.Executor.OwnFiles
import BackupCenter.Executor.Storage
import BackupCenter.JumpHost.Semaphore
import BackupCenter.Scripts.Released
import BackupCenter.Seats.Limits
import BackupCenter.Extras.LostUpdates
import BackupCenter.Retention.Together
import BackupCenter.Mikrotik.Removals
import BackupCenter.Bastion.Literal
import BackupCenter.JumpHost.JumpDevices
import BackupCenter.JumpHost.Identity
import BackupCenter.JumpHost.NewBatch
import BackupCenter.Olt.CliScripts
import BackupCenter.Olt.HuaweiOlt
import BackupCenter.Olt.Collect
import BackupCenter.Vpn.Exclusive
import BackupCenter.Zabbix.PasswordHidden
import BackupCenter.Olt.Uploads
import BackupCenter.Billing.PlatformSettings
import BackupCenter.Metrics.Export
import BackupCenter.JumpHost.Whitelist
import BackupCenter.Realtime.StopAll
import BackupCenter.Vpn.Secrets
import BackupCenter.Groups.OneActive
import BackupCenter.Scripts.Pagers
import BackupCenter.Tasks.DeviceRuns
import BackupCenter.External.TokenRuns
import BackupCenter.Superadmin.Purge
import BackupCenter.External.Listing
import BackupCenter.Scheduling.OnTime
