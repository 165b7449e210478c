import UpdateService.Lib.Lts
import UpdateService.Lib.KeyedList
import UpdateService.Lib.DurableFile
import UpdateService.Lib.BlockBuffer
import UpdateService.Lib.Codec
import UpdateService.Lib.JsonText
import UpdateService.Lib.StreamHash
import UpdateService.Lib.Separated
import UpdateService.Lib.Binary64
import UpdateService.Lib.Checked
import UpdateService.Lib.FirstMatch
import UpdateService.Lib.Loop
import UpdateService.Lib.CrashLogic
import UpdateService.DownloadCommon
import UpdateService.DownloadThread
import UpdateService.DownloadRequest
import UpdateService.DownloadInfoTable
import UpdateService.TableLog
import UpdateService.DownloadService
import UpdateService.ServiceRun
import UpdateService.ServiceSystem
import UpdateService.TaskProgress
import UpdateService.DownloadTask
import UpdateService.TaskRun
import UpdateService.DownloadTaskManager
import UpdateService.ManagerRun
import UpdateService.StartSystem
import UpdateService.StringUtils
import UpdateService.ThreadRun
import UpdateService.RunningService
import UpdateService.Sha256Utils
import UpdateService.CJson
import UpdateService.FirmwareStore
import UpdateService.FirmwareManager
import UpdateService.FirmwareCheck
import UpdateService.FirmwareDownload
import UpdateService.FirmwareInstall
import UpdateService.FirmwareSystem
import UpdateService.SysInstaller
import UpdateService.StreamInstaller
import UpdateService.StreamProgressThread
import UpdateService.FirmwareAutoUpgradeAlarmManager
import UpdateService.UpdateUserUnlockObserver
import UpdateService.FirmwareResultProcess
import UpdateService.SpaceCheck
import UpdateService.FirmwareRequests
import UpdateService.NetManager
import UpdateService.ProgressCheck
import UpdateService.CombineVersion
import UpdateService.CallbackEnter
import UpdateService.StatusCache
import UpdateService.FirmwareDevice
import UpdateService.FirmwareFlow
import UpdateService.FirmwareFlowManager
import UpdateService.FirmwareService
import UpdateService.FirmwareInvariant
import UpdateService.FirmwareRun
import UpdateService.Proofs.CrashResume
import UpdateService.Proofs.TableFrame
import UpdateService.Proofs.SuccessKept
import UpdateService.Proofs.RowAgree
import UpdateService.Proofs.SingleWriter
import UpdateService.Proofs.PauseStable
import UpdateService.Proofs.TerminalStatus
import UpdateService.Proofs.StartRace
import UpdateService.Proofs.CancelComplete
import UpdateService.Proofs.RestoreTable
import UpdateService.Proofs.RetryBound
import UpdateService.Proofs.ReportProtocol
import UpdateService.Proofs.ErrorAtomic
import UpdateService.Proofs.FirmwareCancel
import UpdateService.Proofs.PackageDownload
import UpdateService.Proofs.InstallAbsorbing
import UpdateService.Proofs.InstallReports
import UpdateService.Proofs.StreamCancel
import UpdateService.Proofs.StreamBlocks
import UpdateService.Proofs.RecordPoint
import UpdateService.Proofs.CheckResult
import UpdateService.Proofs.ChangelogAgree
import UpdateService.Proofs.IpcRoundTrip
import UpdateService.Proofs.EventJson
import UpdateService.Proofs.CallbackKept
import UpdateService.Proofs.WorkerProtocol
import UpdateService.Proofs.WakeUpPlan
import UpdateService.Proofs.NightAlarm
import UpdateService.Proofs.AutoUpgradeAlarm
import UpdateService.Proofs.TaskId
import UpdateService.Proofs.ProgressFilter
import UpdateService.Proofs.NumberText
import UpdateService.Proofs.HeaderLookup
import UpdateService.Proofs.ThreadSteps
import UpdateService.Proofs.ReportSizes
import UpdateService.Proofs.SizeCheck
import UpdateService.Proofs.Sha256Verify
import UpdateService.Proofs.UnlockOnce
import UpdateService.Proofs.ThreadTimes
import UpdateService.Proofs.ServiceTimes
import UpdateService.Proofs.TimeAccounting
import UpdateService.Proofs.RowRoundTrip
import UpdateService.Proofs.JsonInteger
import UpdateService.Proofs.UpdaterRecord
import UpdateService.Proofs.UpdaterVerdict
import UpdateService.Proofs.FindText
import UpdateService.Proofs.ContentLength
import UpdateService.Proofs.AlarmTimes
import UpdateService.Proofs.SpaceExact
import UpdateService.Proofs.SameVersion
import UpdateService.Proofs.OrderKept
import UpdateService.Proofs.PackagePath
import UpdateService.Proofs.Percentages
import UpdateService.Proofs.NetChange
import UpdateService.Proofs.VersionSplit
import UpdateService.Proofs.ReplaceAll
import UpdateService.Proofs.TablesAgree
import UpdateService.Proofs.SuccessReported
import UpdateService.Proofs.BellSetting
import UpdateService.Proofs.TornTables
import UpdateService.Proofs.BusyTask
import UpdateService.Proofs.VersionDigest
import UpdateService.Proofs.ProgramTables
import UpdateService.Proofs.RequestGate
import UpdateService.Proofs.AccessGate
