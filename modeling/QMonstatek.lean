import QMonstatek.Lib.Run
import QMonstatek.Protocol.Dialect
import QMonstatek.Protocol.Sound
import QMonstatek.Protocol.Polynomial
import QMonstatek.Protocol.Resync
import QMonstatek.Protocol.Truncated
import QMonstatek.Protocol.Oversize
import QMonstatek.Device.Exclusive
import QMonstatek.Device.Stream
import QMonstatek.Device.Queue
import QMonstatek.Device.Keepalive
import QMonstatek.Device.Isolation
import QMonstatek.Device.Exchange
import QMonstatek.Device.Download
import QMonstatek.Device.OneLink
import QMonstatek.Device.LateReplies
import QMonstatek.Device.FileCommands
import QMonstatek.Device.FolderUpload
import QMonstatek.Device.UploadSize
import QMonstatek.Device.FileList
import QMonstatek.Device.ListingReads
import QMonstatek.Device.FwInfo
import QMonstatek.Device.InfoSession
import QMonstatek.Device.LogLines
import QMonstatek.Device.ScreenWanted
import QMonstatek.Device.HealthCheck
import QMonstatek.Device.Wired
import QMonstatek.Device.Ledger
import QMonstatek.Transport.ScreenOrder
import QMonstatek.Transport.ControlFrames
import QMonstatek.Transport.Reconnect
import QMonstatek.Transport.PortScan
import QMonstatek.Transport.Renumbered
import QMonstatek.Transport.Reresolve
import QMonstatek.Transport.MdnsPacket
import QMonstatek.Transport.DnsName
import QMonstatek.Transport.MdnsService
import QMonstatek.Updater.Download
import QMonstatek.Updater.OneProcess
import QMonstatek.Updater.Cancel
import QMonstatek.Updater.HelperOutput
import QMonstatek.Updater.BackEnds
import QMonstatek.Updater.FlashEnd
import QMonstatek.Updater.SwdShown
import QMonstatek.Updater.UpdateCheck
import QMonstatek.FileManager.BulkDelete
import QMonstatek.FileManager.Paste
import QMonstatek.FileManager.FailedBatch
import QMonstatek.Views.CaptureFile
import QMonstatek.Views.MonoDisplay
import QMonstatek.Views.StageOrder
import QMonstatek.Views.RestorePair
