import BuludTechVPN.Runs
import BuludTechVPN.LongestPrefix
import BuludTechVPN.RouteSweep
import BuludTechVPN.DeviceState
import BuludTechVPN.HoldRelease
import BuludTechVPN.Lines
import BuludTechVPN.ManagementInput
import BuludTechVPN.RouteList
import BuludTechVPN.TunConfig
import BuludTechVPN.ImportSafety
import BuludTechVPN.ConfigFile
import BuludTechVPN.PieceReading
import BuludTechVPN.TunCycles
import BuludTechVPN.ImportChecks
import BuludTechVPN.AllowedApps
import BuludTechVPN.LogQueue
import BuludTechVPN.Sessions
import BuludTechVPN.ServerPages
import BuludTechVPN.Favourites
import BuludTechVPN.PageData
import BuludTechVPN.ServerBackup
import BuludTechVPN.TunFingerprint
import BuludTechVPN.ConnectionBlocks
import BuludTechVPN.ConvertedConnections
import BuludTechVPN.ConvertedFields
import BuludTechVPN.ConvertedProfile
import BuludTechVPN.AddressText
import BuludTechVPN.ComparatorLaws
import BuludTechVPN.DisconnectTimer
import BuludTechVPN.EscapedArguments
import BuludTechVPN.InlineFiles
import BuludTechVPN.RouteFallback
import BuludTechVPN.ScreenPause
import BuludTechVPN.HandedRoutes
import BuludTechVPN.ProfileManager
import BuludTechVPN.RoutesSurvive
import BuludTechVPN.CommandOptions
import BuludTechVPN.NetmaskBits
import BuludTechVPN.PauseReasons
import BuludTechVPN.ProfileCheck
import BuludTechVPN.IdleWindow
import BuludTechVPN.TrafficHistory
import BuludTechVPN.LogBuffer
import BuludTechVPN.ByteBuffer
import BuludTechVPN.LogItem
import BuludTechVPN.CutLog
import BuludTechVPN.LogResync
import BuludTechVPN.ActiveThreads
import BuludTechVPN.ByteCountListeners
import BuludTechVPN.ExcludedRoutes
import BuludTechVPN.Patterns
import BuludTechVPN.ProcessLog
import BuludTechVPN.ServerNumbers
import BuludTechVPN.DamagedRecord
import BuludTechVPN.KeptOptions
import BuludTechVPN.ServerList
import BuludTechVPN.CheckFields
import BuludTechVPN.ServerChecks
import BuludTechVPN.ServersSurvive
import BuludTechVPN.LogPipe
import BuludTechVPN.Mirrors
import BuludTechVPN.VpnStatus
import BuludTechVPN.StatusService
import BuludTechVPN.StatusChannels
import BuludTechVPN.StatusAgreement
import BuludTechVPN.PasswordCache
import BuludTechVPN.ManagementCommands
import BuludTechVPN.ManagementAnswers
import BuludTechVPN.ManagementCycles
import BuludTechVPN.Base64
import BuludTechVPN.PemObjects
import BuludTechVPN.AppPicker
import BuludTechVPN.Stopping
import BuludTechVPN.Lookbehind
import BuludTechVPN.LzoDecompress
import BuludTechVPN.LzoTrailing
import BuludTechVPN.LzoCompress
import BuludTechVPN.LzoTokens
import BuludTechVPN.LzoRoundTrip
