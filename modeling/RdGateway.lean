import RdGateway.Wirekit.Outcome
import RdGateway.Wirekit.Codec
import RdGateway.Wirekit.Utf16
import RdGateway.Proto.Messages
import RdGateway.Proto.MessagesProperties
import RdGateway.Wirekit.Uuid
import RdGateway.Proto.Rpc
import RdGateway.Proto.Rpch
import RdGateway.Proto.RpchProperties
import RdGateway.Proto.Ntlm
import RdGateway.Proto.ParserSafety
import RdGateway.Core.Session
import RdGateway.Core.SessionProperties
import RdGateway.Proto.WebSocket
import RdGateway.Server.Relay
import RdGateway.Wirekit.Interleave
import RdGateway.Server.RelayProperties
import RdGateway.Wirekit.IpAddr
import RdGateway.Core.Acl
import RdGateway.Core.Auth
import RdGateway.Server.WebSocket
import RdGateway.Server.WebSocketProperties
import RdGateway.Server.AuthGate
import RdGateway.Server.Rpch
import RdGateway.Server.RpchPairing
import RdGateway.Server.RpchPairingProperties
import RdGateway.Proto.RpcProperties
import RdGateway.Server.RpchChunking
import RdGateway.Server.RpchChunkingProperties
import RdGateway.Server.RpchHolding
import RdGateway.Proto.NtlmProperties
import RdGateway.Proto.RpchConnection
import RdGateway.Core.Negotiate
import RdGateway.Core.NegotiateProperties
import RdGateway.Core.UserTable
import RdGateway.Server.PortalAuth
import RdGateway.Server.PortalAuthProperties
import RdGateway.Server.Portal
import RdGateway.Server.PortalProperties
import RdGateway.Server.AccountNames
import RdGateway.Server.RelayShutdown
import RdGateway.Server.RpchDialogue
import RdGateway.Core.AclGlob
import RdGateway.Core.AclDecisions
import RdGateway.Core.AclHosts
import RdGateway.Server.SessionCookies
import RdGateway.Server.RpchControlPdus
import RdGateway.Wirekit.JsonStrings
import RdGateway.Server.Certificate
import RdGateway.Server.CertificateProperties
import RdGateway.Proto.Framing
import RdGateway.Proto.AnnouncedFields
import RdGateway.Wirekit.Reader
import RdGateway.Proto.RpcBind
import RdGateway.Proto.RpcEncoding
import RdGateway.Server.RelayData
import RdGateway.Server.RelayEcho
import RdGateway.Server.TsgOpnums
import RdGateway.Proto.NtlmChallenge
import RdGateway.Server.BindResults
import RdGateway.Core.NegotiateReplay
import RdGateway.Server.Guacamole
import RdGateway.Core.ConnectionTable
import RdGateway.Wirekit.Lines
import RdGateway.Server.Connections
import RdGateway.Server.RdpDownload
import RdGateway.Core.AclTable
import RdGateway.Server.AclDialog
import RdGateway.Server.AclDialogRules
import RdGateway.Core.GatewayDatabase
import RdGateway.Core.GatewayDatabaseProperties
import RdGateway.Server.ChallengeLifetime
import RdGateway.Server.ConnectionApi
import RdGateway.Server.GuacamoleProxy
import RdGateway.Server.GuacamoleProxyProgress
import RdGateway.Server.RelayProgress
import RdGateway.Server.ControlAnswers
import RdGateway.Server.ServeConfig
import RdGateway.Server.ServedNames
import RdGateway.Server.TuiEffects
import RdGateway.Server.PortalSessions
import RdGateway.Server.SessionFrames
import RdGateway.Server.Tunnel
import RdGateway.Server.RpchConversations
