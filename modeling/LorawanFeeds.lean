import LorawanFeeds.Bridge.Queue
import LorawanFeeds.Bridge.Conversation
import LorawanFeeds.Bridge.UplinkIsolation
import LorawanFeeds.Bridge.Base64Decode
import LorawanFeeds.Bridge.DownlinkItems
import LorawanFeeds.Bridge.Robustness
import LorawanFeeds.QmiProxy.Ownership
import LorawanFeeds.QmiProxy.Cleanup
import LorawanFeeds.QmiProxy.Delivery
import LorawanFeeds.QmiProxy.Framing
import LorawanFeeds.MbimProxy.Routing
import LorawanFeeds.MbimProxy.Transparency
import LorawanFeeds.MbimProxy.Loop
import LorawanFeeds.AtChannel.Response
import LorawanFeeds.AtChannel.Readline
import LorawanFeeds.AtChannel.ReadBounds
import LorawanFeeds.AtChannel.RegistrationState
import LorawanFeeds.AtChannel.ProfileRequest
import LorawanFeeds.AtcProxy.Replies
import LorawanFeeds.QrtrProxy.Services
import LorawanFeeds.QrtrProxy.Ids
import LorawanFeeds.QmiClient.Confirmation
import LorawanFeeds.QmiClient.Orphans
import LorawanFeeds.QmiClient.Refinement
import LorawanFeeds.Cgi.TopicFile
import LorawanFeeds.Cgi.BastOutcome
import LorawanFeeds.Cgi.TomlAtomicity
import LorawanFeeds.Cgi.TomlAnswer
import LorawanFeeds.Cgi.CertificatePaths
import LorawanFeeds.Cgi.LteSignal
import LorawanFeeds.Cgi.Answers
import LorawanFeeds.Cgi.TopicRequest
import LorawanFeeds.Bridge.DownlinkEcho
import LorawanFeeds.Cgi.ServerAddress
import LorawanFeeds.Cgi.StationSettings
import LorawanFeeds.Cgi.StationCredentials
import LorawanFeeds.Cgi.Responses
import LorawanFeeds.Cgi.ModeFile
import LorawanFeeds.MbimClient.Pairing
import LorawanFeeds.MbimClient.Transactions
import LorawanFeeds.MbimClient.ReadThread
import LorawanFeeds.IpConfig.Agreement
import LorawanFeeds.IpConfig.ResolvConf
import LorawanFeeds.QmiClient.Compose
import LorawanFeeds.QmiClient.ProfileSync
import LorawanFeeds.QmiClient.Registration
import LorawanFeeds.QmiClient.QmapMode
import LorawanFeeds.MbimClient.Connect
import LorawanFeeds.AtChannel.DataCall
import LorawanFeeds.QrtrProxy.Answers
import LorawanFeeds.QmiClient.ClientIds
import LorawanFeeds.Cgi.DocumentStore
import LorawanFeeds.MbimClient.Changes
import LorawanFeeds.MbimProxy.SharedModem
import LorawanFeeds.QmiProxy.ServiceCalls
