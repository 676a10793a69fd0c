import JustAnotherVoiceChat.Library.Program
import JustAnotherVoiceChat.Library.Interference
import JustAnotherVoiceChat.Library.Codec
import JustAnotherVoiceChat.Library.Section
import JustAnotherVoiceChat.Library.Replay
import JustAnotherVoiceChat.Library.SortedSet
import JustAnotherVoiceChat.Library.Ending
import JustAnotherVoiceChat.Library.Ledger
import JustAnotherVoiceChat.Library.Trace
import JustAnotherVoiceChat.Protocol
import JustAnotherVoiceChat.PacketFormat
import JustAnotherVoiceChat.Plugin
import JustAnotherVoiceChat.HttpServer
import JustAnotherVoiceChat.ConnectionMutex
import JustAnotherVoiceChat.Quiet
import JustAnotherVoiceChat.MuteCache
import JustAnotherVoiceChat.ProtocolPhases
import JustAnotherVoiceChat.Senders
import JustAnotherVoiceChat.Disconnecting
import JustAnotherVoiceChat.Nickname
import JustAnotherVoiceChat.OutputMute
import JustAnotherVoiceChat.SavedChannel
import JustAnotherVoiceChat.Ingame
import JustAnotherVoiceChat.Lifetime
import JustAnotherVoiceChat.Positions
import JustAnotherVoiceChat.UpdateThread
import JustAnotherVoiceChat.Talking
import JustAnotherVoiceChat.MuteReports
import JustAnotherVoiceChat.PlainUpdate
import JustAnotherVoiceChat.MoveEvents
import JustAnotherVoiceChat.QueryNumbers
import JustAnotherVoiceChat.SubscriptionWait
import JustAnotherVoiceChat.IdArray
import JustAnotherVoiceChat.ServerLookup
import JustAnotherVoiceChat.Buffers
import JustAnotherVoiceChat.Restoring
import JustAnotherVoiceChat.ChannelMuting
import JustAnotherVoiceChat.Library.Terms
import JustAnotherVoiceChat.System
import JustAnotherVoiceChat.Provenance
import JustAnotherVoiceChat.Warrants
import JustAnotherVoiceChat.Library.Dialogue
import JustAnotherVoiceChat.Conversation
import JustAnotherVoiceChat.Scene
import JustAnotherVoiceChat.Waiting
import JustAnotherVoiceChat.Serving
import JustAnotherVoiceChat.Library.Tariff
import JustAnotherVoiceChat.Workload
import JustAnotherVoiceChat.Library.Linking
import JustAnotherVoiceChat.Answers
import JustAnotherVoiceChat.Library.Product
import JustAnotherVoiceChat.Handles
