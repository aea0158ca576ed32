import FreeMqtt.Client.BackOff
import FreeMqtt.Client.Clock
import FreeMqtt.Client.ClosedConnection
import FreeMqtt.Client.PacketIds
import FreeMqtt.Client.Reconnect
import FreeMqtt.Client.Task
import FreeMqtt.Core.AckCallbacks
import FreeMqtt.Core.Answers
import FreeMqtt.Core.Api
import FreeMqtt.Core.Assertions
import FreeMqtt.Core.BufferBounds
import FreeMqtt.Core.Callback
import FreeMqtt.Core.CallbackCalls
import FreeMqtt.Core.ClientPackets
import FreeMqtt.Core.ClockShift
import FreeMqtt.Core.ClockTranslation
import FreeMqtt.Core.ClosedConnection
import FreeMqtt.Core.Completion
import FreeMqtt.Core.Connack
import FreeMqtt.Core.Connect
import FreeMqtt.Core.ConnectEffects
import FreeMqtt.Core.ConnectPacket
import FreeMqtt.Core.ConnectSpec
import FreeMqtt.Core.ConnectionStates
import FreeMqtt.Core.Downlink
import FreeMqtt.Core.DownlinkEffects
import FreeMqtt.Core.DownlinkRuns
import FreeMqtt.Core.Drain
import FreeMqtt.Core.ExactlyOnce
import FreeMqtt.Core.Exchange
import FreeMqtt.Core.Failures
import FreeMqtt.Core.Framing
import FreeMqtt.Core.Integrity
import FreeMqtt.Core.Iterations
import FreeMqtt.Core.KeepAlive
import FreeMqtt.Core.KeepAliveTimeout
import FreeMqtt.Core.LengthReader
import FreeMqtt.Core.LibrarySteps
import FreeMqtt.Core.MatchTopic
import FreeMqtt.Core.Operations
import FreeMqtt.Core.Outgoing
import FreeMqtt.Core.PartialWrites
import FreeMqtt.Core.PublishPaths
import FreeMqtt.Core.PublishTrace
import FreeMqtt.Core.Reachable
import FreeMqtt.Core.Receive
import FreeMqtt.Core.Receiver
import FreeMqtt.Core.RecordSteps
import FreeMqtt.Core.Replies
import FreeMqtt.Core.Requests
import FreeMqtt.Core.ResendLoop
import FreeMqtt.Core.Resumption
import FreeMqtt.Core.Send
import FreeMqtt.Core.SendIterations
import FreeMqtt.Core.SendSpec
import FreeMqtt.Core.SendSteps
import FreeMqtt.Core.SendTermination
import FreeMqtt.Core.ServerPackets
import FreeMqtt.Core.SilentServer
import FreeMqtt.Core.Steps
import FreeMqtt.Core.StoredCopies
import FreeMqtt.Core.StoredPacket
import FreeMqtt.Core.Stream
import FreeMqtt.Core.Suback
import FreeMqtt.Core.System
import FreeMqtt.Core.TopicBatches
import FreeMqtt.Core.TopicBounds
import FreeMqtt.Core.TopicLevels
import FreeMqtt.Core.TransmissionRuns
import FreeMqtt.Core.Transmissions
import FreeMqtt.Core.Uplink
import FreeMqtt.Core.UplinkCalls
import FreeMqtt.Core.UplinkEffects
import FreeMqtt.Core.UplinkRuns
import FreeMqtt.Lib.AnsweredLoop
import FreeMqtt.Lib.Audit
import FreeMqtt.Lib.Cyclic
import FreeMqtt.Lib.Delivery
import FreeMqtt.Lib.FourWay
import FreeMqtt.Lib.Framing
import FreeMqtt.Lib.Handover
import FreeMqtt.Lib.KeyedList
import FreeMqtt.Lib.LevelPattern
import FreeMqtt.Lib.Moments
import FreeMqtt.Lib.Ownership
import FreeMqtt.Lib.Reading
import FreeMqtt.Serializer.Connect
import FreeMqtt.Serializer.Decode
import FreeMqtt.Serializer.Encode
import FreeMqtt.Serializer.Length
import FreeMqtt.Serializer.LengthCodec
import FreeMqtt.Serializer.Publish
import FreeMqtt.Serializer.PublishBounds
import FreeMqtt.Serializer.PublishSizes
import FreeMqtt.Serializer.RoundTrip
import FreeMqtt.Serializer.Subscribe
import FreeMqtt.Serializer.SubscriptionSizes
import FreeMqtt.State.Answer
import FreeMqtt.State.AnyRecords
import FreeMqtt.State.Assertions
import FreeMqtt.State.Compaction
import FreeMqtt.State.Discipline
import FreeMqtt.State.Duplicate
import FreeMqtt.State.Engine
import FreeMqtt.State.Handshake
import FreeMqtt.State.Order
import FreeMqtt.State.OrderedLists
import FreeMqtt.State.Records
import FreeMqtt.State.Refinement
import FreeMqtt.State.Resend
import FreeMqtt.State.Tables
import FreeMqtt.Types
