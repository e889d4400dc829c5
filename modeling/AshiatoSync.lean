import AshiatoSync.Lib.Monadic
import AshiatoSync.Lib.Tally
import AshiatoSync.Lib.FreeList
import AshiatoSync.Lib.EventLog
import AshiatoSync.Lib.Ring
import AshiatoSync.Lib.BitCodec
import AshiatoSync.Lib.Shares
import AshiatoSync.Lib.Rows
import AshiatoSync.Lib.Indexed
import AshiatoSync.Lib.Window
import AshiatoSync.Lib.SetBits
import AshiatoSync.Types
import AshiatoSync.Registration
import AshiatoSync.Protocol
import AshiatoSync.Serialization
import AshiatoSync.SerializationSound
import AshiatoSync.QuantizedFrame
import AshiatoSync.Replicator
import AshiatoSync.PacketAck
import AshiatoSync.UpdateWriter
import AshiatoSync.ServerState
import AshiatoSync.UpdateScheduler
import AshiatoSync.Server
import AshiatoSync.ServerClients
import AshiatoSync.ReplayWriter
import AshiatoSync.Moves
import AshiatoSync.FramesSound
import AshiatoSync.PacketAckSound
import AshiatoSync.RefCountSound
import AshiatoSync.RefMovesSound
import AshiatoSync.StateMovesSound
import AshiatoSync.QueueSound
import AshiatoSync.BaseSound
import AshiatoSync.HeldSound
import AshiatoSync.ServerSound
import AshiatoSync.IdsSound
import AshiatoSync.LocalRuns
import AshiatoSync.SlotRuns
import AshiatoSync.WriterRuns
import AshiatoSync.SendRuns
import AshiatoSync.Runs
import AshiatoSync.ExhaustSound
import AshiatoSync.BaselineSound
import AshiatoSync.DirtySound
import AshiatoSync.DestroySound
import AshiatoSync.CueSound
import AshiatoSync.TrackerSound
import AshiatoSync.InFlightSound
import AshiatoSync.PacketizeSound
import AshiatoSync.SettleSound
import AshiatoSync.IndexSound
import AshiatoSync.TablesSound
import AshiatoSync.DetectSound
import AshiatoSync.FreshSound
import AshiatoSync.BandwidthShare
import AshiatoSync.ShareSound
import AshiatoSync.InputBuffer
import AshiatoSync.InputSound
import AshiatoSync.InputRuns
import AshiatoSync.ClientPackets
import AshiatoSync.ClientPacketsSound
import AshiatoSync.AckSound
import AshiatoSync.SelectSound
import AshiatoSync.ReplayStreamer
import AshiatoSync.ReplaySessionSound
import AshiatoSync.DiscoverySound
import AshiatoSync.TimingStats
import AshiatoSync.TimingSound
import AshiatoSync.ClientState
import AshiatoSync.TombstoneSound
import AshiatoSync.ClientApply
import AshiatoSync.ReplayWorld
import AshiatoSync.ReplayStartSound
import AshiatoSync.FrameRingStore
import AshiatoSync.FrameRingSound
import AshiatoSync.ClientCues
import AshiatoSync.UpdateReader
import AshiatoSync.ClientUpdate
import AshiatoSync.ClientRuntime
import AshiatoSync.ClientView
import AshiatoSync.ViewSound
import AshiatoSync.UpdatePackets
import AshiatoSync.ReplayFrames
import AshiatoSync.ReplayFateSound
import AshiatoSync.ReaderSound
import AshiatoSync.ClientMoves
import AshiatoSync.ModeMoves
import AshiatoSync.ClientIds
import AshiatoSync.StoreSound
import AshiatoSync.ClientRuns
import AshiatoSync.ClientSample
import AshiatoSync.ShownSound
import AshiatoSync.RetainSound
import AshiatoSync.WrittenSound
import AshiatoSync.AgreeSound
import AshiatoSync.MaskSound
import AshiatoSync.AvailableSound
import AshiatoSync.RejectSound
import AshiatoSync.CodecSound
import AshiatoSync.ReplayCueSound
import AshiatoSync.ReplayRecordSound
import AshiatoSync.ReplayMirrorSound
import AshiatoSync.ReplayRunSound
import AshiatoSync.ReplayRoundTrip
import AshiatoSync.ReplayPlayback
