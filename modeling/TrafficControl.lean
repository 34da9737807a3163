import TrafficControl.Cache
import TrafficControl.Proofs.BatchDelivery
import TrafficControl.Proofs.CacheHistory
import TrafficControl.Proofs.Forest
import TrafficControl.Proofs.RequestRoundTrip
import TrafficControl.Text.Hex
import TrafficControl.Proofs.Settled
import TrafficControl.Proofs.RawOptions
import TrafficControl.Proofs.Reencoding
import TrafficControl.Proofs.BatchPickup
import TrafficControl.Proofs.Guarded.Attrs
import TrafficControl.Proofs.Guarded.Text
import TrafficControl.Proofs.Guarded.Options
import TrafficControl.Proofs.Guarded.Entries
import TrafficControl.Proofs.Guarded.Messages
import TrafficControl.Proofs.Guarded.Decoding
import TrafficControl.Proofs.Normalization
import TrafficControl.Proofs.TableReading
import TrafficControl.Proofs.MessageReading
import TrafficControl.Proofs.MessageDelivery
import TrafficControl.Proofs.BuilderRuns
import TrafficControl.Proofs.MessageFraming
import TrafficControl.Proofs.TableWriting
import TrafficControl.Proofs.RequestLimit
import TrafficControl.Proofs.ChainRuns
import TrafficControl.Proofs.KindLock
import TrafficControl.Proofs.PayloadReading
import TrafficControl.Proofs.RegisteredConfig
import TrafficControl.Proofs.StatsReading
import TrafficControl.Proofs.OptionReencoding
import TrafficControl.Proofs.AttrExhaustion
import TrafficControl.Proofs.NestRollback
import TrafficControl.Proofs.StatsDeltas
import TrafficControl.Proofs.BoundedText
import TrafficControl.Proofs.KindNames
import TrafficControl.Proofs.CodecErrors
