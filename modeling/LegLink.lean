import LegLink.Hardware.Log
import LegLink.Line.Loopback
import LegLink.Line.Replies
import LegLink.Line.Script
import LegLink.Main
import LegLink.Text.Quoted
import LegLink.Proofs.Streaming
import LegLink.Proofs.GateSafety
import LegLink.Proofs.LosslessSession
import LegLink.Proofs.Lossy.Reading
import LegLink.Proofs.Lossy.Reflection
import LegLink.Proofs.ErrorDetection
import LegLink.Proofs.Feeding
import LegLink.Proofs.Exactness
import LegLink.Proofs.Resync
import LegLink.Proofs.Resuming
import LegLink.Proofs.Answering
import LegLink.Proofs.LostReply
import LegLink.Proofs.Room
import LegLink.Proofs.Retrying
import LegLink.Proofs.Requests
import LegLink.Proofs.Replies
import LegLink.Proofs.Refusals
import LegLink.Proofs.CalibrationList
import LegLink.Proofs.RelayLevel
import LegLink.Proofs.LoopbackOrder
import LegLink.Proofs.Polling
import LegLink.Proofs.ReadTimeout
import LegLink.Proofs.Encoding
import LegLink.Proofs.ScalarRoundTrip
import LegLink.Proofs.ServoHistory
import LegLink.Proofs.ChannelGrammar
import LegLink.Proofs.EventHistories
import LegLink.Proofs.Overriding
