import FrameStream.Lifecycle.Interruption
import FrameStream.Pacing.LimiterPool
import FrameStream.Proofs.Cadence
import FrameStream.Proofs.Completion
import FrameStream.Proofs.Conduct
import FrameStream.Proofs.Joining
import FrameStream.Proofs.MarkerCodec
import FrameStream.Proofs.MemoryPair
import FrameStream.Proofs.Payloads
import FrameStream.Proofs.Pieces
import FrameStream.Proofs.Reading
import FrameStream.Proofs.Recovery
import FrameStream.Proofs.RoundTrip
import FrameStream.Proofs.Separation
import FrameStream.Proofs.Synchrony
import FrameStream.Proofs.Transit
import FrameStream.Proofs.WireImage
import FrameStream.Proofs.Writes
import FrameStream.Session.Connection
import FrameStream.Settings
import FrameStream.Proofs.Attempts
import FrameStream.Proofs.Numbering
import FrameStream.Proofs.Assembly
import FrameStream.Proofs.ByteStream
import FrameStream.Proofs.Carriage
import FrameStream.Proofs.Chunks
import FrameStream.Proofs.Interleaving
import FrameStream.Proofs.Interruption
import FrameStream.Proofs.Provenance
import FrameStream.Proofs.Tasks
import FrameStream.Proofs.RuleChanges
import FrameStream.Proofs.Ownership
import FrameStream.Proofs.Remnants
import FrameStream.Proofs.RuleAgreement
import FrameStream.Proofs.Resumption
import FrameStream.Proofs.Retention
import FrameStream.Proofs.Hunting
import FrameStream.Proofs.Allowance
import FrameStream.Proofs.Pacing
import FrameStream.Proofs.Likeness
import FrameStream.Proofs.Deeds
import FrameStream.Proofs.Activation
import FrameStream.Proofs.Detours
import FrameStream.Proofs.Makeup
import FrameStream.Proofs.Renewal
import FrameStream.Proofs.Realignment
import FrameStream.Proofs.ActivationWait
import FrameStream.Proofs.Recutting
import FrameStream.Proofs.Transparency
import FrameStream.Proofs.Faults
import FrameStream.Proofs.InputOperations
import FrameStream.Proofs.GuardedWrites
import FrameStream.Proofs.GuardedReads
import FrameStream.Proofs.FaultFreedom
import FrameStream.Proofs.Advance
import FrameStream.Proofs.Alignment
import FrameStream.Proofs.Acquisition
import FrameStream.Proofs.IndexGaps
import FrameStream.Proofs.EmptyDatagrams
import FrameStream.Proofs.Handover
import FrameStream.Proofs.Timekeeping
import FrameStream.Proofs.Grants
import FrameStream.Proofs.Throttling
import FrameStream.Proofs.Refusals
import FrameStream.Proofs.CallHistory
import FrameStream.Proofs.Isolation
import FrameStream.Proofs.StaleRules
import FrameStream.Proofs.Construction
import FrameStream.Proofs.MarkerHeaders
import FrameStream.Proofs.ChannelCalls
import FrameStream.Proofs.ClosedChannel
