import ZprCore.Datapath.BatchIo
import ZprCore.Proofs.AuthAgreement
import ZprCore.Proofs.BindAnswers
import ZprCore.Proofs.BindErrors
import ZprCore.Proofs.Buffers
import ZprCore.Proofs.Challenge
import ZprCore.Proofs.ClassifierTotal
import ZprCore.Proofs.Coherence
import ZprCore.Proofs.Conformance
import ZprCore.Proofs.Conservation
import ZprCore.Proofs.EgressZpi
import ZprCore.Proofs.Endpoints
import ZprCore.Proofs.Expiry
import ZprCore.Proofs.Futures
import ZprCore.Proofs.HandlesTotal
import ZprCore.Proofs.IngressTotal
import ZprCore.Proofs.LinkTimers
import ZprCore.Proofs.Lookup
import ZprCore.Proofs.MgmtAck
import ZprCore.Proofs.MgmtOrigin
import ZprCore.Proofs.NextHops
import ZprCore.Proofs.Offer
import ZprCore.Proofs.Provenance
import ZprCore.Proofs.ReceiverWindow
import ZprCore.Proofs.Reservations
import ZprCore.Proofs.Resetting
import ZprCore.Proofs.Restart
import ZprCore.Proofs.RetryLimits
import ZprCore.Proofs.SenderAccount
import ZprCore.Proofs.SentQueue
import ZprCore.Proofs.Tethers
import ZprCore.Proofs.WindowSlots
import ZprCore.Proofs.ZdprBlame
