import SecureStream.Client
import SecureStream.Peer.Authority
import SecureStream.Peer.Loopback
import SecureStream.Peer.Network.Patience
import SecureStream.Peer.Outcomes
import SecureStream.Proofs.Emission
import SecureStream.Proofs.Phase
import SecureStream.Proofs.Preparation
import SecureStream.Proofs.Opening
import SecureStream.Proofs.Conversation
import SecureStream.Proofs.Lifecycle
import SecureStream.Proofs.Verdicts
import SecureStream.Proofs.Soundness
import SecureStream.Proofs.Response
import SecureStream.Proofs.Reception
import SecureStream.Proofs.Delivery
import SecureStream.Proofs.Halting
import SecureStream.Proofs.Comparison
import SecureStream.Proofs.Replay
import SecureStream.Proofs.Turns
import SecureStream.Proofs.Simulation
import SecureStream.Proofs.Interruption
import SecureStream.Proofs.Accounting
import SecureStream.Proofs.Isolation
import SecureStream.Proofs.Forwarding
import SecureStream.Proofs.Stages
import SecureStream.Proofs.Precedence
import SecureStream.Proofs.Restoration
import SecureStream.Proofs.Rulings
import SecureStream.Proofs.Warnings
import SecureStream.Proofs.Binding
import SecureStream.Proofs.Override
import SecureStream.Proofs.Pieces
import SecureStream.Proofs.Trials
import SecureStream.Proofs.Legibility
import SecureStream.Proofs.Conformity
import SecureStream.Proofs.Anchors
import SecureStream.Proofs.Destination
import SecureStream.Proofs.Spelling
import SecureStream.Proofs.AltNames
import SecureStream.Proofs.Decision
