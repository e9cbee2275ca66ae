import KeyEnclave.Gate.Call
import KeyEnclave.Proofs.Action.Alike
import KeyEnclave.Proofs.Action.Ends
import KeyEnclave.Proofs.Cipher.DerSignature
import KeyEnclave.Proofs.Cipher.Sha256
import KeyEnclave.Proofs.Firmware.HeaderAccess
import KeyEnclave.Proofs.Gate.Coherence
import KeyEnclave.Proofs.Gate.Effect
import KeyEnclave.Proofs.Gate.Forwarding
import KeyEnclave.Proofs.Gate.Isolation
import KeyEnclave.Proofs.Gate.Lockdown
import KeyEnclave.Proofs.Gate.Memory
import KeyEnclave.Proofs.Handle.Layout
import KeyEnclave.Proofs.Handle.Validation
import KeyEnclave.Proofs.Kms.Admission
import KeyEnclave.Proofs.Kms.Atomicity
import KeyEnclave.Proofs.Kms.Contexts
import KeyEnclave.Proofs.Kms.Creating
import KeyEnclave.Proofs.Kms.Deriving
import KeyEnclave.Proofs.Kms.Digesting
import KeyEnclave.Proofs.Kms.Downtime
import KeyEnclave.Proofs.Kms.Effect
import KeyEnclave.Proofs.Kms.Enciphering
import KeyEnclave.Proofs.Kms.Frame
import KeyEnclave.Proofs.Kms.Hiding
import KeyEnclave.Proofs.Kms.Import
import KeyEnclave.Proofs.Kms.Independence
import KeyEnclave.Proofs.Kms.Interleaving
import KeyEnclave.Proofs.Kms.KeyPairs
import KeyEnclave.Proofs.Kms.LatchedResults
import KeyEnclave.Proofs.Kms.Latching
import KeyEnclave.Proofs.Kms.Lifecycle
import KeyEnclave.Proofs.Kms.NewObjects
import KeyEnclave.Proofs.Kms.Persistence
import KeyEnclave.Proofs.Kms.Probing
import KeyEnclave.Proofs.Kms.Provisioning
import KeyEnclave.Proofs.Kms.Reading
import KeyEnclave.Proofs.Kms.Rules
import KeyEnclave.Proofs.Kms.Run
import KeyEnclave.Proofs.Kms.SameBut
import KeyEnclave.Proofs.Kms.SameFor
import KeyEnclave.Proofs.Kms.SearchRouting
import KeyEnclave.Proofs.Kms.Searching
import KeyEnclave.Proofs.Kms.SecretValues
import KeyEnclave.Proofs.Kms.Serve
import KeyEnclave.Proofs.Kms.Sessions
import KeyEnclave.Proofs.Kms.Storage
import KeyEnclave.Proofs.Kms.Storing
import KeyEnclave.Proofs.Kms.TokenSessions
import KeyEnclave.Proofs.Object.Building
import KeyEnclave.Proofs.Object.Grammar
import KeyEnclave.Proofs.Object.Inverse
import KeyEnclave.Proofs.Object.Refusing
import KeyEnclave.Proofs.Object.Splitting
import KeyEnclave.Proofs.Provider.Contexts
import KeyEnclave.Proofs.Provider.Frame
import KeyEnclave.Proofs.Provider.Operations
import KeyEnclave.Proofs.Provider.Results
import KeyEnclave.Proofs.Provider.SameOn
import KeyEnclave.Proofs.Record.RoundTrip
import KeyEnclave.Proofs.Session.Table
import KeyEnclave.Proofs.Simulation.Storage
import KeyEnclave.Proofs.Store.AllOrNothing
import KeyEnclave.Proofs.Store.Install
import KeyEnclave.Proofs.Store.NewObjects
import KeyEnclave.Proofs.Store.Objects
import KeyEnclave.Proofs.Store.Reload
import KeyEnclave.Proofs.Store.Representation
import KeyEnclave.Proofs.Store.Rules
import KeyEnclave.Proofs.Store.SameBut
import KeyEnclave.Proofs.Store.SameShape
import KeyEnclave.Proofs.Store.Schedule
import KeyEnclave.Proofs.Store.SecretValues
import KeyEnclave.Proofs.Store.Sound
import KeyEnclave.Record.Codec
import KeyEnclave.Simulation.Flash
import KeyEnclave.Simulation.Machine
import KeyEnclave.Simulation.Storage
import KeyEnclave.Simulation.Token
