import ProverInput.Failure.Caught
import ProverInput.Main
import ProverInput.Proofs.Json.RoundTrip
import ProverInput.Proofs.Text.BigEndian
import ProverInput.Proofs.Outcome
import ProverInput.Proofs.Text.Digits
import ProverInput.Proofs.Field.Natural
import ProverInput.Proofs.Field.Guess
import ProverInput.Proofs.ChainData.Document
import ProverInput.Proofs.ChainData.Untagged
import ProverInput.Proofs.ProgramArgs
import ProverInput.Proofs.ChainState.Advance
import ProverInput.Proofs.Header.Check
import ProverInput.Proofs.ChainState.Checkpoint
import ProverInput.Proofs.Bootstrap.Linked
import ProverInput.Proofs.Bootstrap.Walk
import ProverInput.Proofs.Bootstrap.Advance
import ProverInput.Proofs.Bootstrap.Resume
import ProverInput.Proofs.Json.Doubles
import ProverInput.Proofs.ChainData.Generate
import ProverInput.Proofs.ChainData.Nonces
import ProverInput.Proofs.Command.TwoPaths
import ProverInput.Proofs.ChainData.Follow
import ProverInput.Proofs.ChainData.Consecutive
import ProverInput.Proofs.ChainState.Epoch
import ProverInput.Proofs.ChainData.Recompute
import ProverInput.Proofs.Text.Body
import ProverInput.Proofs.Field.Bytes
import ProverInput.Proofs.Field.Elements
import ProverInput.Proofs.Field.Reading
import ProverInput.Proofs.Field.Shape
import ProverInput.Proofs.Field.Unambiguous
import ProverInput.Proofs.Equihash.Codec
import ProverInput.Proofs.ChainData.Failures
import ProverInput.Proofs.ChainData.BlockArgs
import ProverInput.Proofs.Header.Document
import ProverInput.Proofs.ChainState.Steady
import ProverInput.Proofs.Equihash.Stream
import ProverInput.Proofs.ChainState.ClosedForm
import ProverInput.Proofs.Json.Throughout
import ProverInput.Proofs.Untagged.Texts
import ProverInput.Proofs.Untagged.Complaints
import ProverInput.Proofs.Untagged.Grammar
import ProverInput.Proofs.Untagged.Members
import ProverInput.Proofs.Untagged.RawTuple
import ProverInput.Proofs.Compact.Canonical
import ProverInput.Proofs.Field.Leaves
import ProverInput.Proofs.Bootstrap.Trail
import ProverInput.Proofs.Compact.Readers
import ProverInput.Proofs.ChainState.Restore
import ProverInput.Proofs.ChainState.Work
import ProverInput.Proofs.ChainState.Seed
import ProverInput.Proofs.Upgrade.Activation
import ProverInput.Proofs.Field.Digest
import ProverInput.Proofs.Archive.Indexes
import ProverInput.Proofs.Header.Record
import ProverInput.Proofs.Field.Chunks
import ProverInput.Proofs.Window.History
import ProverInput.Proofs.Text.HexBytes
