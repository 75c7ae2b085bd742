import ParamFile.Main
import ParamFile.Proofs.Closure
import ParamFile.Proofs.Secrecy
import ParamFile.Proofs.DryRun
import ParamFile.Proofs.Downloading
import ParamFile.Proofs.Recompile
import ParamFile.Proofs.Prediction
import ParamFile.Proofs.Chronicle
import ParamFile.Proofs.Given
import ParamFile.Proofs.Memory
import ParamFile.Proofs.Grouping
import ParamFile.Proofs.Sequence
import ParamFile.Proofs.Matching
import ParamFile.Proofs.Deleting
import ParamFile.Proofs.Calls
import ParamFile.Proofs.PagedReads
import ParamFile.Proofs.Tokens
import ParamFile.Proofs.Answering
import ParamFile.Proofs.Exchange
import ParamFile.Proofs.Inquiry
import ParamFile.Proofs.Substitution
import ParamFile.Proofs.Sealing
import ParamFile.Proofs.Nulls
import ParamFile.Proofs.Plaintext
import ParamFile.Proofs.Overriding
import ParamFile.Proofs.Canonical
import ParamFile.Proofs.Reencryption
import ParamFile.Proofs.Naming
import ParamFile.Proofs.Emission
import ParamFile.Proofs.Distinct
import ParamFile.Proofs.Filing
import ParamFile.Proofs.SealedEntries
import ParamFile.Proofs.Encrypting
import ParamFile.Proofs.Decrypting
import ParamFile.Proofs.SecretEntries
