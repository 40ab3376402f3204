import ThreeAddress.Main
import ThreeAddress.Serial.Instruction
import ThreeAddress.Proofs.Checks
import ThreeAddress.Proofs.Rules
import ThreeAddress.Proofs.Steps
import ThreeAddress.Proofs.Faults
import ThreeAddress.Proofs.Calls
import ThreeAddress.Proofs.Failure
import ThreeAddress.Proofs.Limit
import ThreeAddress.Proofs.Idle
import ThreeAddress.Proofs.Insertion
import ThreeAddress.Proofs.Records
import ThreeAddress.Proofs.Source
import ThreeAddress.Proofs.Presentation
import ThreeAddress.Proofs.Isolation
import ThreeAddress.Proofs.Contents
import ThreeAddress.Proofs.Encoding
import ThreeAddress.Proofs.Unset
import ThreeAddress.Proofs.Texts
import ThreeAddress.Proofs.Forward
import ThreeAddress.Proofs.Reading
import ThreeAddress.Proofs.Literals
import ThreeAddress.Proofs.Renaming
import ThreeAddress.Proofs.Listing
import ThreeAddress.Proofs.Tokens
import ThreeAddress.Proofs.Trees
import ThreeAddress.Proofs.Handoff
import ThreeAddress.Proofs.Precedence
import ThreeAddress.Proofs.Escapes
import ThreeAddress.Proofs.Storage
import ThreeAddress.Proofs.Status
import ThreeAddress.Proofs.Layout
import ThreeAddress.Proofs.Canonical
import ThreeAddress.Proofs.Numerals
import ThreeAddress.Proofs.Comparison
import ThreeAddress.Proofs.Printing
import ThreeAddress.Proofs.Characters
import ThreeAddress.Proofs.CodePoints
import ThreeAddress.Proofs.Reversal
import ThreeAddress.Proofs.Arithmetic
import ThreeAddress.Proofs.Joining
