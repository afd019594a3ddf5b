import CommandScript.Main
import CommandScript.Summary
import CommandScript.Proofs.Folding
import CommandScript.Proofs.Privilege
import CommandScript.Proofs.Nesting
import CommandScript.Proofs.Brackets
import CommandScript.Proofs.Printer
import CommandScript.Proofs.Halts
import CommandScript.Proofs.Compiled
import CommandScript.Proofs.Dispatch
import CommandScript.Proofs.Declared
import CommandScript.Proofs.Place
import CommandScript.Proofs.Agreement
import CommandScript.Proofs.Lockstep
import CommandScript.Proofs.Nested
import CommandScript.Proofs.Termination
import CommandScript.Proofs.Blind
import CommandScript.Proofs.Isolation
import CommandScript.Proofs.Diagnostics
import CommandScript.Proofs.Slotless
import CommandScript.Proofs.Stored
import CommandScript.Proofs.Lines
import CommandScript.Proofs.Lexeme
import CommandScript.Proofs.Unfolding
import CommandScript.Proofs.Moved
import CommandScript.Proofs.Compose
import CommandScript.Proofs.Hosted
import CommandScript.Proofs.Partition
import CommandScript.Proofs.Levels
import CommandScript.Proofs.Loops
import CommandScript.Proofs.Comparison
import CommandScript.Proofs.Outcome
import CommandScript.Proofs.Exact
import CommandScript.Proofs.Stepping
import CommandScript.Proofs.Overflow
import CommandScript.Proofs.Numeral
import CommandScript.Proofs.NormalForm
import CommandScript.Proofs.Snapshot
import CommandScript.Proofs.Layout
import CommandScript.Proofs.Connectives
import CommandScript.Proofs.Forms
import CommandScript.Proofs.Settings
import CommandScript.Proofs.Registration
import CommandScript.Proofs.Audits
import CommandScript.Proofs.Enumeration
