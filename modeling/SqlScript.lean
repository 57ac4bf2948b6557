import SqlScript.Database.Rehearsal
import SqlScript.Main
import SqlScript.Proofs.Delimiters
import SqlScript.Proofs.Lines
import SqlScript.Proofs.Words
import SqlScript.Proofs.Reading
import SqlScript.Proofs.Trimming
import SqlScript.Proofs.Slices
import SqlScript.Proofs.DirectiveLines
import SqlScript.Proofs.Removal
import SqlScript.Proofs.Absorption
import SqlScript.Proofs.LookAhead
import SqlScript.Proofs.Composition
import SqlScript.Proofs.Appending
import SqlScript.Proofs.Boundaries
import SqlScript.Proofs.Shape
import SqlScript.Proofs.Terminators
import SqlScript.Proofs.Leftovers
import SqlScript.Proofs.Resplit
import SqlScript.Proofs.PlainScripts
import SqlScript.Proofs.Returns
import SqlScript.Proofs.Likeness
import SqlScript.Proofs.Decoding
import SqlScript.Proofs.Files
import SqlScript.Proofs.Journal
import SqlScript.Proofs.Writing
import SqlScript.Proofs.Accounting
import SqlScript.Proofs.Stopping
import SqlScript.Proofs.Outcomes
import SqlScript.Proofs.Conclusion
import SqlScript.Proofs.Phrasing
import SqlScript.Proofs.Keywords
import SqlScript.Proofs.Channels
import SqlScript.Proofs.UpperCase
import SqlScript.Proofs.DirectiveWords
import SqlScript.Proofs.Cursor
import SqlScript.Proofs.Progress
