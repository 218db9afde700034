import MarkTree.CommandLine
import MarkTree.Document
import MarkTree.Listing
import MarkTree.Main
import MarkTree.Markdown.BlockReader
import MarkTree.Program
import MarkTree.Run.Memory
import MarkTree.Run.Execution
import MarkTree.Session.Step
import MarkTree.Store.Change
import MarkTree.Store.InPlace
import MarkTree.Store.Lifetime
import MarkTree.Store.Lookup
import MarkTree.Store.Search
import MarkTree.Proofs.Lists
import MarkTree.Proofs.Results
import MarkTree.Proofs.Rose
import MarkTree.Proofs.Outline
import MarkTree.Proofs.Text.Pieces
import MarkTree.Proofs.Text.Quoted
import MarkTree.Proofs.Store.Cells
import MarkTree.Proofs.Store.Paths
import MarkTree.Proofs.Store.Insertion
import MarkTree.Proofs.Store.Moves
import MarkTree.Proofs.Store.Answers
import MarkTree.Proofs.Store.Siblings
import MarkTree.Proofs.Store.Forest
import MarkTree.Proofs.Store.Refusals
import MarkTree.Proofs.Store.InPlace
import MarkTree.Proofs.Store.Reclaim
import MarkTree.Proofs.Store.Descent
import MarkTree.Proofs.Store.Trees
import MarkTree.Proofs.Store.Records
import MarkTree.Proofs.Store.Preorder
import MarkTree.Proofs.Store.Levels
import MarkTree.Proofs.Store.Lineage
import MarkTree.Proofs.Store.Placeholders
import MarkTree.Proofs.Store.Kinds
import MarkTree.Proofs.Store.Effects
import MarkTree.Proofs.Store.Undo
import MarkTree.Proofs.Store.Families
import MarkTree.Proofs.Store.Scans
import MarkTree.Proofs.Store.Lookups
import MarkTree.Proofs.Store.Misses
import MarkTree.Proofs.Document.Growth
import MarkTree.Proofs.Document.Sketch
import MarkTree.Proofs.Document.Image
import MarkTree.Proofs.Document.Parts
import MarkTree.Proofs.Document.References
import MarkTree.Proofs.Document.Failures
import MarkTree.Proofs.Document.Selection
import MarkTree.Proofs.Document.Texts
import MarkTree.Proofs.Document.Depths
import MarkTree.Proofs.Listing.Lines
import MarkTree.Proofs.Listing.Texts
import MarkTree.Proofs.Listing.Parts
import MarkTree.Proofs.Session.Runs
import MarkTree.Proofs.Session.Ownership
import MarkTree.Proofs.Session.UpwardWalk
import MarkTree.Proofs.Session.Siblings
import MarkTree.Proofs.Session.Settled
import MarkTree.Proofs.Session.Refusals
import MarkTree.Proofs.Session.Effects
import MarkTree.Proofs.Session.Links
import MarkTree.Proofs.Session.Lifetimes
import MarkTree.Proofs.Session.Lineage
import MarkTree.Proofs.Session.Placeholders
import MarkTree.Proofs.Session.Families
import MarkTree.Proofs.Session.Misses
import MarkTree.Proofs.Session.Searches
import MarkTree.Proofs.Session.Undo
import MarkTree.Proofs.Session.Scans
import MarkTree.Proofs.Session.Wildcards
import MarkTree.Proofs.Session.Lookups
import MarkTree.Proofs.Run.Inputs
import MarkTree.Proofs.Run.Calls
import MarkTree.Proofs.Run.Reading
import MarkTree.Proofs.Run.Outcome
import MarkTree.Proofs.Run.Limits
import MarkTree.Proofs.CommandLine.Laws
import MarkTree.Proofs.CommandLine.Courses
import MarkTree.Proofs.CommandLine.Scanner
import MarkTree.Proofs.CommandLine.Spellings
