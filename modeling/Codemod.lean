import Codemod.Main
import Codemod.Proofs.Text.Utf8
import Codemod.Proofs.FileTree.Resolution
import Codemod.Proofs.FileTree.Joining
import Codemod.Proofs.FileTree.Replacement
import Codemod.Proofs.Walk.Order
import Codemod.Proofs.Walk.Reach
import Codemod.Proofs.Batch.Commit
import Codemod.Proofs.Batch.Process
import Codemod.Proofs.Batch.Interleaving
import Codemod.Proofs.Batch.DryRun
import Codemod.Proofs.Program.Check
import Codemod.Proofs.Pattern.Search
import Codemod.Proofs.Pattern.Scan
import Codemod.Proofs.Text.Lines
import Codemod.Proofs.Catalog.Compiled
import Codemod.Proofs.Text.Words
import Codemod.Proofs.Pattern.Language
import Codemod.Proofs.Catalog.Casing
import Codemod.Proofs.Catalog.Imports
import Codemod.Proofs.Catalog.Markup
import Codemod.Proofs.Catalog.Meaning
import Codemod.Proofs.Catalog.Stability
import Codemod.Proofs.Catalog.Convergence
import Codemod.Proofs.Rule.Escaping
import Codemod.Proofs.Catalog.Defects
import Codemod.Proofs.Program.Startup
import Codemod.Proofs.Program.Replay
import Codemod.Proofs.FileTree.Spelling
import Codemod.Proofs.Walk.Duplicates
import Codemod.Proofs.Catalog.Composition
import Codemod.Proofs.Walk.Scope
import Codemod.Proofs.Batch.Reporting
import Codemod.Proofs.Batch.Accounting
import Codemod.Proofs.Template.Tokens
import Codemod.Proofs.Template.Grammar
import Codemod.Proofs.Template.Interpolation
import Codemod.Proofs.Pattern.Groups
import Codemod.Proofs.Template.References
import Codemod.Proofs.Catalog.Effects
import Codemod.Proofs.Catalog.Removal
import Codemod.Proofs.Catalog.Guards
import Codemod.Proofs.Batch.Writing
import Codemod.Proofs.Pipeline.Account
import Codemod.Proofs.Text.Trimming
import Codemod.Proofs.Pipeline.Instability
import Codemod.Proofs.Catalog.Extensions
import Codemod.Proofs.Program.Substance
