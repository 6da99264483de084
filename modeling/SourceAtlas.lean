import SourceAtlas.Component.Options
import SourceAtlas.Main
import SourceAtlas.Tools
import SourceAtlas.Proofs.Merging
import SourceAtlas.Proofs.BlockGrammar
import SourceAtlas.Proofs.Disk.FullPath
import SourceAtlas.Proofs.Outcome
import SourceAtlas.Proofs.Refiltering
import SourceAtlas.Proofs.Regex.Ways
import SourceAtlas.Proofs.Regex.Groups
import SourceAtlas.Proofs.Extract.Checked
import SourceAtlas.Proofs.Disk.Walk
import SourceAtlas.Proofs.Disk.Contents
import SourceAtlas.Proofs.Listing
import SourceAtlas.Proofs.Isolation
import SourceAtlas.Proofs.Session.Commit
import SourceAtlas.Proofs.Session.History
import SourceAtlas.Proofs.FrontEnds
import SourceAtlas.Proofs.ExtensionFilter
import SourceAtlas.Proofs.Session.Interleaving
import SourceAtlas.Proofs.CSharp.Grammar
import SourceAtlas.Proofs.CSharp.Preorder
import SourceAtlas.Proofs.Search.Literal
import SourceAtlas.Proofs.Search.MarkedCopy
import SourceAtlas.Proofs.Report.Narrowing
import SourceAtlas.Proofs.Exclusion.PatternText
import SourceAtlas.Proofs.Exclusion.Directory
import SourceAtlas.Proofs.Component.OwnBody
import SourceAtlas.Proofs.Extract.React
import SourceAtlas.Proofs.Regex.Offsets
import SourceAtlas.Proofs.Regex.Identifiers
import SourceAtlas.Proofs.Extract.JavaScript
import SourceAtlas.Proofs.Component.Hooks
import SourceAtlas.Proofs.Disk.Outline
import SourceAtlas.Proofs.Inventory
import SourceAtlas.Proofs.Component.Members
import SourceAtlas.Proofs.Regex.Preferred
import SourceAtlas.Proofs.Extract.Vue
import SourceAtlas.Proofs.Component.DeclaredProps
import SourceAtlas.Proofs.Regex.Reading
import SourceAtlas.Proofs.Regex.Faults
import SourceAtlas.Proofs.Search.BadPattern
import SourceAtlas.Proofs.BlockNesting
import SourceAtlas.Proofs.BlockViews
import SourceAtlas.Proofs.BlockBounds
import SourceAtlas.Proofs.Settings.KeyByKey
import SourceAtlas.Proofs.Settings.Loading
