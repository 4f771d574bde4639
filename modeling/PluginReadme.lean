import PluginReadme.Files.Disk
import PluginReadme.Main
import PluginReadme.Proofs.Project.DryRun
import PluginReadme.Proofs.Project.Failing
import PluginReadme.Proofs.Project.SecondRun
import PluginReadme.Proofs.Project.Reported
import PluginReadme.Proofs.Project.Stepwise
import PluginReadme.Proofs.Readme.BlankLines
import PluginReadme.Proofs.Readme.KeptVersion
import PluginReadme.Proofs.Markdown.MovedLine
import PluginReadme.Proofs.Markdown.MovedLeaf
import PluginReadme.Proofs.Markdown.Moved
import PluginReadme.Proofs.Document.Moved
import PluginReadme.Proofs.Pattern.Alike
import PluginReadme.Proofs.Readme.ByteOrderMark
import PluginReadme.Proofs.Readme.Placed
import PluginReadme.Proofs.Readme.Numbering
import PluginReadme.Proofs.Markdown.Headings
import PluginReadme.Proofs.Readme.SingleLines
import PluginReadme.Proofs.Markdown.MarkedLine
import PluginReadme.Proofs.Readme.LeadingTitle
import PluginReadme.Proofs.Version.FirstDeclared
import PluginReadme.Proofs.Version.FirstRewritten
import PluginReadme.Proofs.Version.Origin
import PluginReadme.Proofs.Version.Formatting
import PluginReadme.Proofs.Version.Isolation
import PluginReadme.Proofs.Version.ReadBack
import PluginReadme.Proofs.Readme.OnePass
import PluginReadme.Proofs.Readme.Scanning
import PluginReadme.Proofs.Markdown.Stretches
import PluginReadme.Proofs.Markdown.Enclosing
import PluginReadme.Proofs.Document.Flattening
import PluginReadme.Proofs.Document.ItemText
import PluginReadme.Proofs.Readme.ListContent
import PluginReadme.Proofs.Readme.Verbatim
import PluginReadme.Proofs.Readme.CodeSpans
import PluginReadme.Proofs.Config.Reading
import PluginReadme.Proofs.Config.Resolving
import PluginReadme.Proofs.Document.Separation
import PluginReadme.Proofs.Readme.QuoteMarks
