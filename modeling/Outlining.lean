import Outlining.FileTree.Editing
import Outlining.Proofs.Discovery.Arguments
import Outlining.Proofs.Export.Members
import Outlining.Proofs.Expr.Readability
import Outlining.Proofs.IgnoreFilter.PlainRules
import Outlining.Proofs.Outline.Absorption
import Outlining.Proofs.Outline.Concatenation
import Outlining.Proofs.Outline.Grouping
import Outlining.Proofs.Outline.IncludePolicies
import Outlining.Proofs.Outline.QuoteStyles
import Outlining.Proofs.Outline.ShownTexts
import Outlining.Proofs.Settings.Loading
import Outlining.Proofs.Synopsis.Session
import Outlining.Proofs.Text.QuoteMarks
