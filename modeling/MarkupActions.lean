import MarkupActions.Action.Describe
import MarkupActions.Bridge
import MarkupActions.Log.Filter
import MarkupActions.Registry.Describe
import MarkupActions.Session.Run
import MarkupActions.Shape.Action
import MarkupActions.Shape.Config
import MarkupActions.Shape.Literal
import MarkupActions.Shape.Report
import MarkupActions.Proofs.Argument.Scan
import MarkupActions.Proofs.Argument.Written
import MarkupActions.Proofs.Argument.Strings
import MarkupActions.Proofs.Action.Text
import MarkupActions.Proofs.Registry.Tree
import MarkupActions.Proofs.Registry.Callables
import MarkupActions.Proofs.Registry.Leaves
import MarkupActions.Proofs.Action.Parse
import MarkupActions.Proofs.Audit.Agreement
import MarkupActions.Proofs.Session.Answer
import MarkupActions.Proofs.Session.LiveTree
import MarkupActions.Proofs.Binder.Pass
import MarkupActions.Proofs.Session.Wired
import MarkupActions.Proofs.Audit.Page
import MarkupActions.Proofs.Registry.Functions
import MarkupActions.Proofs.Action.Listed
import MarkupActions.Proofs.Session.Sweeping
import MarkupActions.Proofs.Audit.Directory
import MarkupActions.Proofs.Shape.RoundTrip
import MarkupActions.Proofs.Registry.Refused
import MarkupActions.Proofs.Argument.Grammar
import MarkupActions.Proofs.Action.Shell
import MarkupActions.Proofs.Action.Parts
import MarkupActions.Proofs.Session.Passes
import MarkupActions.Proofs.Session.Rendered
import MarkupActions.Proofs.Session.Attached
import MarkupActions.Proofs.Session.Edited
import MarkupActions.Proofs.Document.Traversal
import MarkupActions.Proofs.Argument.Concat
import MarkupActions.Proofs.Session.LiveText
import MarkupActions.Proofs.Shape.Settings
