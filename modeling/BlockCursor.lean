import BlockCursor.Script.Parse
import BlockCursor.Workspace.History
import BlockCursor.Workspace.Sweep
import BlockCursor.Decimal.Text
import BlockCursor.Decimal.Reading
import BlockCursor.Navigation.Cursor
import BlockCursor.Navigation.Describe
import BlockCursor.Navigation.Start
import BlockCursor.Workspace.Outline
import BlockCursor.Layout.Build
import BlockCursor.Layout.Data
import BlockCursor.Settings
import BlockCursor.Report.Diagnostic
import BlockCursor.Text.Width
import BlockCursor.Files.Path
import BlockCursor.Files.Tree
import BlockCursor.Log.Event
import BlockCursor.Log.Filter
import BlockCursor.Log.Place
import BlockCursor.Command.Arguments
import BlockCursor.Command.Journal
import BlockCursor.Command.Program
import BlockCursor.Main
import BlockCursor.Log.Pattern
import BlockCursor.Proofs.Climb
import BlockCursor.Proofs.Workspace.Owned
import BlockCursor.Proofs.Workspace.Lines
import BlockCursor.Proofs.Workspace.Linked
import BlockCursor.Proofs.Workspace.Forest
import BlockCursor.Proofs.Workspace.Relinked
import BlockCursor.Proofs.Workspace.Inserted
import BlockCursor.Proofs.Workspace.Subtree
import BlockCursor.Proofs.Workspace.Disposed
import BlockCursor.Proofs.Workspace.Consistency
import BlockCursor.Proofs.Workspace.Lifetime
import BlockCursor.Proofs.Navigation.Moves
import BlockCursor.Proofs.Navigation.Stops
import BlockCursor.Proofs.Navigation.Chains
import BlockCursor.Proofs.Navigation.Agreement
import BlockCursor.Proofs.Navigation.Order
import BlockCursor.Proofs.Navigation.Sessions
import BlockCursor.Proofs.Navigation.StackResults
import BlockCursor.Proofs.Navigation.Accessible
import BlockCursor.Proofs.Navigation.Reach
import BlockCursor.Proofs.Navigation.Inverse
import BlockCursor.Proofs.Script.Grammar
import BlockCursor.Proofs.Script.Reading
import BlockCursor.Proofs.Script.Accepted
import BlockCursor.Proofs.Layout.Shown
import BlockCursor.Proofs.Layout.Building
import BlockCursor.Proofs.Layout.ReadBack
import BlockCursor.Proofs.Workspace.Trees
import BlockCursor.Proofs.Navigation.Locality
import BlockCursor.Proofs.Navigation.Hosts
import BlockCursor.Proofs.Workspace.Atomic
import BlockCursor.Proofs.Script.Located
import BlockCursor.Proofs.Layout.RoundTrip
import BlockCursor.Proofs.Workspace.Connecting
import BlockCursor.Proofs.Layout.Reaching
import BlockCursor.Proofs.Command.Printing
import BlockCursor.Proofs.Command.Walking
import BlockCursor.Proofs.Command.Needs
import BlockCursor.Proofs.Command.AllOrNothing
import BlockCursor.Proofs.Workspace.Swept
import BlockCursor.Proofs.Workspace.Removal
import BlockCursor.Proofs.Workspace.Ancestors
import BlockCursor.Proofs.Navigation.InAndOut
import BlockCursor.Proofs.Navigation.Outward
import BlockCursor.Proofs.Navigation.Display
import BlockCursor.Proofs.Workspace.LinkOrder
import BlockCursor.Proofs.Workspace.Undoing
import BlockCursor.Proofs.Navigation.ChainTops
import BlockCursor.Proofs.Navigation.ChainRows
import BlockCursor.Proofs.Navigation.Naming
import BlockCursor.Proofs.Navigation.Ring
import BlockCursor.Proofs.Workspace.Nesting
import BlockCursor.Proofs.Workspace.Writing
import BlockCursor.Proofs.Workspace.Outlined
import BlockCursor.Proofs.Script.Complaints
import BlockCursor.Proofs.Script.Joined
import BlockCursor.Proofs.Command.Continued
