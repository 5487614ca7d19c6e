import ProcessWatch.Main
import ProcessWatch.Proofs.Polling.Retention
import ProcessWatch.Proofs.Polling.Steady
import ProcessWatch.Proofs.Tracker.Skipped
import ProcessWatch.Proofs.Record.Absorbs
import ProcessWatch.Proofs.Table.Tree
import ProcessWatch.Proofs.Tracker.Parent
import ProcessWatch.Proofs.Record.Open
import ProcessWatch.Proofs.Table.Changes
import ProcessWatch.Proofs.Tracker.Accounts
import ProcessWatch.Proofs.Tracker.Listed
import ProcessWatch.Proofs.Tracker.Successor
import ProcessWatch.Proofs.Record.Samples
import ProcessWatch.Proofs.Tracker.Histories
import ProcessWatch.Proofs.Tracker.Isolated
import ProcessWatch.Proofs.Polling.Transcript
import ProcessWatch.Proofs.Polling.Master
import ProcessWatch.Proofs.Polling.Failures
import ProcessWatch.Proofs.Polling.Questions
import ProcessWatch.Proofs.Wire.Grammar
import ProcessWatch.Proofs.Tracker.Rules
import ProcessWatch.Proofs.Tracker.Repeated
import ProcessWatch.Proofs.Table.Projection
import ProcessWatch.Proofs.Table.Reconciled
import ProcessWatch.Proofs.Attributes.Clashes
import ProcessWatch.Proofs.Polling.Gaps
import ProcessWatch.Proofs.Tracker.Ordered
import ProcessWatch.Proofs.Polling.Counted
import ProcessWatch.Proofs.Display.Lines
import ProcessWatch.Proofs.Tracker.Printed
import ProcessWatch.Proofs.Decimal.Normal
import ProcessWatch.Proofs.Decimal.Rounded
import ProcessWatch.Proofs.Display.Sizes
import ProcessWatch.Proofs.History
