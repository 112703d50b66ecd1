import JobShell.Main
import JobShell.Scenario.Scene
import JobShell.System.Trace
import JobShell.Proofs.Grammar
import JobShell.Proofs.Cursor
import JobShell.Proofs.Reading
import JobShell.Proofs.RoundTrip
import JobShell.Proofs.Children
import JobShell.Proofs.Tally
import JobShell.Proofs.Reaping
import JobShell.Proofs.Commands
import JobShell.Proofs.Lifetimes
import JobShell.Proofs.Predictions
import JobShell.Proofs.Growth
import JobShell.Proofs.Launching
import JobShell.Proofs.Roster
import JobShell.Proofs.References
import JobShell.Proofs.Handling
import JobShell.Proofs.Recording
import JobShell.Proofs.LineEffects
import JobShell.Proofs.Plumbing
import JobShell.Proofs.ReadEvalLoop
import JobShell.Proofs.Cuts
import JobShell.Proofs.Sturdiness
import JobShell.Proofs.Refusals
import JobShell.Proofs.Refreshing
import JobShell.Proofs.Listings
import JobShell.Proofs.Numerals
import JobShell.Proofs.SlidingWindow
import JobShell.Proofs.Signalling
import JobShell.Proofs.Verdicts
import JobShell.Proofs.HistoryListing
import JobShell.Proofs.ListingText
import JobShell.Proofs.LineKinds
import JobShell.Proofs.Pipes
