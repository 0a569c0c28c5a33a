import Lookahead.Grammar.Derivation
import Lookahead.Main
import Lookahead.Proofs.Accepted
import Lookahead.Proofs.EndMark
import Lookahead.Proofs.ListingRoundTrip
import Lookahead.Proofs.Newline
import Lookahead.Proofs.Rejected
import Lookahead.Proofs.Relayout
import Lookahead.Proofs.Schedules
import Lookahead.Proofs.Traces
import Lookahead.Proofs.FirstError
import Lookahead.Proofs.Collected
import Lookahead.Proofs.ListingFiles
import Lookahead.Proofs.StandardInput
import Lookahead.Proofs.Endings
import Lookahead.Proofs.TokenClasses
import Lookahead.Proofs.Positions
import Lookahead.Proofs.Predictions
import Lookahead.Proofs.Tables
import Lookahead.Proofs.Discovery
import Lookahead.Proofs.Caps
import Lookahead.Proofs.Tallies
import Lookahead.Proofs.FileContexts
import Lookahead.Proofs.ExitStatus
import Lookahead.Proofs.Recordings
import Lookahead.Proofs.LatestEvents
import Lookahead.Proofs.Clips
