import SerialFeed.CommandLine.Outcome
import SerialFeed.History.Lines
import SerialFeed.Main
import SerialFeed.Service
import SerialFeed.Proofs.Blocks
import SerialFeed.Proofs.Configuration
import SerialFeed.Proofs.Containment
import SerialFeed.Proofs.EndOfInput
import SerialFeed.Proofs.Outcome
import SerialFeed.Proofs.Phases
import SerialFeed.Proofs.Release
import SerialFeed.Proofs.Retries
import SerialFeed.Proofs.Service
import SerialFeed.Proofs.Patience
import SerialFeed.Proofs.Tally
import SerialFeed.Proofs.Onlookers
import SerialFeed.Proofs.Positionals
import SerialFeed.Proofs.Stages
import SerialFeed.Proofs.Calls
import SerialFeed.Proofs.Deadline
import SerialFeed.Proofs.Stepwise
import SerialFeed.Proofs.Termination
import SerialFeed.Proofs.Log
import SerialFeed.Proofs.Refusals
import SerialFeed.Proofs.Applying
import SerialFeed.Proofs.Merging
import SerialFeed.Proofs.Spelling
import SerialFeed.Proofs.Accounting
import SerialFeed.Proofs.Taking
import SerialFeed.Proofs.Provision
import SerialFeed.Proofs.Grammar
import SerialFeed.Proofs.Acceptance
import SerialFeed.Proofs.Lookup
import SerialFeed.Proofs.Strictness
import SerialFeed.Proofs.Pieces
import SerialFeed.Proofs.Placement
import SerialFeed.Proofs.Negatives
