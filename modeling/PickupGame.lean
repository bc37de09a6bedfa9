import PickupGame.Main
import PickupGame.Proofs.Api.Address
import PickupGame.Proofs.Api.Compatibility
import PickupGame.Proofs.Api.Envelope
import PickupGame.Proofs.Api.Pug
import PickupGame.Proofs.Program.Runs
import PickupGame.Proofs.Settings.Saving
import PickupGame.Proofs.Settings.Sequences
import PickupGame.Proofs.Api.Outcome
import PickupGame.Proofs.Program.Profiles
import PickupGame.Proofs.Api.Keys
import PickupGame.Proofs.Program.Keys
import PickupGame.Proofs.Json.Layout
import PickupGame.Proofs.Api.Payload
import PickupGame.Proofs.Api.Written
import PickupGame.Proofs.Display.Faithful
import PickupGame.Proofs.CommandLine.Environment
import PickupGame.Proofs.CommandLine.Layout
import PickupGame.Proofs.Program.Calls
import PickupGame.Proofs.Program.Requests
import PickupGame.Proofs.Program.Answers
import PickupGame.Proofs.Program.Addresses
import PickupGame.Proofs.Api.Parameters
import PickupGame.Proofs.Program.Sessions
import PickupGame.Proofs.Text.Lines
import PickupGame.Proofs.Display.Table
import PickupGame.Proofs.Calendar.Days
import PickupGame.Proofs.Calendar.Text
import PickupGame.Proofs.Display.Deadline
import PickupGame.Proofs.Numeral.Reading
import PickupGame.Proofs.Settings.Timeout
import PickupGame.Proofs.Api.Omission
import PickupGame.Proofs.Program.Listing
