import Shorthand.Bus.Script
import Shorthand.Main
import Shorthand.Web.Client
import Shorthand.Json.Write
import Shorthand.Proofs.Document.Edit
import Shorthand.Proofs.Document.Attachment
import Shorthand.Proofs.Document.Position
import Shorthand.Proofs.Document.Offsets
import Shorthand.Proofs.Match.Ending
import Shorthand.Proofs.Match.Anywhere
import Shorthand.Proofs.Match.OneLine
import Shorthand.Proofs.Match.Order
import Shorthand.Proofs.Match.Shapes
import Shorthand.Proofs.Trigger.Channel
import Shorthand.Proofs.Text.Occurrence
import Shorthand.Proofs.Text.Replace
import Shorthand.Proofs.Escape.Token
import Shorthand.Proofs.Entries.Definitions
import Shorthand.Proofs.Entries.Updated
import Shorthand.Proofs.Escape.Substitution
import Shorthand.Proofs.Escape.Encoding
import Shorthand.Proofs.Escape.Concatenation
import Shorthand.Proofs.Source.Compiled
import Shorthand.Proofs.Keyboard.Press
import Shorthand.Proofs.Keyboard.Expanding
import Shorthand.Proofs.Keyboard.Silence
import Shorthand.Proofs.Keyboard.Bounds
import Shorthand.Proofs.Keyboard.LineRecords
import Shorthand.Proofs.Bus.Delivery
import Shorthand.Proofs.Bus.Nesting
import Shorthand.Proofs.Trigger.Configuring
import Shorthand.Proofs.Session.Runs
import Shorthand.Proofs.Session.Events
import Shorthand.Proofs.Session.Reached
import Shorthand.Proofs.Session.Agreement
import Shorthand.Proofs.Source.Meaning
import Shorthand.Proofs.Source.Writing
import Shorthand.Proofs.Source.WellFormed
import Shorthand.Proofs.Source.Counting
import Shorthand.Proofs.Value.Nulls
import Shorthand.Proofs.Source.Appending
import Shorthand.Proofs.Match.Additions
import Shorthand.Proofs.Settings.Key
import Shorthand.Proofs.Session.Reload
import Shorthand.Proofs.Session.History
import Shorthand.Proofs.Session.Renewal
import Shorthand.Proofs.Session.Update
import Shorthand.Proofs.Session.Telling
import Shorthand.Proofs.Host.Refusal
import Shorthand.Proofs.Host.Kept
import Shorthand.Proofs.Trigger.Stages
import Shorthand.Proofs.Trigger.Enter
import Shorthand.Proofs.Files.Store
import Shorthand.Proofs.Text.Utf8
import Shorthand.Proofs.Toml.Scalar
import Shorthand.Proofs.Toml.Document
import Shorthand.Proofs.Toml.Piecewise
import Shorthand.Proofs.Toml.Distinct
import Shorthand.Proofs.Settings.Saved
import Shorthand.Proofs.Settings.LineEnds
import Shorthand.Proofs.Settings.Undeclared
import Shorthand.Proofs.Settings.Loaded
import Shorthand.Proofs.Session.Still
import Shorthand.Proofs.Web.Expanding
import Shorthand.Proofs.Web.Exchange
import Shorthand.Proofs.CommandLine.Alike
