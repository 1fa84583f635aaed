import LiveSelector.Command
import LiveSelector.Config.Layers
import LiveSelector.Document.CodeAction
import LiveSelector.Fetch.Basic
import LiveSelector.Json.Reader
import LiveSelector.Log
import LiveSelector.Selector.Rules
import LiveSelector.Proofs.Disk.Rewriting
import LiveSelector.Proofs.Diagnostics.Present
import LiveSelector.Proofs.Diagnostics.Pinned
import LiveSelector.Proofs.Diagnostics.Ranges
import LiveSelector.Proofs.Document.Offers
import LiveSelector.Proofs.Document.Replay
import LiveSelector.Proofs.Events.Batch
import LiveSelector.Proofs.Events.Commuting
import LiveSelector.Proofs.Events.Taken
import LiveSelector.Proofs.Journal.Notices
import LiveSelector.Proofs.Journal.Statuses
import LiveSelector.Proofs.Output.Apart
import LiveSelector.Proofs.Link.Leads
import LiveSelector.Proofs.Link.SelectorRuns
import LiveSelector.Proofs.Link.Standalone
import LiveSelector.Proofs.Session.Fetches
import LiveSelector.Proofs.Session.Pages
import LiveSelector.Proofs.Engine.Asked
import LiveSelector.Proofs.Engine.Chosen
import LiveSelector.Proofs.Workspace.Arranged
import LiveSelector.Proofs.Config.Layering
import LiveSelector.Proofs.Events.Latest
import LiveSelector.Proofs.Url.Authorities
import LiveSelector.Proofs.Url.Names
import LiveSelector.Proofs.Engine.Admitted
import LiveSelector.Proofs.Link.Web
import LiveSelector.Proofs.Workspace.Opening
import LiveSelector.Proofs.Output.Delivery
import LiveSelector.Proofs.Run.Endings
import LiveSelector.Proofs.Run.Completed
import LiveSelector.Proofs.Session.Started
import LiveSelector.Proofs.Session.Closing
import LiveSelector.Proofs.Output.Beside
import LiveSelector.Proofs.Workspace.Refused
import LiveSelector.Proofs.Json.Faithful
import LiveSelector.Proofs.Config.Suggested
import LiveSelector.Proofs.Events.Subscriptions
import LiveSelector.Proofs.Session.Stopping
import LiveSelector.Proofs.Toml.Growth
import LiveSelector.Proofs.Toml.Layout
import LiveSelector.Proofs.Toml.Spelling
import LiveSelector.Proofs.Config.Outline
import LiveSelector.Proofs.Config.Outlined
import LiveSelector.Proofs.Config.Remarks
import LiveSelector.Proofs.Config.Warned
import LiveSelector.Proofs.Text.Metric
import LiveSelector.Proofs.Config.Corrections
import LiveSelector.Proofs.Document.Lines
