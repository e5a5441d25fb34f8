import Scoreboard.Command
import Scoreboard.Console.Recorder
import Scoreboard.Debouncer.Timeline
import Scoreboard.Fire
import Scoreboard.Host.Step
import Scoreboard.Logging
import Scoreboard.Reply
import Scoreboard.Settings.File
import Scoreboard.Text.Quoted
import Scoreboard.Trigger
import Scoreboard.Proofs.Dispatch
import Scoreboard.Proofs.Engine.Triggers
import Scoreboard.Proofs.TriggerNames
import Scoreboard.Debouncer.Acts
import Scoreboard.Proofs.Debouncer.Dues
import Scoreboard.Proofs.Debouncer.Law
import Scoreboard.Proofs.Engine.Scores
import Scoreboard.Proofs.Cache
import Scoreboard.Proofs.Command
import Scoreboard.Proofs.Engine.Upkeep
import Scoreboard.Proofs.Cleanup
import Scoreboard.Proofs.Objectives
import Scoreboard.Proofs.Debouncer.Makes
import Scoreboard.Proofs.Host.Debounced
import Scoreboard.Proofs.SyncRequests
import Scoreboard.Proofs.Host.Courses
import Scoreboard.Proofs.Mirror
import Scoreboard.Proofs.Text
import Scoreboard.Proofs.FireLines
import Scoreboard.Proofs.Registrations
import Scoreboard.Proofs.Tenants
import Scoreboard.Proofs.Host.Journal
import Scoreboard.Proofs.Host.Attended
import Scoreboard.Proofs.Asides
import Scoreboard.Proofs.Removals
import Scoreboard.Proofs.Owners
import Scoreboard.Proofs.Teardown
import Scoreboard.Proofs.Release
import Scoreboard.Proofs.Host.Dialogues
import Scoreboard.Proofs.Engine.Stats
import Scoreboard.Proofs.Statistics
import Scoreboard.Proofs.FullSync
import Scoreboard.Proofs.Listings
import Scoreboard.Proofs.Debouncer.Lifecycle
import Scoreboard.Proofs.Allocation
import Scoreboard.Proofs.Bindings
import Scoreboard.Proofs.ScoreReplies
import Scoreboard.Proofs.PlayerLists
import Scoreboard.Proofs.Base64
import Scoreboard.Proofs.Namespaces
import Scoreboard.Proofs.Table
import Scoreboard.Proofs.Deliveries
import Scoreboard.Proofs.FiredNames
import Scoreboard.Proofs.TomlKeys
import Scoreboard.Proofs.Settings
import Scoreboard.Proofs.CommandWords
