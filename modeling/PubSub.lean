import PubSub.Proofs.Address.Naming
import PubSub.Proofs.Address.Options
import PubSub.Proofs.Address.Settings
import PubSub.Proofs.Backlog
import PubSub.Proofs.Bytes
import PubSub.Proofs.Hub.Act
import PubSub.Proofs.Hub.Aside
import PubSub.Proofs.Hub.Belonging
import PubSub.Proofs.Hub.Broadcasting
import PubSub.Proofs.Hub.Bypass
import PubSub.Proofs.Hub.Carriage
import PubSub.Proofs.Hub.Chronicle
import PubSub.Proofs.Hub.Clearing
import PubSub.Proofs.Hub.Closing
import PubSub.Proofs.Hub.Course
import PubSub.Proofs.Hub.Delivering
import PubSub.Proofs.Hub.Dispatching
import PubSub.Proofs.Hub.Enlisted
import PubSub.Proofs.Hub.Exclusion
import PubSub.Proofs.Hub.Failing
import PubSub.Proofs.Hub.Fanout
import PubSub.Proofs.Hub.Flow
import PubSub.Proofs.Hub.Halves
import PubSub.Proofs.Hub.Handing
import PubSub.Proofs.Hub.Intake
import PubSub.Proofs.Hub.Lines
import PubSub.Proofs.Hub.Mirroring
import PubSub.Proofs.Hub.Moving
import PubSub.Proofs.Hub.Multicasting
import PubSub.Proofs.Hub.Nesting
import PubSub.Proofs.Hub.Pacing
import PubSub.Proofs.Hub.Playback
import PubSub.Proofs.Hub.Publishing
import PubSub.Proofs.Hub.Readiness
import PubSub.Proofs.Hub.Recording
import PubSub.Proofs.Hub.Reeling
import PubSub.Proofs.Hub.Reentry
import PubSub.Proofs.Hub.Registering
import PubSub.Proofs.Hub.Relay
import PubSub.Proofs.Hub.Replaying
import PubSub.Proofs.Hub.Routing
import PubSub.Proofs.Hub.Signalling
import PubSub.Proofs.Hub.Silence
import PubSub.Proofs.Hub.Sparing
import PubSub.Proofs.Hub.Steering
import PubSub.Proofs.Hub.Tables
import PubSub.Proofs.Hub.Undisturbed
import PubSub.Proofs.Hub.Wired
import PubSub.Proofs.Journal.Bytewise
import PubSub.Proofs.Journal.Damaged
import PubSub.Proofs.Journal.Following
import PubSub.Proofs.Journal.Header
import PubSub.Proofs.Journal.Images
import PubSub.Proofs.Journal.Reading
import PubSub.Proofs.Journal.Record
import PubSub.Proofs.Journal.Recovering
import PubSub.Proofs.Journal.Refused
import PubSub.Proofs.Journal.Row
import PubSub.Proofs.Journal.Searching
import PubSub.Proofs.Journal.Seeking
import PubSub.Proofs.Journal.Sessions
import PubSub.Proofs.Journal.Spent
import PubSub.Proofs.Journal.Stops
import PubSub.Proofs.Journal.Writing
import PubSub.Proofs.Mailbox
import PubSub.Proofs.Pattern.Enclosing
import PubSub.Proofs.Pattern.Grouping
import PubSub.Proofs.Pattern.Locality
import PubSub.Proofs.Pattern.Matching
import PubSub.Proofs.Pattern.Readers
import PubSub.Proofs.Pattern.Reference
import PubSub.Proofs.Pattern.Searching
import PubSub.Proofs.Pattern.Sets
import PubSub.Proofs.Pattern.Standard
import PubSub.Proofs.Pattern.Tokens
import PubSub.Proofs.Replay
import PubSub.Proofs.Text.Nearest
import PubSub.Proofs.Text.Numerals
import PubSub.Proofs.Url.Hosts
import PubSub.Proofs.Url.Names
import PubSub.Proofs.Url.Paths
import PubSub.Proofs.Url.Relative
import PubSub.Proofs.Wire.Assembly
import PubSub.Proofs.Wire.Crowding
import PubSub.Proofs.Wire.Datagram
import PubSub.Proofs.Wire.Distinct
import PubSub.Proofs.Wire.Gathering
import PubSub.Proofs.Wire.Grammar
import PubSub.Proofs.Wire.Provenance
import PubSub.Proofs.Wire.Reassembly
import PubSub.Proofs.Wire.Split
import PubSub.Proofs.Wire.Table
import PubSub.Proofs.Wire.Tiling
import PubSub.Session.Basic
import PubSub.Unicode.CaseOrbit
import PubSub.Unicode.Script
import PubSub.Wire.Assembly
import PubSub.Wire.Guarded
import PubSub.Wire.Split
