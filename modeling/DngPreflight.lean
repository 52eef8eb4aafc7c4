import DngPreflight.Text.Basic
import DngPreflight.Text.Numeral
import DngPreflight.Text.Float
import DngPreflight.Text.Message
import DngPreflight.Text.Template
import DngPreflight.Net.Network
import DngPreflight.Net.Notation
import DngPreflight.Codec.Tree
import DngPreflight.Codec.Record
import DngPreflight.Codec.Json
import DngPreflight.Dialogue.Run
import DngPreflight.Store.FileSystem
import DngPreflight.PacketFilter.Policy
import DngPreflight.PacketFilter.Ufw
import DngPreflight.PacketFilter.Firewalld
import DngPreflight.Gate.Basic
import DngPreflight.Shell.Lexer
import DngPreflight.Shell.Commands
import DngPreflight.Models.Snapshot
import DngPreflight.Models.Answers
import DngPreflight.Models.Config
import DngPreflight.Models.Factories
import DngPreflight.Models.Serialization
import DngPreflight.Validation.HardStops
import DngPreflight.Validation.Overrides
import DngPreflight.Interview.Questions
import DngPreflight.Interview.Engine
import DngPreflight.Interview.Coherence
import DngPreflight.Generators.Filters
import DngPreflight.Generators.ScriptedConfig
import DngPreflight.Generators.DnsRecords
import DngPreflight.Generators.Installer
import DngPreflight.Generators.Runbook
import DngPreflight.Generators.FirewallRules
import DngPreflight.Generators.FirewallPolicy
import DngPreflight.Validation.Totality
import DngPreflight.Generators.RecordSets
import DngPreflight.Generators.SeedEntries
import DngPreflight.Generators.FirewallEquivalence
import DngPreflight.Text.Lines
import DngPreflight.PacketFilter.Iptables
import DngPreflight.Discovery.Command
import DngPreflight.Discovery.Firewall
import DngPreflight.Shell.Grep
import DngPreflight.Discovery.DomainJoined
import DngPreflight.Timing.Timed
import DngPreflight.Discovery.Collect
import DngPreflight.Yaml.Scalar
import DngPreflight.Yaml.Block
import DngPreflight.Generators.ConfigReading
import DngPreflight.Generators.ConfigRecovery
import DngPreflight.Shell.Script
import DngPreflight.Store.Install
import DngPreflight.Generators.InstallerRuns
import DngPreflight.Generators.UfwPolicy
import DngPreflight.Discovery.FirewallChain
import DngPreflight.Text.Infix
import DngPreflight.Discovery.TimeSync
import DngPreflight.Order.Padded
import DngPreflight.Validation.Version
import DngPreflight.Dialogue.Trace
import DngPreflight.Generators.RecordNames
import DngPreflight.Generators.Zone
import DngPreflight.Codec.FixedPoint
import DngPreflight.Discovery.NtpOffset
import DngPreflight.Discovery.EgressAddress
import DngPreflight.Discovery.OptionalProbe
import DngPreflight.Codec.CodePoint
import DngPreflight.Yaml.DoubleQuoted
import DngPreflight.Models.SnapshotText
import DngPreflight.Yaml.Lines
import DngPreflight.Generators.Embedding
import DngPreflight.Discovery.RealmSections
import DngPreflight.Cli
import DngPreflight.Generators.AnswersShown
import DngPreflight.Generators.FirewallHistory
import DngPreflight.Cli.Pipeline
import DngPreflight.Cli.History
import DngPreflight.Cli.Advice
import DngPreflight.Text.Count
import DngPreflight.Net.Masked
import DngPreflight.Dialogue.Prompt
import DngPreflight.Interview.Terminal
import DngPreflight.Interview.Failures
import DngPreflight.Timing.TaskGroup
import DngPreflight.Discovery.Machine
import DngPreflight.Discovery.Aggregator
import DngPreflight.Validation.MachineGate
import DngPreflight.Cli.Terminal
import DngPreflight.Generators.DnsJson
import DngPreflight.Generators.InstallerMachine
import DngPreflight.Generators.FirewallMachine
import DngPreflight.Cli.Interrupted
