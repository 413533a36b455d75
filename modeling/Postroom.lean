import Postroom.Address
import Postroom.Catalogue
import Postroom.Chain
import Postroom.ConfigError
import Postroom.Configuration
import Postroom.Content
import Postroom.Content.EncodedWord
import Postroom.Content.HeaderBlock
import Postroom.Date
import Postroom.Disk
import Postroom.Disk.Path
import Postroom.Domain
import Postroom.Ingress
import Postroom.Instant
import Postroom.IpAddress
import Postroom.Mail
import Postroom.Mail.Attribute
import Postroom.Mail.Change
import Postroom.MailId
import Postroom.Mailet
import Postroom.Mailet.Bounce
import Postroom.Mailet.Builtin
import Postroom.Mailet.LocalDelivery
import Postroom.Main
import Postroom.Matcher
import Postroom.Matcher.Builtin
import Postroom.Matcher.Expression
import Postroom.Proofs.Chain.Accounts
import Postroom.Proofs.Chain.Conservation
import Postroom.Proofs.Chain.History
import Postroom.Proofs.Chain.Invariant
import Postroom.Proofs.Chain.Step
import Postroom.Proofs.Mailet.Builtin
import Postroom.Proofs.Mailet.Conduct
import Postroom.Proofs.Mailet.Delivery
import Postroom.Proofs.Queue.Abstraction
import Postroom.Proofs.Queue.Census
import Postroom.Proofs.Queue.Consistency
import Postroom.Proofs.Queue.Custody
import Postroom.Proofs.Queue.Durability
import Postroom.Proofs.Queue.Interleaving
import Postroom.Proofs.Queue.Outcomes
import Postroom.Proofs.Queue.Plain
import Postroom.Proofs.Queue.Recovery
import Postroom.Proofs.Queue.Refinement
import Postroom.Proofs.Queue.Run
import Postroom.Proofs.Queue.Stale
import Postroom.Proofs.Queue.Tracked
import Postroom.Proofs.Record.RoundTrip
import Postroom.Proofs.Record.WireRoundTrip
import Postroom.Proofs.Registry.Accounting
import Postroom.Proofs.Registry.Routing
import Postroom.Proofs.Registry.Soundness
import Postroom.Proofs.Spooler.Accounting
import Postroom.Proofs.Spooler.AtLeastOnce
import Postroom.Proofs.Spooler.Handover
import Postroom.Proofs.Spooler.Operation
import Postroom.Proofs.Spooler.Rollback
import Postroom.Proofs.Spooler.Shadow
import Postroom.Proofs.Store.Faults
import Postroom.Proofs.Store.Laws
import Postroom.Queue
import Postroom.Queue.Consumer
import Postroom.Queue.Error
import Postroom.Queue.Tracking
import Postroom.Record.Codec
import Postroom.Record.Key
import Postroom.Record.Wire
import Postroom.Registry
import Postroom.Rehearsal.Component
import Postroom.Rehearsal.Label
import Postroom.Rehearsal.Session
import Postroom.Ron.Literal
import Postroom.Ron.Reader
import Postroom.Ron.Value
import Postroom.Server
import Postroom.Spool
import Postroom.Spooler
import Postroom.Store
import Postroom.Store.Directory
import Postroom.Store.Faulty
import Postroom.Store.Memory
import Postroom.Store.Vault
import Postroom.Text.Blank
import Postroom.Text.Charset
import Postroom.Text.Charset.Big5
import Postroom.Text.Charset.Gb18030
import Postroom.Text.Charset.Japanese
import Postroom.Text.Charset.Jis
import Postroom.Text.Charset.Korean
import Postroom.Text.Charset.SingleByte
import Postroom.Text.Charset.Span
import Postroom.Text.Charset.Utf16
import Postroom.Text.Charset.Utf7
import Postroom.Text.Cut
import Postroom.Text.Decoding
import Postroom.Text.Name
import Postroom.Text.Numeral
import Postroom.Text.Plain
import Postroom.Text.Positional
import Postroom.Text.Quoted
import Postroom.Text.TransferCoding
import Postroom.Text.Utf8
import Postroom.Proofs.Spooler.Operation
import Postroom.Proofs.Spooler.Accounting
import Postroom.Proofs.Queue.Retention
import Postroom.Proofs.Queue.Exclusivity
import Postroom.Proofs.Record.Fidelity
import Postroom.Proofs.Record.FileName
import Postroom.Proofs.Store.Folder
import Postroom.Proofs.Store.Crash
import Postroom.Proofs.Store.Pairs
import Postroom.Proofs.Store.Atomicity
import Postroom.Proofs.Chain.Visits
import Postroom.Proofs.Chain.Sweep
import Postroom.Proofs.Chain.Failure
import Postroom.Proofs.Registry.Failure
import Postroom.Proofs.Matcher.Builtin
import Postroom.Proofs.Matcher.Individual
import Postroom.Proofs.Mailet.Individual
import Postroom.Proofs.Chain.Individual
import Postroom.Proofs.Chain.Independence
import Postroom.Proofs.Queue.Precedence
import Postroom.Proofs.Queue.Reenqueue
import Postroom.Proofs.Chain.Steady
import Postroom.Proofs.Registry.Partition
import Postroom.Proofs.Store.Removal
import Postroom.Proofs.Store.Agreement
import Postroom.Proofs.Chain.Notification
import Postroom.Proofs.Registry.Notification
import Postroom.Proofs.Spooler.Notification
import Postroom.Proofs.Record.Spelling
import Postroom.Proofs.Record.NameOrder
import Postroom.Proofs.Store.Listing
import Postroom.Proofs.Chain.Resumption
import Postroom.Proofs.Store.Separation
import Postroom.Proofs.Store.Quarantine
import Postroom.Proofs.Store.Absence
import Postroom.Proofs.Queue.Order
import Postroom.Proofs.Queue.Passing
import Postroom.Proofs.Queue.Unreadable
import Postroom.Proofs.Queue.Starvation
import Postroom.Proofs.Content.Block
import Postroom.Proofs.Mailet.Quotation
import Postroom.Proofs.Mailet.Ledger
import Postroom.Proofs.Matcher.Condition
import Postroom.Proofs.Matcher.Grammar
import Postroom.Proofs.Matcher.Meaning
import Postroom.Proofs.Registry.Report
import Postroom.Proofs.Address.RoundTrip
import Postroom.Proofs.Date
import Postroom.Proofs.Mailet.Groups
import Postroom.Proofs.Mailet.Mailbox
import Postroom.Proofs.Mailet.Reply
import Postroom.Proofs.Spooler.Survival
import Postroom.Proofs.Text.Case
import Postroom.Proofs.Text.Cut
import Postroom.Proofs.Text.Lines
import Postroom.Proofs.Address.ReversePath
import Postroom.Proofs.Content.Prepending
import Postroom.Proofs.Mailet.Header
import Postroom.Proofs.Queue.Room
import Postroom.Proofs.Text.Bytes
import Postroom.Proofs.Queue.Schedule
import Postroom.Proofs.Queue.Patience
import Postroom.Proofs.Record.Torn
import Postroom.Proofs.Disk.Path
import Postroom.Proofs.Ron.Reading
import Postroom.Proofs.Ron.Yields
import Postroom.Proofs.Configuration.Home
import Postroom.Proofs.Queue.Owed
import Postroom.Proofs.Configuration.Tables
