import HeadEnd.Exchange.Service
import HeadEnd.Rehearsal.Holders
import HeadEnd.Rehearsal.World
import HeadEnd.Session.Log
import HeadEnd.Stored.Command
import HeadEnd.Proofs.Session.Operation
import HeadEnd.Proofs.Cipher.Aes
import HeadEnd.Proofs.Cipher.KeyWrap
import HeadEnd.Proofs.Key.State
import HeadEnd.Proofs.Exchange.Step
import HeadEnd.Proofs.Exchange.Site
import HeadEnd.Proofs.Exchange.Opening
import HeadEnd.Proofs.Exchange.Recovery
import HeadEnd.Proofs.Command.Quiet
import HeadEnd.Proofs.Key.Change
import HeadEnd.Proofs.Exchange.Renewal
import HeadEnd.Proofs.Command.Registry
import HeadEnd.Proofs.Exchange.LockOut
import HeadEnd.Proofs.Bundle.Resume
import HeadEnd.Proofs.Dialogue.History
import HeadEnd.Proofs.Session.History
import HeadEnd.Proofs.Key.Staging
import HeadEnd.Proofs.Key.Ambiguity
import HeadEnd.Proofs.Key.Timeline
import HeadEnd.Proofs.Exchange.Archive
import HeadEnd.Proofs.Command.Plain
import HeadEnd.Proofs.Command.Loss
import HeadEnd.Proofs.Cosem.Instant
import HeadEnd.Proofs.Profile.Meter
import HeadEnd.Proofs.Profile.SelectiveAccess
import HeadEnd.Proofs.Cosem.Deviation
import HeadEnd.Proofs.Command.Batching
import HeadEnd.Proofs.Exchange.Closing
import HeadEnd.Proofs.Locks
import HeadEnd.Proofs.Cosem.DateTime
import HeadEnd.Proofs.Command.Dispatch
import HeadEnd.Proofs.Time.Rfc3339
import HeadEnd.Proofs.Stored.Basic
import HeadEnd.Proofs.Stored.Request
import HeadEnd.Proofs.Stored.Bundle
import HeadEnd.Proofs.Clock.Synchronization
import HeadEnd.Proofs.Cosem.Offset
import HeadEnd.Proofs.Profile.Range
import HeadEnd.Proofs.ConfigurationObject
import HeadEnd.Proofs.Exchange.Establishment
import HeadEnd.Proofs.Cosem.Normalization
import HeadEnd.Proofs.Key.Edits
import HeadEnd.Proofs.Session.Reading
import HeadEnd.Proofs.ConfigurationObject.Requests
import HeadEnd.Proofs.Cosem.Reading
import HeadEnd.Proofs.Profile.Entries
import HeadEnd.Proofs.Profile.Buffer
import HeadEnd.Proofs.Alarm
import HeadEnd.Proofs.Decoding
import HeadEnd.Proofs.Push.Setup
import HeadEnd.Proofs.Positional.Catalogue
import HeadEnd.Proofs.Register.Scaled
import HeadEnd.Proofs.Cosem.ObisCode
import HeadEnd.Proofs.EventLog
import HeadEnd.Proofs.Clock.Configuration
import HeadEnd.Proofs.Tariff.SpecialDays
import HeadEnd.Proofs.Session.Steady
import HeadEnd.Proofs.Bundle.Independence
import HeadEnd.Proofs.Cosem.Description
import HeadEnd.Proofs.Association.Dump
