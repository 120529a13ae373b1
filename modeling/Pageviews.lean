import Pageviews.Http.Service
import Pageviews.Main
import Pageviews.Startup
import Pageviews.Store.Session
import Pageviews.Writer.Notice
import Pageviews.Proofs.Writer.Path
import Pageviews.Proofs.Writer.Frame
import Pageviews.Proofs.Writer.Ledger
import Pageviews.Proofs.Writer.Producers
import Pageviews.Proofs.Writer.Slots
import Pageviews.Proofs.Writer.FailStop
import Pageviews.Proofs.Writer.Drain
import Pageviews.Proofs.Writer.Batching
import Pageviews.Proofs.Writer.OnTime
import Pageviews.Proofs.Http.Recording
import Pageviews.Proofs.Writer.Backpressure
import Pageviews.Proofs.Domain.Canonical
import Pageviews.Proofs.Domain.Spelling
import Pageviews.Proofs.Domain.Shape
import Pageviews.Proofs.Domain.LetterCase
import Pageviews.Proofs.Event.OwnSite
import Pageviews.Proofs.Url.Address
import Pageviews.Proofs.Event.HostAndPath
import Pageviews.Proofs.Json.Records
import Pageviews.Proofs.Writer.Offer
import Pageviews.Proofs.Http.Faults
import Pageviews.Proofs.Http.Decision
import Pageviews.Proofs.Writer.Acknowledgement
import Pageviews.Proofs.Writer.Turns
import Pageviews.Proofs.Writer.Batches
import Pageviews.Proofs.Writer.Age
import Pageviews.Proofs.Writer.Packing
import Pageviews.Proofs.Config.Reading
import Pageviews.Proofs.Writer.Departure
import Pageviews.Proofs.Writer.Leaving
import Pageviews.Proofs.Writer.Patience
import Pageviews.Proofs.Writer.Settling
import Pageviews.Proofs.Domain.HostName
import Pageviews.Proofs.Store.Transcript
import Pageviews.Proofs.Store.BatchLog
import Pageviews.Proofs.Writer.Accounts
import Pageviews.Proofs.Writer.Causes
import Pageviews.Proofs.Http.Interference
import Pageviews.Proofs.Config.Acceptance
import Pageviews.Proofs.Config.Secrecy
import Pageviews.Proofs.Registry.Entries
import Pageviews.Proofs.Registry.Lists
import Pageviews.Proofs.Event.Origin
import Pageviews.Proofs.Store.Waiting
import Pageviews.Proofs.Client.Json
import Pageviews.Proofs.Domain.Json
import Pageviews.Proofs.Http.Files
import Pageviews.Proofs.Client.Family
import Pageviews.Proofs.Client.Apple
import Pageviews.Proofs.Client.Model
