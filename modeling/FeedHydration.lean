import FeedHydration.Distinct
import FeedHydration.Feed.Assembly
import FeedHydration.Feed.Rules
import FeedHydration.Hydration.Page
import FeedHydration.Identity.Resolution
import FeedHydration.Index.Fetch
import FeedHydration.Json.Printer
import FeedHydration.Label.Set
import FeedHydration.Skeleton.Request
import FeedHydration.Url.Form
import FeedHydration.View.Display
import FeedHydration.Proofs.Gives
import FeedHydration.Proofs.Lookup
import FeedHydration.Proofs.Relationship
import FeedHydration.Proofs.Load
import FeedHydration.Proofs.Display
import FeedHydration.Proofs.Embed
import FeedHydration.Proofs.Hydration
import FeedHydration.Proofs.Batch
import FeedHydration.Proofs.Block
import FeedHydration.Proofs.Moderation
import FeedHydration.Proofs.Influence
import FeedHydration.Proofs.Graph
import FeedHydration.Proofs.Horizon
import FeedHydration.Proofs.Privacy
import FeedHydration.Proofs.Outage
import FeedHydration.Proofs.EmbedOutage
import FeedHydration.Proofs.Known
import FeedHydration.Proofs.Partition
import FeedHydration.Proofs.PageOutage
import FeedHydration.Proofs.Accounting
import FeedHydration.Proofs.Attribution
import FeedHydration.Proofs.Rules
import FeedHydration.Proofs.Plan
import FeedHydration.Proofs.Labelling
import FeedHydration.Proofs.Gate
import FeedHydration.Proofs.GivingUp
import FeedHydration.Proofs.Forwarding
import FeedHydration.Proofs.Reply
import FeedHydration.Proofs.Canonical
import FeedHydration.Proofs.Grammar
import FeedHydration.Proofs.Record
import FeedHydration.Proofs.Instant
import FeedHydration.Proofs.Wire
import FeedHydration.Proofs.Document
import FeedHydration.Proofs.Skeleton
import FeedHydration.Proofs.Passthrough
import FeedHydration.Proofs.RowOrder
import FeedHydration.Proofs.Standing
import FeedHydration.Proofs.EmbedContent
import FeedHydration.Proofs.ReplyContext
import FeedHydration.Proofs.Mirror
import FeedHydration.Proofs.Verdict
import FeedHydration.Proofs.Settlement
import FeedHydration.Proofs.ExactLoad
import FeedHydration.Proofs.MergedLabels
import FeedHydration.Proofs.Parts
import FeedHydration.Proofs.ShownEmbed
import FeedHydration.Proofs.OpenRecord
import FeedHydration.Proofs.DidDocument
import FeedHydration.Proofs.Address
import FeedHydration.Proofs.Endpoint
import FeedHydration.Proofs.Fault
import FeedHydration.Proofs.Truncation
import FeedHydration.Proofs.Image
import FeedHydration.Proofs.DomainName
