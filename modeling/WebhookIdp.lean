import WebhookIdp.Subscription.Readable
import WebhookIdp.Subscription.Terminal
import WebhookIdp.Subscription.LostUpdate
import WebhookIdp.Subscription.Duplicate
import WebhookIdp.Subscription.Isolation
import WebhookIdp.Subscription.Listing
import WebhookIdp.Subscription.EventHistory
import WebhookIdp.Subscription.AllOrNothing
import WebhookIdp.Subscription.DeleteOnce
import WebhookIdp.Subscription.ReservedAddresses
import WebhookIdp.Subscription.MaskedWriteBack
import WebhookIdp.Inbox.FirstWriteWins
import WebhookIdp.Inbox.AckAfterPersist
import WebhookIdp.Inbox.StoredPayload
import WebhookIdp.Inbox.DistinctEvents
import WebhookIdp.Inbox.Shutdown
import WebhookIdp.Sandbox.Contract
import WebhookIdp.Subscription.Redaction
import WebhookIdp.Subscription.LoopbackName
import WebhookIdp.Subscription.Lifecycle
import WebhookIdp.Subscription.PageRange
import WebhookIdp.Subscription.FaithfulDouble
import WebhookIdp.Base.Alike
import WebhookIdp.Base.Commit
import WebhookIdp.Base.DataRefinement
import WebhookIdp.Base.WaitFree
import WebhookIdp.Inbox.Custody
import WebhookIdp.Inbox.StoredRecords
import WebhookIdp.Inbox.TestDouble
import WebhookIdp.Sandbox.Pipeline
import WebhookIdp.Subscription.Announced
import WebhookIdp.Subscription.Atomic
import WebhookIdp.Subscription.ListingDouble
import WebhookIdp.Subscription.Replies
import WebhookIdp.Subscription.Durable
