import ArcadiaRecommendation.Foundation.Dict
import ArcadiaRecommendation.Foundation.Program
import ArcadiaRecommendation.Foundation.Interleaving
import ArcadiaRecommendation.Foundation.Scalar
import ArcadiaRecommendation.Foundation.Text
import ArcadiaRecommendation.Foundation.LetterCase
import ArcadiaRecommendation.Foundation.Neighbours
import ArcadiaRecommendation.Memory.CoPurchases
import ArcadiaRecommendation.Sql.CoPurchases
import ArcadiaRecommendation.Properties.CoPurchases
import ArcadiaRecommendation.Domain.Shared
import ArcadiaRecommendation.Domain.Embedding
import ArcadiaRecommendation.Domain.GameProfile
import ArcadiaRecommendation.Domain.Preference
import ArcadiaRecommendation.Domain.Recommendation
import ArcadiaRecommendation.Domain.Scoring
import ArcadiaRecommendation.Application.Ports
import ArcadiaRecommendation.Application.Ingest
import ArcadiaRecommendation.Messaging.Record
import ArcadiaRecommendation.Memory.Store
import ArcadiaRecommendation.Messaging.Consumers
import ArcadiaRecommendation.Memory.Delivery
import ArcadiaRecommendation.Memory.ExactlyOnce
import ArcadiaRecommendation.Application.Generate
import ArcadiaRecommendation.Application.Serve
import ArcadiaRecommendation.Memory.Ingest
import ArcadiaRecommendation.ReadModel.Basic
import ArcadiaRecommendation.Memory.Refinement
import ArcadiaRecommendation.Memory.Sweep
import ArcadiaRecommendation.Memory.Service
import ArcadiaRecommendation.ReadModel.Steps
import ArcadiaRecommendation.ReadModel.History
import ArcadiaRecommendation.ReadModel.Credit
import ArcadiaRecommendation.Properties.Popularity
import ArcadiaRecommendation.Properties.Ownership
import ArcadiaRecommendation.Properties.Backfill
import ArcadiaRecommendation.Properties.Signals
import ArcadiaRecommendation.Properties.OrderIndependence
import ArcadiaRecommendation.Memory.Serve
import ArcadiaRecommendation.Properties.Serving
import ArcadiaRecommendation.Properties.TopSellers
import ArcadiaRecommendation.Memory.Agreement
import ArcadiaRecommendation.Properties.SweepFrame
import ArcadiaRecommendation.Foundation.IdentityMap
import ArcadiaRecommendation.Sql.Database
import ArcadiaRecommendation.Sql.Session
import ArcadiaRecommendation.Sql.Ingest
import ArcadiaRecommendation.Memory.Attempt
import ArcadiaRecommendation.Properties.StoredLists
import ArcadiaRecommendation.Properties.Mirror
import ArcadiaRecommendation.Memory.Refresh
import ArcadiaRecommendation.Properties.UserIndependence
import ArcadiaRecommendation.Adapters.Embedding
import ArcadiaRecommendation.Adapters.Explanation
import ArcadiaRecommendation.Memory.Enrichment
import ArcadiaRecommendation.Foundation.Paced
import ArcadiaRecommendation.Messaging.Outbox
import ArcadiaRecommendation.Properties.OutboxLifecycle
import ArcadiaRecommendation.Properties.Vectors
import ArcadiaRecommendation.Properties.Widths
import ArcadiaRecommendation.Properties.ColdUsers
import ArcadiaRecommendation.Properties.MalformedPayloads
import ArcadiaRecommendation.Properties.Gifts
import ArcadiaRecommendation.Properties.Reasons
import ArcadiaRecommendation.Properties.Explanations
import ArcadiaRecommendation.Properties.LikedGames
import ArcadiaRecommendation.Properties.FreshReads
import ArcadiaRecommendation.Properties.Labels
import ArcadiaRecommendation.Properties.Pooling
import ArcadiaRecommendation.Properties.PublicationOrder
import ArcadiaRecommendation.Messaging.Subscriber
import ArcadiaRecommendation.Properties.PoisonMessages
import ArcadiaRecommendation.Properties.InboundDelivery
import ArcadiaRecommendation.Foundation.Replacement
import ArcadiaRecommendation.Sql.Replicas
import ArcadiaRecommendation.Properties.MixedList
import ArcadiaRecommendation.Sql.Purchase
import ArcadiaRecommendation.Properties.Redelivery
import ArcadiaRecommendation.Foundation.Selection
import ArcadiaRecommendation.Properties.Ranking
import ArcadiaRecommendation.Properties.Rebuilding
import ArcadiaRecommendation.Foundation.Similarity
import ArcadiaRecommendation.Properties.Similarity
import ArcadiaRecommendation.Properties.Regeneration
import ArcadiaRecommendation.Properties.BoundedReads
import ArcadiaRecommendation.Messaging.Serialization
import ArcadiaRecommendation.Sql.Mapping
import ArcadiaRecommendation.Messaging.SharedOutbox
import ArcadiaRecommendation.Properties.DeadLetters
import ArcadiaRecommendation.Foundation.Simulation
import ArcadiaRecommendation.Foundation.StagedWrites
import ArcadiaRecommendation.Sql.Owners
import ArcadiaRecommendation.Sql.Simulation
import ArcadiaRecommendation.Sql.Enrichment
import ArcadiaRecommendation.Properties.Backends
import ArcadiaRecommendation.Application.SimilarGames
import ArcadiaRecommendation.Properties.SimilarGames
import ArcadiaRecommendation.Sql.NearestTo
import ArcadiaRecommendation.Properties.DenseRail
import ArcadiaRecommendation.Foundation.CacheAside
import ArcadiaRecommendation.Http.Responses
import ArcadiaRecommendation.Http.Identity
import ArcadiaRecommendation.Http.Routes
import ArcadiaRecommendation.Properties.CachedReads
import ArcadiaRecommendation.Properties.Access
import ArcadiaRecommendation.Foundation.PeriodicLoop
import ArcadiaRecommendation.Foundation.LoopRuns
import ArcadiaRecommendation.Foundation.LoopProgress
import ArcadiaRecommendation.Http.Lifespan
import ArcadiaRecommendation.Properties.Background
import ArcadiaRecommendation.Properties.Lifespan
import ArcadiaRecommendation.Foundation.Turns
import ArcadiaRecommendation.Properties.Starvation
import ArcadiaRecommendation.Foundation.Batches
import ArcadiaRecommendation.Properties.EmbeddingQueue
