import SyntheticMarket.Parts
import SyntheticMarket.Server.Reply
import SyntheticMarket.Server.Stream
import SyntheticMarket.Proofs.Session.Timetable
import SyntheticMarket.Proofs.Session.Follower
import SyntheticMarket.Proofs.Session.Batch
import SyntheticMarket.Proofs.Session.AtRest
import SyntheticMarket.Proofs.Bus.Books
import SyntheticMarket.Proofs.Bus.Topics
import SyntheticMarket.Proofs.Registry.Isolation
import SyntheticMarket.Proofs.Broadcast.Delivery
import SyntheticMarket.Proofs.Session.Lockstep
import SyntheticMarket.Proofs.Chart.Multiples
import SyntheticMarket.Proofs.Chart.Buckets
import SyntheticMarket.Proofs.Chart.Bars
import SyntheticMarket.Proofs.Simulation.Lifecycle
import SyntheticMarket.Proofs.Simulation.Restart
import SyntheticMarket.Proofs.Session.CatchUp
import SyntheticMarket.Proofs.Timeframe
import SyntheticMarket.Proofs.Subscription
import SyntheticMarket.Proofs.Chart.Agreement
import SyntheticMarket.Proofs.Registry.Bureau
import SyntheticMarket.Proofs.Resumption
import SyntheticMarket.Proofs.Broadcast.Breakdown
import SyntheticMarket.Proofs.Broadcast.Shutdown
import SyntheticMarket.Proofs.Registry.Shutdown
import SyntheticMarket.Proofs.Server.Course
import SyntheticMarket.Proofs.Server.Windows
import SyntheticMarket.Proofs.Session.Summary
import SyntheticMarket.Proofs.Server.Addresses
import SyntheticMarket.Proofs.Server.Search
import SyntheticMarket.Proofs.Geometry
import SyntheticMarket.Proofs.Noise
import SyntheticMarket.Proofs.Symbol
import SyntheticMarket.Proofs.Wire
