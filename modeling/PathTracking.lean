import PathTracking.Main
import PathTracking.Proofs.CommandLine.Ending
import PathTracking.Proofs.Exact.Crossing
import PathTracking.Proofs.Exact.DefaultStart
import PathTracking.Proofs.Exact.Frame
import PathTracking.Proofs.Exact.Guards
import PathTracking.Proofs.Exact.Steering
import PathTracking.Proofs.Exact.SteeringLimit
import PathTracking.Proofs.Follower.Holding
import PathTracking.Proofs.Follower.Republishing
import PathTracking.Proofs.Follower.Restart
import PathTracking.Proofs.Follower.Resumption
import PathTracking.Proofs.Route.Columns
import PathTracking.Proofs.Route.Comments
import PathTracking.Proofs.Route.Heading
import PathTracking.Proofs.Route.Listing
import PathTracking.Proofs.Route.Numbering
import PathTracking.Proofs.Route.Plan
import PathTracking.Proofs.Settings.Layers
import PathTracking.Proofs.Simulation.Arrival
import PathTracking.Proofs.Simulation.Course
import PathTracking.Proofs.Simulation.Progress
import PathTracking.Proofs.Tracking.Faults
import PathTracking.Proofs.Tracking.History
import PathTracking.Proofs.Tracking.Result
import PathTracking.Proofs.Tracking.Search
import PathTracking.Proofs.Tracking.Stretch
