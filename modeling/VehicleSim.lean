import VehicleSim.Region.Server
import VehicleSim.Settings.Text
import VehicleSim.Proofs.Schedule.Settled
import VehicleSim.Proofs.Vehicle.Conduct
import VehicleSim.Proofs.Drive.Script
import VehicleSim.Proofs.Vehicle.Traffic
import VehicleSim.Proofs.Number.Order
import VehicleSim.Proofs.Vehicle.Runs
import VehicleSim.Proofs.Drive.Division
import VehicleSim.Proofs.Vehicle.Bounds
import VehicleSim.Proofs.Drive.Stale
import VehicleSim.Proofs.Vehicle.Restart
import VehicleSim.Proofs.World.Roster
import VehicleSim.Proofs.World.Stages
import VehicleSim.Proofs.World.History
import VehicleSim.Proofs.Body.Access
import VehicleSim.Proofs.Body.Mirror
import VehicleSim.Proofs.Region.Consistent
import VehicleSim.Proofs.Region.Incident
import VehicleSim.Proofs.Region.Delivery
import VehicleSim.Proofs.World.Subscription
import VehicleSim.Proofs.Body.Burden
import VehicleSim.Proofs.World.Gravity
import VehicleSim.Proofs.World.Share
import VehicleSim.Proofs.World.Independence
import VehicleSim.Proofs.World.Isolation
import VehicleSim.Proofs.Number.Magnitude
import VehicleSim.Proofs.World.Reports
import VehicleSim.Proofs.World.Runaway
import VehicleSim.Proofs.World.Forces
import VehicleSim.Proofs.Region.Broadcast
import VehicleSim.Proofs.Json.Writing
import VehicleSim.Proofs.Number.ReadBack
import VehicleSim.Proofs.Json.Decimals
import VehicleSim.Proofs.Region.SnapshotText
import VehicleSim.Proofs.Region.Snapshot
import VehicleSim.Proofs.Number.Exact
import VehicleSim.Proofs.Space.Axes
import VehicleSim.Proofs.Body.Survey
import VehicleSim.Proofs.Drive.Blocking
import VehicleSim.Proofs.Drive.Hover
import VehicleSim.Proofs.Drive.Weight
import VehicleSim.Proofs.Vehicle.HoverLock
import VehicleSim.Proofs.Vehicle.Settling
import VehicleSim.Proofs.Terrain.Interpolant
import VehicleSim.Proofs.Drive.HoverEffect
import VehicleSim.Proofs.Drive.ClimbLimit
import VehicleSim.Proofs.Vehicle.Reached
import VehicleSim.Proofs.Terrain.Stored
import VehicleSim.Proofs.Terrain.Surface
import VehicleSim.Proofs.Space.Rotation
import VehicleSim.Proofs.Drive.Steady
import VehicleSim.Proofs.Drive.SpeedLimit
import VehicleSim.Proofs.Vehicle.FinalVelocity
import VehicleSim.Proofs.Vehicle.NoFlight
import VehicleSim.Proofs.Drive.Deflection
import VehicleSim.Proofs.Number.Scale
import VehicleSim.Proofs.Number.Extent
import VehicleSim.Proofs.Space.Normal
import VehicleSim.Proofs.World.Frames
import VehicleSim.Proofs.Vehicle.Decay
import VehicleSim.Proofs.Drive.RollLimit
import VehicleSim.Proofs.Vehicle.EngineGravity
import VehicleSim.Proofs.Json.Grammar
import VehicleSim.Proofs.Json.Tokens
import VehicleSim.Proofs.Json.Reading
import VehicleSim.Proofs.Number.Word
import VehicleSim.Proofs.Json.Fields
import VehicleSim.Proofs.Region.Decoding
import VehicleSim.Proofs.Region.Acceptance
import VehicleSim.Proofs.Drive.Heading
import VehicleSim.Proofs.Number.Equal
import VehicleSim.Proofs.Body.Memo
import VehicleSim.Proofs.Region.Welcome
import VehicleSim.Proofs.Json.Overlay
import VehicleSim.Proofs.Settings.Overlay
import VehicleSim.Proofs.History.Lineup
import VehicleSim.Proofs.Schedule.Calls
import VehicleSim.Proofs.Vehicle.FlagHistory
import VehicleSim.Proofs.Drive.FrameConversion
