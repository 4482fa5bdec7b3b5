import FleetConsole.Coordinate.Rational
import FleetConsole.Console.Operation
import FleetConsole.Main
import FleetConsole.Proofs.Act
import FleetConsole.Proofs.Effect
import FleetConsole.Proofs.Coherence
import FleetConsole.Proofs.Trajectory
import FleetConsole.Proofs.Lock
import FleetConsole.Proofs.Deferral
import FleetConsole.Proofs.Report
import FleetConsole.Proofs.Turn
import FleetConsole.Proofs.Counters
import FleetConsole.Proofs.Latest
import FleetConsole.Proofs.Story
import FleetConsole.Proofs.Command
import FleetConsole.Proofs.Acknowledgement
import FleetConsole.Proofs.Duration
import FleetConsole.Proofs.OneFeed
import FleetConsole.Proofs.Joining
import FleetConsole.Proofs.Nesting
import FleetConsole.Proofs.Members
import FleetConsole.Proofs.Fields
import FleetConsole.Proofs.NumberLiteral
import FleetConsole.Proofs.Record
import FleetConsole.Proofs.DroneIndex
import FleetConsole.Proofs.OpenRecord
import FleetConsole.Proofs.NamedDrone
import FleetConsole.Console.Attempt
import FleetConsole.Proofs.Rejection
import FleetConsole.Proofs.RunEvents
import FleetConsole.Proofs.Schedule
import FleetConsole.Proofs.Delivery
import FleetConsole.Proofs.Arrival
import FleetConsole.Proofs.Framing
import FleetConsole.Proofs.LastWrite
import FleetConsole.Proofs.Commit
import FleetConsole.Proofs.Closure
import FleetConsole.Proofs.Maneuver
import FleetConsole.Proofs.Landing
