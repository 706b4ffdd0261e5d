import InferenceGateway.Agent.Abandonment
import InferenceGateway.Agent.Client
import InferenceGateway.Agent.Delivery
import InferenceGateway.Agent.Exchanges
import InferenceGateway.Agent.Execution
import InferenceGateway.Agent.Fleet
import InferenceGateway.Agent.Loop
import InferenceGateway.Agent.Moves
import InferenceGateway.Agent.Refinement
import InferenceGateway.Agent.Runner
import InferenceGateway.Agent.Scripts
import InferenceGateway.Agent.Session
import InferenceGateway.Agent.Sglang
import InferenceGateway.Agent.Verdicts
import InferenceGateway.Artifacts.Cleanup
import InferenceGateway.Artifacts.Paths
import InferenceGateway.Artifacts.Store
import InferenceGateway.Artifacts.Writers
import InferenceGateway.Auth
import InferenceGateway.Config
import InferenceGateway.Context
import InferenceGateway.Db.Jobs
import InferenceGateway.Db.Pods
import InferenceGateway.Db.Trail
import InferenceGateway.Domain.DerivedFrames
import InferenceGateway.Domain.Errors
import InferenceGateway.Domain.Filenames
import InferenceGateway.Domain.Inputs
import InferenceGateway.Domain.JpegHeaders
import InferenceGateway.Domain.Models
import InferenceGateway.Domain.Probe
import InferenceGateway.Domain.Serialize
import InferenceGateway.Domain.Signatures
import InferenceGateway.Domain.Sizing
import InferenceGateway.Domain.Types
import InferenceGateway.Gateway
import InferenceGateway.Library.Binary64
import InferenceGateway.Library.Buffer
import InferenceGateway.Library.FileSystem
import InferenceGateway.Library.LeaseQueue
import InferenceGateway.Library.Machine
import InferenceGateway.Library.PosixPath
import InferenceGateway.Library.Rounding
import InferenceGateway.Library.Table
import InferenceGateway.Routes.Agent
import InferenceGateway.Routes.Content
import InferenceGateway.Routes.Framing
import InferenceGateway.Routes.Health
import InferenceGateway.Routes.Input
import InferenceGateway.Routes.Listings
import InferenceGateway.Routes.Models
import InferenceGateway.Routes.Pods
import InferenceGateway.Routes.Preparation
import InferenceGateway.Routes.Videos
import InferenceGateway.Runs.Assignments
import InferenceGateway.Runs.Attempts
import InferenceGateway.Runs.Authority
import InferenceGateway.Runs.Cancels
import InferenceGateway.Runs.Capacity
import InferenceGateway.Runs.Ceiling
import InferenceGateway.Runs.Concurrency
import InferenceGateway.Runs.Consistency
import InferenceGateway.Runs.Containment
import InferenceGateway.Runs.Deliveries
import InferenceGateway.Runs.Disks
import InferenceGateway.Runs.Earned
import InferenceGateway.Runs.Effects
import InferenceGateway.Runs.Expiry
import InferenceGateway.Runs.Fencing
import InferenceGateway.Runs.Fleets
import InferenceGateway.Runs.Freshness
import InferenceGateway.Runs.Gating
import InferenceGateway.Runs.Handlers
import InferenceGateway.Runs.Honesty
import InferenceGateway.Runs.InputFiles
import InferenceGateway.Runs.Inputs
import InferenceGateway.Runs.Leases
import InferenceGateway.Runs.Leasing
import InferenceGateway.Runs.Liveness
import InferenceGateway.Runs.Media
import InferenceGateway.Runs.Notices
import InferenceGateway.Runs.Pacing
import InferenceGateway.Runs.PartFiles
import InferenceGateway.Runs.Polls
import InferenceGateway.Runs.QueueOrder
import InferenceGateway.Runs.Registry
import InferenceGateway.Runs.Renewals
import InferenceGateway.Runs.RowSteps
import InferenceGateway.Runs.Rows
import InferenceGateway.Runs.Served
import InferenceGateway.Runs.Sessions
import InferenceGateway.Runs.Tasks
import InferenceGateway.Runs.Tickets
import InferenceGateway.Runs.Trails
import InferenceGateway.Runs.Turns
import InferenceGateway.Runs.Views
import InferenceGateway.Runs.Waits
import InferenceGateway.Runs.Wakeups
import InferenceGateway.Runs.Workloads
import InferenceGateway.Scheduler.Claim
import InferenceGateway.Scheduler.Claimed
import InferenceGateway.Scheduler.ParkingLot
import InferenceGateway.Scheduler.Reaper
import InferenceGateway.Scheduler.Settling
import InferenceGateway.Scheduler.SweepRule
import InferenceGateway.Scheduler.Tallies
import InferenceGateway.Scheduler.Waiters
import InferenceGateway.Service
