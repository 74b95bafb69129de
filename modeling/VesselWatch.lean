import VesselWatch.Config
import VesselWatch.Track.Source
import VesselWatch.Rule.Document
import VesselWatch.Dispatch.Processor
import VesselWatch.Rule.Folder
import VesselWatch.Engine.Barrier
import VesselWatch.Track.Library
import VesselWatch.Main
import VesselWatch.Proofs.Engine.WellFormed
import VesselWatch.Proofs.Engine.Update
import VesselWatch.Proofs.Engine.Broadcast
import VesselWatch.Proofs.Engine.Exclusive
import VesselWatch.Proofs.Engine.Reachable
import VesselWatch.Proofs.Engine.History
import VesselWatch.Proofs.Rule.Window
import VesselWatch.Proofs.Engine.Stale
import VesselWatch.Proofs.Rule.Sliding
import VesselWatch.Proofs.Rule.Fault
import VesselWatch.Proofs.Rule.Sighting
import VesselWatch.Proofs.Rule.Folder
import VesselWatch.Proofs.Rule.Document
import VesselWatch.Proofs.Engine.Reload
import VesselWatch.Proofs.Decimal.Finite
import VesselWatch.Proofs.Node
import VesselWatch.Proofs.Json.Reader
import VesselWatch.Proofs.Rule.Written
import VesselWatch.Proofs.Rule.ReadBack
import VesselWatch.Proofs.Dispatch.Processor
import VesselWatch.Proofs.Program
import VesselWatch.Proofs.Dispatch.Lines
import VesselWatch.Proofs.Engine.Agreement
import VesselWatch.Proofs.Engine.Barrier
import VesselWatch.Proofs.Engine.Crowd
import VesselWatch.Proofs.Track.Requests
import VesselWatch.Proofs.Engine.Suppression
import VesselWatch.Proofs.Dispatch.Reports
import VesselWatch.Proofs.Engine.Ties
import VesselWatch.Proofs.Rule.Report
import VesselWatch.Proofs.Rule.Precedence
import VesselWatch.Proofs.Track.Prediction
import VesselWatch.Proofs.Track.Stages
import VesselWatch.Proofs.Track.Verdict
import VesselWatch.Proofs.Track.Document
import VesselWatch.Proofs.Track.Folder
import VesselWatch.Proofs.Track.StateKey
import VesselWatch.Proofs.Rule.Compare
import VesselWatch.Proofs.Rule.Unusual
import VesselWatch.Proofs.Geo.Ring
import VesselWatch.Proofs.Rule.OutOfSight
import VesselWatch.Proofs.Rule.Duration
