import IceTcp.Demux.Intake
import IceTcp.Main
import IceTcp.Proofs.Codec.Agreement
import IceTcp.Proofs.Codec.Stability
import IceTcp.Proofs.Config.Writing
import IceTcp.Proofs.Demux.Access
import IceTcp.Proofs.Demux.Bounds
import IceTcp.Proofs.Demux.Detection
import IceTcp.Proofs.Demux.Emitted
import IceTcp.Proofs.Demux.Failure
import IceTcp.Proofs.Demux.Language
import IceTcp.Proofs.Demux.PolicyIndependence
import IceTcp.Proofs.Demux.Recognition
import IceTcp.Proofs.Server.BufferGuard
import IceTcp.Proofs.Server.Delivery
import IceTcp.Proofs.Server.Patience
import IceTcp.Proofs.Server.Projection
import IceTcp.Proofs.Server.Steady
