import Compositor.Json.Records
import Compositor.Main
import Compositor.Scheduler.Basic
import Compositor.Proofs.Driver.Effect
import Compositor.Proofs.Driver.Judging
import Compositor.Proofs.Buffer.Blueprint
import Compositor.Proofs.Buffer.Ensuring
import Compositor.Proofs.Buffer.Layout
import Compositor.Proofs.Buffer.Serving
import Compositor.Proofs.Buffer.Forecast
import Compositor.Proofs.Buffer.Verdict
import Compositor.Proofs.Buffer.Exchange
import Compositor.Proofs.Canvas.Drawing
import Compositor.Proofs.Canvas.Presenting
import Compositor.Proofs.Canvas.Representation
import Compositor.Proofs.Surface.Ledger
import Compositor.Proofs.Surface.Presenting
import Compositor.Proofs.Surface.Fitting
import Compositor.Proofs.Surface.Teardown
import Compositor.Proofs.Surface.Retaining
import Compositor.Proofs.Surface.Interleaving
import Compositor.Proofs.Surface.Pacing
import Compositor.Proofs.Surface.Drawing
import Compositor.Proofs.Canvas.Reading
import Compositor.Proofs.Surface.Reading
import Compositor.Proofs.Canvas.Obliging
import Compositor.Proofs.Canvas.Phasing
import Compositor.Proofs.Canvas.Mooring
import Compositor.Proofs.Surface.Mooring
import Compositor.Proofs.Scheduler.Gating
import Compositor.Proofs.Program.Bookkeeping
import Compositor.Proofs.Program.Readiness
import Compositor.Proofs.Settings.RoundTrip
import Compositor.Proofs.Command.Frames
import Compositor.Proofs.Canvas.Tracing
import Compositor.Proofs.Surface.Tallying
import Compositor.Proofs.Settings.Deciding
import Compositor.Proofs.Device.Ledger
import Compositor.Proofs.Device.Attaching
import Compositor.Proofs.Device.Writing
import Compositor.Proofs.Device.Dangling
import Compositor.Proofs.Surface.Sampling
import Compositor.Proofs.Settings.Describing
