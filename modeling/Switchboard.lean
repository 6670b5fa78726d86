import Switchboard.Events.Frames
import Switchboard.Events.Serving
import Switchboard.Events.Upgrade
import Switchboard.Net.Lifecycle
import Switchboard.Net.Listener
import Switchboard.Proofs.Events.Broadcast
import Switchboard.Proofs.Events.Replies
import Switchboard.Proofs.Events.Runs
import Switchboard.Proofs.Events.SessionRuns
import Switchboard.Proofs.Events.Teardown
import Switchboard.Proofs.Net.Stopping
import Switchboard.Proofs.Route.Captures
import Switchboard.Proofs.Route.Patterns
import Switchboard.Proofs.Route.Radix
import Switchboard.Proofs.Route.Refusal
import Switchboard.Proofs.Route.Reordering
import Switchboard.Proofs.Web.Accounting
import Switchboard.Proofs.Web.Chains
import Switchboard.Proofs.Web.Clearing
import Switchboard.Proofs.Web.Disclosure
import Switchboard.Proofs.Web.Dispositions
import Switchboard.Proofs.Web.EnvelopeRoutes
import Switchboard.Proofs.Web.ListSpellings
import Switchboard.Proofs.Web.Naming
import Switchboard.Proofs.Web.Pooling
import Switchboard.Proofs.Web.Precedence
import Switchboard.Proofs.Web.Refusals
import Switchboard.Proofs.Web.Remembering
import Switchboard.Proofs.Web.RequestIds
import Switchboard.Proofs.Web.Standing
import Switchboard.Proofs.Web.StaticFiles
import Switchboard.Proofs.Web.Uploads
