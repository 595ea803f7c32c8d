import Stitch.P2P.NetworkConvergence
import Stitch.P2P.Admission
import Stitch.P2P.DocumentStore
import Stitch.P2P.RefusedWrites
import Stitch.P2P.MembershipProof
import Stitch.Client.QueueAccounting
import Stitch.Client.UpdateOrder
import Stitch.Transport.AcceptRouting
import Stitch.P2P.PairingAgreement
import Stitch.Client.OvertakenUpdate
import Stitch.Client.UserIsolation
import Stitch.P2P.DecoderReservations
import Stitch.P2P.RecordEvaluation
import Stitch.P2P.EventStream
import Stitch.Client.ConcurrentUpdates
import Stitch.Client.PhantomRows
import Stitch.Client.ReplayOrder
import Stitch.Client.StoredVersions
import Stitch.Client.ServerAdoption
import Stitch.Client.RootResync
import Stitch.Client.Batching
import Stitch.Client.ChangeTokens
import Stitch.Client.Listing
import Stitch.Transport.BindingResponse
import Stitch.Transport.RelayMaintenance
import Stitch.Transport.PeerLeases
import Stitch.Transport.ReceivedPaths
import Stitch.Client.Logout
