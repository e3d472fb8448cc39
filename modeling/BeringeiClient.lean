import BeringeiClient.Types
import BeringeiClient.NetworkClient
import BeringeiClient.Read.GetWithClient
import BeringeiClient.Read.Get
import BeringeiClient.Write.Worker
import BeringeiClient.Write.Interleaving
import BeringeiClient.Write.Shutdown
import BeringeiClient.Client.ReadServices
import BeringeiClient.Client.Lifecycle
import BeringeiClient.Client.Enqueue
import BeringeiClient.Read.FutureGet
import BeringeiClient.Client.Roles
