import Veramo.Json
import Veramo.JsonParse
import Veramo.Message
import Veramo.Agent
import Veramo.Chain
import Veramo.Mediator
import Veramo.Recipient
import Veramo.Run
import Veramo.Registry
import Veramo.Dispatch
import Veramo.Services
import Veramo.SnapStore
import Veramo.DataStore
import Veramo.DataStoreCalls
import Veramo.Writes
import Veramo.Repository
