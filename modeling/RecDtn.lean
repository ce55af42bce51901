import RecDtn.Basic
import RecDtn.Storage.Basic
import RecDtn.Storage.Refinement
import RecDtn.Storage.Faults
import RecDtn.Node.Discovery
import RecDtn.Protocol
import RecDtn.Protocol.Progress
import RecDtn.Msgpack.Codec
import RecDtn.Msgpack.Framing
import RecDtn.Msgpack.Decoded
import RecDtn.Messages
import RecDtn.Messages.Objects
import RecDtn.Messages.Accepted
import RecDtn.Node.Transport
import RecDtn.Intake
import RecDtn.Datastore
import RecDtn.Datastore.Refinement
import RecDtn.Executor.Intake
import RecDtn.Broker.Intake
import RecDtn.Client
import RecDtn.Executor.Sandbox
import RecDtn.Executor.Effects
import RecDtn.Executor.Scheduler
import RecDtn.Executor.Confinement
import RecDtn.Executor.Collect
