import P4xos.Bluespec.Paxos
import P4xos.Bluespec.Quorums
import P4xos.Bmv2.Agreement
import P4xos.Bmv2.AppErrors
import P4xos.Bmv2.Backend
import P4xos.Bmv2.Ballots
import P4xos.Bmv2.Channels
import P4xos.Bmv2.Codec
import P4xos.Bmv2.Convergence
import P4xos.Bmv2.Datagrams
import P4xos.Bmv2.Demo
import P4xos.Bmv2.DemoRuns
import P4xos.Bmv2.Fabric
import P4xos.Bmv2.FastPath
import P4xos.Bmv2.Gaps
import P4xos.Bmv2.Learner
import P4xos.Bmv2.Linear
import P4xos.Bmv2.PaxosLearner
import P4xos.Bmv2.Proposer
import P4xos.Bmv2.Quorums
import P4xos.Bmv2.Recovery
import P4xos.Bmv2.Requests
import P4xos.Bmv2.Responses
import P4xos.Bmv2.Rounds
import P4xos.Bmv2.Runs
import P4xos.Bmv2.Sequential
import P4xos.Bmv2.Site
import P4xos.Bmv2.Store
import P4xos.Bmv2.System
import P4xos.Bmv2.WebStore
import P4xos.Bmv2.WellFormed
import P4xos.Dpdk.Acceptor
import P4xos.Dpdk.Backup
import P4xos.Dpdk.Coordinator
import P4xos.Dpdk.Drain
import P4xos.Dpdk.Frame
import P4xos.Dpdk.Latency
import P4xos.Dpdk.Learner
import P4xos.Dpdk.Lengths
import P4xos.Dpdk.Libpaxos
import P4xos.Dpdk.Proposer
import P4xos.Dpdk.ProposerRx
import P4xos.Dpdk.Received
import P4xos.Dpdk.RoundTrip
import P4xos.Dpdk.Stale
import P4xos.Dpdk.Statistics
import P4xos.Dpdk.Transmit
import P4xos.Dpdk.Values
import P4xos.Equiv.Acceptors
import P4xos.Equiv.Capacity
import P4xos.Equiv.Coordinators
import P4xos.Equiv.Delivery
import P4xos.Equiv.Instances
import P4xos.Equiv.Learners
import P4xos.Equiv.Promises
import P4xos.Lib.Buffer
import P4xos.Lib.Checked
import P4xos.Lib.InOrder
import P4xos.Lib.Keyed
import P4xos.Lib.LastWrite
import P4xos.Lib.Machine
import P4xos.Lib.Network
import P4xos.Lib.Numbering
import P4xos.Lib.OnesComplement
import P4xos.Lib.Polling
import P4xos.Lib.Promise
import P4xos.Lib.Register
import P4xos.Lib.Tally
import P4xos.Lib.Voting
import P4xos.Lib.Wire
import P4xos.Netro.Pipeline
import P4xos.Netro.Plugin
import P4xos.P4v14.Acceptor
import P4xos.P4v14.CalculatedFields
import P4xos.P4v14.Coordinator
import P4xos.P4v14.Header
import P4xos.P4v14.L2
import P4xos.P4v14.Learner
import P4xos.P4v16.Acceptor
import P4xos.P4v16.Checksum
import P4xos.P4v16.Header
import P4xos.P4v16.Hops
import P4xos.P4v16.Leader
import P4xos.P4v16.Learner
import P4xos.P4v16.Parser
import P4xos.P4v16.Safety
import P4xos.P4v16.Switch
