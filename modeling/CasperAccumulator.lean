import CasperAccumulator.Types
import CasperAccumulator.Acceptor
import CasperAccumulator.Accumulator
import CasperAccumulator.Steps
import CasperAccumulator.Sync
import CasperAccumulator.HighestUsable
import CasperAccumulator.LocalTip
import CasperAccumulator.Invariants
import CasperAccumulator.Registration
import CasperAccumulator.Gossip
import CasperAccumulator.Refresh
import CasperAccumulator.Progress
import CasperAccumulator.UsableHeight
import CasperAccumulator.Redelivery
