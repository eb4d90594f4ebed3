import MITuna.Job.Basic
import MITuna.Job.Results
import MITuna.Job.Protocol
import MITuna.Job.ProtocolInvariant
import MITuna.Store.SqlText
import MITuna.Store.Statements
import MITuna.Store.Select
import MITuna.Store.SessionRetry
import MITuna.PyText
import MITuna.MIOpen.JobQuery
import MITuna.MIOpen.Context
import MITuna.MIOpen.LoadJob
import MITuna.MIOpen.LoadQuery
import MITuna.MIOpen.Args
import MITuna.MIOpen.WorkerList
import MITuna.MIOpen.AnalyzeFdb
import MITuna.MIOpen.CompareFdb
import MITuna.RocMLIR.Worker
import MITuna.RocMLIR.RunCmd
import MITuna.RocMLIR.Results
import MITuna.Store.ValueMap
import MITuna.GoFish
