import OpenhabConfiguration.Analysis.RulesAndSitemapText
import OpenhabConfiguration.Analysis.ThingsText
import OpenhabConfiguration.Interface.Names
import OpenhabConfiguration.Interface.Routing
import OpenhabConfiguration.Analysis.SensorRouting
import OpenhabConfiguration.Analysis.References
import OpenhabConfiguration.Interface.RuleEngine
import OpenhabConfiguration.Analysis.RuleRuns
import OpenhabConfiguration.Library.Accumulators
import OpenhabConfiguration.Analysis.Regeneration
import OpenhabConfiguration.Model.SendFiles
import OpenhabConfiguration.Analysis.Transfer
import OpenhabConfiguration.Analysis.TransferReport
import OpenhabConfiguration.Analysis.Deployment
import OpenhabConfiguration.Analysis.MainRuns
import OpenhabConfiguration.Model.RemoteScript
import OpenhabConfiguration.Analysis.ConcurrentRestarts
import OpenhabConfiguration.Analysis.RestartReports
import OpenhabConfiguration.Analysis.UploadSteps
import OpenhabConfiguration.Library.Runs
import OpenhabConfiguration.Interface.DelayedRules
import OpenhabConfiguration.Analysis.DelayedRules
import OpenhabConfiguration.Library.RoundRobin
import OpenhabConfiguration.Model.TestPlan
import OpenhabConfiguration.Analysis.LoadTest
import OpenhabConfiguration.Analysis.MeterReadings
import OpenhabConfiguration.Model.PrintWriter
import OpenhabConfiguration.Analysis.FileWrites
import OpenhabConfiguration.Analysis.BridgeFile
import OpenhabConfiguration.Model.Initialisation
import OpenhabConfiguration.Analysis.FirstCall
import OpenhabConfiguration.Analysis.ConfigurationReads
import OpenhabConfiguration.Library.BufferedWriter
import OpenhabConfiguration.Library.Charsets
import OpenhabConfiguration.Analysis.FileBytes
import OpenhabConfiguration.Analysis.GeneratorLoops
import OpenhabConfiguration.Interface.MessageDelivery
import OpenhabConfiguration.Analysis.LoadedHouse
import OpenhabConfiguration.Analysis.LoadRuns
import OpenhabConfiguration.Library.Frames
import OpenhabConfiguration.Analysis.DeploymentHistory
import OpenhabConfiguration.Analysis.ConcurrentDeployments
import OpenhabConfiguration.Analysis.ScriptRuns
import OpenhabConfiguration.Library.Pacing
import OpenhabConfiguration.Model.LoadTiming
import OpenhabConfiguration.Analysis.LoadTiming
import OpenhabConfiguration.Analysis.HeldConfiguration
import OpenhabConfiguration.Analysis.MeterTotals
import OpenhabConfiguration.Library.Resources
import OpenhabConfiguration.Model.ResourceUse
import OpenhabConfiguration.Analysis.ResourceUse
import OpenhabConfiguration.Analysis.RestartResources
