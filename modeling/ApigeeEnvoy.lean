import ApigeeEnvoy.Config.Spec
import ApigeeEnvoy.Config.Requirement
import ApigeeEnvoy.Config.SpecExt
import ApigeeEnvoy.Config.Actions
import ApigeeEnvoy.Config.Templates
import ApigeeEnvoy.Config.Cors
import ApigeeEnvoy.Server.Timestamp
import ApigeeEnvoy.Server.AccessLog
import ApigeeEnvoy.Server.Delivery
import ApigeeEnvoy.Server.Handler
